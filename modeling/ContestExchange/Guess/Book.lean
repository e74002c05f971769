import ContestExchange.Exchange.Basic
import ContestExchange.Field.Catalogue
import ContestExchange.Guess.Prefill
import ContestExchange.Guess.Rule
import ContestExchange.Observation

/-!
# The guess book

The guess book answers what a station will send in a field.  A guess is made
once for each station and field and then stands in the book, even if it came out
empty; what the station was heard to send replaces it.  Only values that were
heard outlive a session: `snapshot` lists them, and `restore` writes such a list
into a book.

A guess asks the expected values first, then the rule of the field.  What comes
out is written in the field's canonical form if the field takes it, and as it is
otherwise.
-/

namespace ContestExchange

open Text

/-- What guesses are made from. -/
structure Sources where
  /-- The record of a normal callsign. -/
  record? : String → Option StationRecord
  zone? : ZoneKind → String → Option UInt32
  prefill : Prefill

namespace Sources

def empty : Sources :=
  ⟨fun _ => none, fun _ _ => none, .empty⟩

/-- Whether the record of the station is looked up for a guess. -/
def asksRecord (s : Sources) (call field : String) : Bool :=
  (s.prefill.get? field call).isNone && (GuessRule.of? field).isSome

/-- What the sources say, before it is brought into the field's form. -/
def raw? (s : Sources) (call field : String) : Option String :=
  match s.prefill.get? field call with
  | some v => some v
  | none => (GuessRule.of? field).bind fun r => r.evaluate (s.record? call) (s.zone? · call)

/-- The guess for a normal callsign; empty if nothing is known. -/
def guess (s : Sources) (c : Catalogue) (call field : String) : String :=
  match s.raw? call field with
  | none => ""
  | some v => (c.canonical? field (upper (trim v))).getD (upper (trim v))

end Sources

/-- What the book says for a station and a field. -/
structure Noted where
  value : String
  /-- Whether it was heard, and not guessed. -/
  isObserved : Bool
deriving DecidableEq

structure Book where
  sources : Sources
  /-- What stands in the book, by callsign and field. -/
  notes : Dictionary (String × String) Noted
  /-- How often a station's record was looked up. -/
  lookups : Nat

namespace Book

def ofSources (s : Sources) : Book :=
  ⟨s, .empty, 0⟩

def cached? (b : Book) (call field : String) : Option String :=
  (b.notes.get? (Callsign.normalize call, field)).map Noted.value

/-- Answers what a station will send in a field. -/
def guess (b : Book) (c : Catalogue) (call field : String) : Book × String :=
  let key := (Callsign.normalize call, field)
  match b.notes.get? key with
  | some n => (b, n.value)
  | none =>
    let v := b.sources.guess c key.1 field
    let lookups := if b.sources.asksRecord key.1 field then b.lookups + 1 else b.lookups
    ({ b with notes := b.notes.put key ⟨v, false⟩, lookups }, v)

/-- Writes a value that was heard. -/
def set (b : Book) (call field value : String) : Book :=
  { b with notes := b.notes.put (Callsign.normalize call, field) ⟨value, true⟩ }

/-- Writes an observation, under its callsign as it stands. -/
def note (b : Book) (o : Observation) : Book :=
  { b with notes := b.notes.put o.key ⟨o.value, true⟩ }

theorem set_eq_note (b : Book) (call field value : String) :
    b.set call field value = b.note (.of call field value) := rfl

def restore (b : Book) (l : List Observation) : Book :=
  l.foldl note b

theorem restore_append (b : Book) (l m : List Observation) :
    b.restore (l ++ m) = (b.restore l).restore m :=
  List.foldl_append

theorem lookups_restore (b : Book) (l : List Observation) : (b.restore l).lookups = b.lookups := by
  induction l generalizing b with
  | nil => rfl
  | cons o r ih => exact ih (b.note o)

/-- Writes observations one after another, and counts them. -/
def restoreCounting (b : Book) (l : List Observation) : Book × Nat :=
  l.foldl (fun r o => (r.1.note o, r.2 + 1)) (b, 0)

theorem restoreCounting_eq (b : Book) (l : List Observation) :
    b.restoreCounting l = (b.restore l, l.length) := by
  have h : ∀ n, l.foldl (fun r o => (r.1.note o, r.2 + 1)) (b, n) =
      (b.restore l, n + l.length) := by
    induction l generalizing b with
    | nil => exact fun n => rfl
    | cons o r ih =>
      intro n
      rw [List.foldl_cons, ih, List.length_cons, Nat.add_right_comm]
      rfl
  rw [restoreCounting, h, Nat.zero_add]

/-- The observation of a note that was heard. -/
def observation? (e : (String × String) × Noted) : Option Observation :=
  if e.2.isObserved then some ⟨e.1.1, e.1.2, e.2.value⟩ else none

/-- What was heard, in order. -/
def snapshot (b : Book) : List Observation :=
  Observation.sort (b.notes.entries.filterMap observation?)

def size (b : Book) : Nat :=
  b.notes.size

def isEmpty (b : Book) : Bool :=
  b.notes.isEmpty

end Book

namespace Entry

/-- What a filled slot tells about a station: the value of its field and, for a
group, of the group too. -/
def observations (e : Entry) (call : String) : List Observation :=
  if e.value = "" then []
  else if e.slot = e.field then [⟨call, e.field, e.value⟩]
  else [⟨call, e.field, e.value⟩, ⟨call, e.slot, e.value⟩]

end Entry

namespace Exchange

/-- The normal callsign of the station that sent the exchange, which a
correction in it overrides. -/
def sender (x : Exchange) (call : String) : String :=
  Callsign.normalize (x.correction.getD call)

/-- What a logged exchange tells about its sender; an invalid one tells nothing. -/
def observations (x : Exchange) (call : String) : List Observation :=
  if x.isValid then x.entries.flatMap (·.observations (x.sender call)) else []

end Exchange

namespace Book

/-- Writes what a logged exchange tells. -/
def recordLogged (b : Book) (call : String) (x : Exchange) : Book :=
  b.restore (x.observations call)

end Book

end ContestExchange
