import ContestExchange.Callsign
import ContestExchange.Json.Decoder

/-!
# Rosters

A roster holds what is known about stations from earlier contests, one record
for each callsign.  A record is kept as it was written; an attribute counts as
known only if something besides blanks is written for it, and then `get?` gives
it without the blanks around it.
-/

namespace ContestExchange

open Json Text

/-- What may be known about a station. -/
inductive Attribute where
  | age
  /-- The year of the first licence. -/
  | check
  | cqZone
  | ituZone
  /-- The power in Morse. -/
  | cwPower
  /-- The power in telephony. -/
  | ssbPower
  /-- The entry class that is sent as precedence. -/
  | precedence
  | name
  /-- The place, in free words. -/
  | qth
  | societySection
  /-- The state or province. -/
  | state
  | society
  | grid
  /-- The membership number in the first class operators' club. -/
  | foc
  /-- The membership number in the straight key club. -/
  | skcc
  /-- The code of the local chapter. -/
  | dok
  /-- The Ten-Ten membership number. -/
  | tenTen
deriving DecidableEq, Repr

namespace Attribute

/-- All attributes, in the order in which records list them. -/
def all : List Attribute :=
  [age, check, cqZone, ituZone, cwPower, ssbPower, precedence, name, qth, societySection, state,
    society, grid, foc, skcc, dok, tenTen]

def key : Attribute → String
  | age => "age"
  | check => "check"
  | cqZone => "cq_zone"
  | ituZone => "itu_zone"
  | cwPower => "cw_power"
  | ssbPower => "ssb_power"
  | precedence => "precedence"
  | name => "name"
  | qth => "qth"
  | societySection => "section"
  | state => "state"
  | society => "society"
  | grid => "grid"
  | foc => "foc"
  | skcc => "skcc"
  | dok => "dok"
  | tenTen => "ten_ten"

theorem mem_all (a : Attribute) : a ∈ all := by
  cases a <;> decide

end Attribute

/-- What is known about a station. -/
structure StationRecord where
  /-- The callsign, as it was written. -/
  call : String
  written : Dictionary Attribute String

namespace StationRecord

def get? (r : StationRecord) (a : Attribute) : Option String :=
  ((r.written.get? a).map trim).filter (· != "")

theorem ne_empty_of_get? {r : StationRecord} {a : Attribute} {v : String}
    (h : r.get? a = some v) : v ≠ "" := by
  rw [get?, Option.filter_eq_some_iff] at h
  simpa using h.2

theorem trim_of_get? {r : StationRecord} {a : Attribute} {v : String}
    (h : r.get? a = some v) : trim v = v := by
  rw [get?, Option.filter_eq_some_iff, Option.map_eq_some_iff] at h
  obtain ⟨⟨w, -, rfl⟩, -⟩ := h
  exact trim_trim w

/-- Reads a record; whatever is missing is unknown. -/
def decoder : Decoder StationRecord := fun v => do
  let f ← fields? ("call" :: Attribute.all.map Attribute.key) v
  let call ← f.withDefault "call" "" text?
  let written ← Attribute.all.mapM fun a =>
    (f.withDefault a.key none (nullable? text?)).map fun w => w.map (a, ·)
  return ⟨call, .ofList (written.filterMap id)⟩

/-- A record in JSON, without what is unknown. -/
def toJson (r : StationRecord) : Json :=
  .record (("call", .text r.call) ::
    Attribute.all.filterMap fun a => (r.written.get? a).map fun v => (a.key, .text v))

end StationRecord

/-- The records of stations. -/
structure Roster where
  records : Dictionary String StationRecord

namespace Roster

def empty : Roster :=
  ⟨.empty⟩

/-- Adds a record, over an earlier one of the same station. -/
def insert (r : Roster) (s : StationRecord) : Roster :=
  ⟨r.records.put (Callsign.normalize s.call) s⟩

def ofList (l : List StationRecord) : Roster :=
  l.foldl insert empty

def get? (r : Roster) (call : String) : Option StationRecord :=
  r.records.get? call

def size (r : Roster) : Nat :=
  r.records.size

def isEmpty (r : Roster) : Bool :=
  r.records.isEmpty

/-- Reads a roster from its text, an array of records. -/
def parse? (s : String) : Option Roster :=
  (decode? (list? StationRecord.decoder) s).map ofList

end Roster

end ContestExchange
