import Mathlib.Data.Finset.Card
import Mathlib.Data.Finset.Dedup
import ContestExchange.Guess.Book

/-!
# What a book remembers

A book is used in four ways, and each of them touches some keys: it asks for a
guess, with the fields as they are at that moment, or it tells what was heard
(`Book.Use.touches`).  What the book says of a key is determined by the touches
that the key has had (`Remembers`): the last value heard, or else the guess that was
made when it was first asked for.  The record of a station is looked up for the keys
that were first touched by asking, and once for each (`History.lookedUp`).
-/

namespace ContestExchange

/-- How a key of a guess book is touched. -/
inductive Touch where
  /-- A guess is asked for, with the fields of the moment. -/
  | asked (c : Catalogue)
  | heard (value : String)

namespace Touch

def value? : Touch → Option String
  | asked _ => none
  | heard v => some v

def catalogue? : Touch → Option Catalogue
  | asked c => some c
  | heard _ => none

end Touch

namespace Sources

variable {s : Sources} {call field : String}

theorem asksRecord_iff : s.asksRecord call field = true ↔
    s.prefill.get? field call = none ∧ (GuessRule.of? field).isSome = true := by
  rw [asksRecord, Bool.and_eq_true, Option.isNone_iff_eq_none]

/-- Whoever does not ask for the record answers the same whatever the records are. -/
theorem guess_of_not_asksRecord (h : s.asksRecord call field = false)
    (record? : String → Option StationRecord) (c : Catalogue) :
    Sources.guess { s with record? } c call field = s.guess c call field := by
  have hraw : Sources.raw? { s with record? } call field = s.raw? call field := by
    rw [asksRecord, Bool.and_eq_false_iff] at h
    rw [raw?, raw?]
    cases hp : s.prefill.get? field call with
    | some v => rfl
    | none =>
      rw [hp] at h
      simp_all
  rw [guess, guess, hraw]

end Sources

/-- The touches of a book's keys, the oldest first. -/
abbrev History :=
  List ((String × String) × Touch)

namespace History

variable {h : History} {key k : String × String} {s : Sources}

/-- The touches that a key has had. -/
def of (h : History) (key : String × String) : List Touch :=
  (h.filter (·.1 = key)).map Prod.snd

/-- The value heard last under a key. -/
def lastHeard? (h : History) (key : String × String) : Option String :=
  ((h.of key).filterMap Touch.value?).getLast?

/-- The fields of the moment when a key was first touched, if it was asked for then. -/
def firstAsked? (h : History) (key : String × String) : Option Catalogue :=
  (h.of key).head?.bind Touch.catalogue?

/-- What is to be said of a key after its touches, if it had any. -/
def said? (s : Sources) (h : History) (key : String × String) : Option String :=
  (h.lastHeard? key).or ((h.firstAsked? key).map fun c => s.guess c key.1 key.2)

/-- The keys first touched by asking, if nothing is expected for them and there is a rule. -/
def lookedUp (s : Sources) (h : History) : Finset (String × String) :=
  (h.map Prod.fst).toFinset.filter fun key =>
    (h.firstAsked? key).isSome ∧ s.prefill.get? key.2 key.1 = none ∧ (GuessRule.of? key.2).isSome

/-! ### One more touch -/

theorem of_append (h : History) (key k : String × String) (t : Touch) :
    of (h ++ [(key, t)]) k = h.of k ++ if k = key then [t] else [] := by
  rw [of, List.filter_append, List.map_append]
  by_cases hk : k = key
  · simp [hk, of]
  · simp [hk, Ne.symm hk, of]

theorem of_eq_nil_iff : h.of k = [] ↔ k ∉ h.map Prod.fst := by
  simp only [of, List.map_eq_nil_iff, List.filter_eq_nil_iff, List.mem_map, decide_eq_true_eq,
    not_exists, not_and]

theorem lastHeard?_asked (h : History) (key k : String × String) (c : Catalogue) :
    lastHeard? (h ++ [(key, .asked c)]) k = h.lastHeard? k := by
  rw [lastHeard?, of_append, List.filterMap_append]
  split <;> simp [Touch.value?, lastHeard?]

theorem lastHeard?_heard (h : History) (key k : String × String) (v : String) :
    lastHeard? (h ++ [(key, .heard v)]) k = if k = key then some v else h.lastHeard? k := by
  rw [lastHeard?, of_append, List.filterMap_append]
  split <;> simp [Touch.value?, lastHeard?]

/-- Only the first touch of a key tells whether it was asked for first. -/
theorem firstAsked?_append (h : History) (key k : String × String) (t : Touch) :
    firstAsked? (h ++ [(key, t)]) k =
      if k = key ∧ k ∉ h.map Prod.fst then t.catalogue? else h.firstAsked? k := by
  rw [firstAsked?, of_append, firstAsked?]
  by_cases hmem : k ∈ h.map Prod.fst
  · obtain ⟨t', r, hof⟩ := List.exists_cons_of_ne_nil (mt of_eq_nil_iff.1 (not_not.2 hmem))
    simp [hmem, hof]
  · by_cases hk : k = key
    · simp [hk ▸ hmem, hk, of_eq_nil_iff.2 (hk ▸ hmem)]
    · simp [hk]

theorem said?_of_notMem (hk : k ∉ h.map Prod.fst) : said? s h k = none := by
  rw [← of_eq_nil_iff] at hk
  rw [said?, lastHeard?, firstAsked?, hk]
  rfl

theorem said?_of_mem (hk : k ∈ h.map Prod.fst) : ∃ v, said? s h k = some v := by
  rw [said?, lastHeard?, firstAsked?]
  cases hof : h.of k with
  | nil => exact absurd hk (of_eq_nil_iff.1 hof)
  | cons t r =>
    cases t with
    | asked c =>
      cases ((Touch.asked c :: r).filterMap Touch.value?).getLast? <;> simp [Touch.catalogue?]
    | heard v =>
      obtain ⟨w, hw⟩ : ∃ w, (v :: r.filterMap Touch.value?).getLast? = some w :=
        ⟨_, List.getLast?_eq_some_getLast (List.cons_ne_nil _ _)⟩
      exact ⟨w, by simp only [List.filterMap_cons, Touch.value?, hw, Option.some_or]⟩

theorem said?_heard (s : Sources) (h : History) (key k : String × String) (v : String) :
    said? s (h ++ [(key, .heard v)]) k = if k = key then some v else h.said? s k := by
  rw [said?, lastHeard?_heard, firstAsked?_append, said?]
  by_cases hk : k = key
  · rw [if_pos hk, if_pos hk]
    rfl
  · rw [if_neg hk, if_neg hk, if_neg fun hnew => hk hnew.1]

theorem said?_asked (s : Sources) (h : History) (key k : String × String) (c : Catalogue) :
    said? s (h ++ [(key, .asked c)]) k =
      if k = key ∧ k ∉ h.map Prod.fst then some (s.guess c k.1 k.2) else h.said? s k := by
  rw [said?, lastHeard?_asked, firstAsked?_append]
  split
  · rename_i hnew
    rw [lastHeard?, of_eq_nil_iff.2 hnew.2]
    rfl
  · rfl

theorem mem_lookedUp_iff :
    k ∈ h.lookedUp s ↔ (h.firstAsked? k).isSome = true ∧ s.asksRecord k.1 k.2 = true := by
  rw [lookedUp, Finset.mem_filter, List.mem_toFinset, Sources.asksRecord_iff,
    and_iff_right_iff_imp]
  rintro ⟨hfirst, -⟩
  by_contra hk
  rw [firstAsked?, of_eq_nil_iff.2 hk] at hfirst
  cases hfirst

theorem card_insert_lookedUp (hk : key ∉ h.map Prod.fst) :
    (insert key (h.lookedUp s)).card = (h.lookedUp s).card + 1 := by
  rw [Finset.card_insert_of_notMem]
  rw [mem_lookedUp_iff, firstAsked?, of_eq_nil_iff.2 hk]
  exact fun h => absurd h.1 Bool.false_ne_true

theorem lookedUp_heard (s : Sources) (h : History) (key : String × String) (v : String) :
    lookedUp s (h ++ [(key, .heard v)]) = h.lookedUp s := by
  ext k
  rw [mem_lookedUp_iff, mem_lookedUp_iff, firstAsked?_append]
  split
  · rename_i hk
    simp [Touch.catalogue?, firstAsked?, of_eq_nil_iff.2 hk.2]
  · rfl

theorem lookedUp_asked_of_mem (hk : key ∈ h.map Prod.fst) (c : Catalogue) :
    lookedUp s (h ++ [(key, .asked c)]) = h.lookedUp s := by
  ext k
  rw [mem_lookedUp_iff, mem_lookedUp_iff, firstAsked?_append, if_neg]
  rintro ⟨rfl, hnot⟩
  exact hnot hk

/-- A key that is first touched by asking is looked up, unless something is expected for it or
there is no rule. -/
theorem lookedUp_asked_of_notMem (hk : key ∉ h.map Prod.fst) (c : Catalogue) :
    lookedUp s (h ++ [(key, .asked c)]) =
      if s.asksRecord key.1 key.2 then insert key (h.lookedUp s) else h.lookedUp s := by
  ext k
  rw [mem_lookedUp_iff, firstAsked?_append]
  by_cases hkey : k = key
  · subst hkey
    by_cases ha : s.asksRecord k.1 k.2 = true <;> simp [ha, hk, Touch.catalogue?, mem_lookedUp_iff]
  · by_cases ha : s.asksRecord key.1 key.2 = true <;> simp [ha, hkey, mem_lookedUp_iff]

end History

/-! ### Uses of a book -/

namespace Book

/-- What is done with a book.  A guess is made with the fields of the moment. -/
inductive Use where
  | guess (c : Catalogue) (call field : String)
  | set (call field value : String)
  | restore (l : List Observation)
  | recordLogged (call : String) (x : Exchange)

/-- The keys that a use touches, in order. -/
def Use.touches : Use → History
  | guess c call field => [((Callsign.normalize call, field), .asked c)]
  | set call field value => [((Callsign.normalize call, field), .heard value)]
  | restore l => l.map fun o => (o.key, .heard o.value)
  | recordLogged call x => (x.observations call).map fun o => (o.key, .heard o.value)

def use (b : Book) : Use → Book
  | .guess c call field => (b.guess c call field).1
  | .set call field value => b.set call field value
  | .restore l => b.restore l
  | .recordLogged call x => b.recordLogged call x

/-- The book after several uses. -/
def uses (b : Book) (l : List Use) : Book :=
  l.foldl use b

variable {b : Book} {s : Sources} {h : History}

/-- The book says of each key what its touches tell, and has looked up what they ask. -/
structure Remembers (s : Sources) (h : History) (b : Book) : Prop where
  sources : b.sources = s
  value : ∀ key, (b.notes.get? key).map Noted.value = h.said? s key
  lookups : b.lookups = (h.lookedUp s).card

theorem remembers_ofSources (s : Sources) : Remembers s [] (ofSources s) :=
  ⟨rfl, fun _ => rfl, rfl⟩

namespace Remembers

theorem note (hb : b.Remembers s h) (o : Observation) :
    (b.note o).Remembers s (h ++ [(o.key, .heard o.value)]) := by
  refine ⟨hb.sources, fun key => ?_, ?_⟩
  · rw [Book.note, Dictionary.get?_put, History.said?_heard, ← hb.value]
    split <;> rfl
  · rw [History.lookedUp_heard]
    exact hb.lookups

theorem restore (hb : b.Remembers s h) (l : List Observation) :
    (b.restore l).Remembers s (h ++ l.map fun o => (o.key, .heard o.value)) := by
  induction l generalizing b h with
  | nil => rwa [List.map_nil, List.append_nil]
  | cons o r ih =>
    rw [List.map_cons, List.append_cons]
    exact ih (hb.note o)

theorem mem_touched_iff (hb : b.Remembers s h) (key : String × String) :
    key ∈ h.map Prod.fst ↔ ∃ n, b.notes.get? key = some n := by
  constructor
  · intro hmem
    obtain ⟨v, hv⟩ := History.said?_of_mem (s := s) hmem
    rw [← hb.value] at hv
    obtain ⟨n, hn, -⟩ := Option.map_eq_some_iff.1 hv
    exact ⟨n, hn⟩
  · rintro ⟨n, hn⟩
    by_contra hmem
    have hv := hb.value key
    rw [hn, History.said?_of_notMem hmem] at hv
    cases hv

/-- **Asking again changes nothing, and asking first makes the guess.** -/
theorem guess (hb : b.Remembers s h) (c : Catalogue) (call field : String) :
    (b.guess c call field).1.Remembers s (h ++ [((Callsign.normalize call, field), .asked c)]) := by
  rw [Book.guess]
  cases hn : b.notes.get? (Callsign.normalize call, field) with
  | some n =>
    have hmem := (hb.mem_touched_iff _).2 ⟨n, hn⟩
    refine ⟨hb.sources, fun key => ?_, ?_⟩
    · rw [hb.value, History.said?_asked, if_neg]
      rintro ⟨rfl, hnot⟩
      exact hnot hmem
    · rw [History.lookedUp_asked_of_mem hmem]
      exact hb.lookups
  | none =>
    have hmem : (Callsign.normalize call, field) ∉ h.map Prod.fst := by
      rw [hb.mem_touched_iff, hn]
      rintro ⟨n, hn⟩
      cases hn
    refine ⟨hb.sources, fun key => ?_, ?_⟩
    · rw [Dictionary.get?_put, History.said?_asked, hb.sources]
      by_cases hkey : key = (Callsign.normalize call, field)
      · rw [if_pos hkey, if_pos ⟨hkey, hkey ▸ hmem⟩, hkey]
        rfl
      · rw [if_neg hkey, if_neg fun hnew => hkey hnew.1, hb.value]
    · rw [History.lookedUp_asked_of_notMem hmem, hb.sources]
      simp only
      split
      · rw [History.card_insert_lookedUp hmem, hb.lookups]
      · exact hb.lookups

/-- **A use touches its keys**, and the book goes on from what it remembered. -/
theorem use (hb : b.Remembers s h) (u : Use) : (b.use u).Remembers s (h ++ u.touches) := by
  cases u with
  | guess c call field => exact hb.guess c call field
  | set call field value => exact hb.note (.of call field value)
  | restore l => exact hb.restore l
  | recordLogged call x => exact hb.restore (x.observations call)

theorem uses (hb : b.Remembers s h) (l : List Use) :
    (b.uses l).Remembers s (h ++ l.flatMap Use.touches) := by
  induction l generalizing b h with
  | nil => rwa [List.flatMap_nil, List.append_nil]
  | cons u r ih =>
    rw [List.flatMap_cons, ← List.append_assoc]
    exact ih (hb.use u)

theorem answer (hb : b.Remembers s h) (c : Catalogue) (call field : String) :
    (b.guess c call field).2 =
      (h.said? s (Callsign.normalize call, field)).getD
        (s.guess c (Callsign.normalize call) field) := by
  rw [← hb.value, Book.guess]
  cases b.notes.get? (Callsign.normalize call, field) with
  | some n => rfl
  | none => rw [hb.sources]; rfl

end Remembers

/-- **What a guess book answers.**  After any uses, and with any fields, it is the value heard last
from the station in the field; if none was heard, it is the guess of the moment when the key was
first asked for.  Records have been looked up for the keys that were first touched by asking while
nothing was expected for them and there was a rule: once for each, and never for a key that was
touched before. -/
theorem guess_uses (s : Sources) (l : List Use) (c : Catalogue) (call field : String) :
    let key := (Callsign.normalize call, field)
    let h : History := l.flatMap Use.touches
    let b := (ofSources s).uses l
    (b.guess c call field).2 = (match h.lastHeard? key with
        | some v => v
        | none => s.guess ((h.firstAsked? key).getD c) key.1 key.2) ∧
      b.lookups = (h.lookedUp s).card ∧
      (b.guess c call field).1.lookups = b.lookups +
        if key ∉ h.map Prod.fst ∧ s.prefill.get? field key.1 = none ∧ (GuessRule.of? field).isSome
        then 1 else 0 := by
  intro key h b
  have hb : b.Remembers s h := (remembers_ofSources s).uses l
  refine ⟨?_, hb.lookups, ?_⟩
  · rw [hb.answer, History.said?]
    show Option.getD (Option.or (h.lastHeard? key) _) _ = _
    cases h.lastHeard? key with
    | some v => rfl
    | none => cases h.firstAsked? key <;> rfl
  · rw [(hb.guess c call field).lookups, hb.lookups]
    by_cases hkey : key ∈ h.map Prod.fst
    · rw [History.lookedUp_asked_of_mem hkey, if_neg fun hnew => hnew.1 hkey]
      rfl
    · rw [History.lookedUp_asked_of_notMem hkey]
      by_cases ha : s.asksRecord key.1 field = true
      · rw [if_pos ha, if_pos ⟨hkey, Sources.asksRecord_iff.1 ha⟩,
          History.card_insert_lookedUp hkey]
      · rw [if_neg ha, if_neg fun hnew => ha (Sources.asksRecord_iff.2 hnew.2)]
        rfl

end Book

end ContestExchange
