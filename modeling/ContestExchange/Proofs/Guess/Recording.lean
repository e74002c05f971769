import Mathlib.Data.List.Nodup
import Mathlib.Data.List.Pairwise
import ContestExchange.Proofs.Guess.Restoring

/-!
# Recording logged exchanges

A logged exchange tells its values under the names of the fields and, where a slot is a group,
under the name of the group too (`Exchange.filledNames`).  An exchange is asked for the value
under a name by its first entry of that name (`Exchange.value?`), while of the observations that
it tells the last one under a name stands in the book.  The two agree if no two entries have a
name in common (`Exchange.Distinct`), for then a name has but one entry
(`Exchange.Distinct.eq_of_mem_names`).

So the values of a logged exchange are what is guessed from then on, under the callsign of its
sender, and nothing else in the book is touched (`guess_recordLogged`).
-/

namespace ContestExchange

namespace Entry

/-- The names of an entry: that of its field and, for a group, that of the slot. -/
def names (e : Entry) : List String :=
  if e.slot = e.field then [e.field] else [e.field, e.slot]

theorem mem_names_iff {e : Entry} {n : String} : n ∈ e.names ↔ n = e.field ∨ n = e.slot := by
  rw [names]
  split
  · rename_i h
    rw [List.mem_singleton, h, or_self]
  · rw [List.mem_cons, List.mem_singleton]

theorem nodup_names (e : Entry) : e.names.Nodup := by
  rw [names]
  split
  · exact List.nodup_singleton _
  · rename_i h
    simpa using Ne.symm h

theorem notMem_names {e f : Entry} {n : String}
    (h : e.field ≠ f.field ∧ e.slot ≠ f.slot ∧ e.field ≠ f.slot ∧ e.slot ≠ f.field)
    (hn : n ∈ e.names) : n ∉ f.names := by
  obtain ⟨hfield, hslot, hcross, hcross'⟩ := h
  intro hn'
  rw [mem_names_iff] at hn hn'
  rcases hn with rfl | rfl <;> rcases hn' with hn' | hn'
  · exact hfield hn'
  · exact hcross hn'
  · exact hcross' hn'
  · exact hslot hn'

theorem observations_of_ne_empty {e : Entry} (h : e.value ≠ "") (call : String) :
    e.observations call = e.names.map fun n => ⟨call, n, e.value⟩ := by
  rw [observations, if_neg h, names]
  split <;> rfl

end Entry

namespace Exchange

variable {x : Exchange} {e f : Entry} {n call : String}

/-- No two entries have a name in common, be it the name of a field or of a slot. -/
def Distinct (x : Exchange) : Prop :=
  x.entries.Pairwise fun e f =>
    e.field ≠ f.field ∧ e.slot ≠ f.slot ∧ e.field ≠ f.slot ∧ e.slot ≠ f.field

instance : DecidablePred Distinct :=
  fun x => inferInstanceAs (Decidable (x.entries.Pairwise _))

/-- The names that have a value, in the order of the slots; the name of a field stands before that
of its group. -/
def filledNames (x : Exchange) : List String :=
  (x.entries.filter fun e => e.value != "").flatMap Entry.names

theorem mem_filledNames_iff :
    n ∈ x.filledNames ↔ ∃ e ∈ x.entries, e.value ≠ "" ∧ (n = e.field ∨ n = e.slot) := by
  simp only [filledNames, List.mem_flatMap, List.mem_filter, bne_iff_ne, Entry.mem_names_iff,
    and_assoc]

/-! ### One entry for each name -/

namespace Distinct

theorem ne_of_ne (h : x.Distinct) (he : e ∈ x.entries) (hf : f ∈ x.entries) (hne : e ≠ f) :
    e.field ≠ f.field ∧ e.slot ≠ f.slot ∧ e.field ≠ f.slot ∧ e.slot ≠ f.field := by
  have hsymm : Std.Symm fun e f : Entry =>
      e.field ≠ f.field ∧ e.slot ≠ f.slot ∧ e.field ≠ f.slot ∧ e.slot ≠ f.field := by
    constructor
    intro e f ⟨hfield, hslot, hcross, hcross'⟩
    exact ⟨hfield.symm, hslot.symm, hcross'.symm, hcross.symm⟩
  exact List.Pairwise.forall h he hf hne

/-- **A name has one entry.** -/
theorem eq_of_mem_names (h : x.Distinct) (he : e ∈ x.entries) (hf : f ∈ x.entries)
    (hne : n ∈ e.names) (hnf : n ∈ f.names) : e = f := by
  by_contra hdiff
  exact Entry.notMem_names (h.ne_of_ne he hf hdiff) hne hnf

theorem value?_of_mem (h : x.Distinct) (he : e ∈ x.entries) (hn : n ∈ e.names) :
    x.value? n = some e.value := by
  have hhas : ∀ f : Entry, (f.field == n || f.slot == n) = true ↔ n ∈ f.names := by
    intro f
    rw [Bool.or_eq_true, beq_iff_eq, beq_iff_eq, Entry.mem_names_iff, eq_comm (a := f.field),
      eq_comm (a := f.slot)]
  have hsome : (x.entries.find? fun f => f.field == n || f.slot == n).isSome = true := by
    rw [List.find?_isSome]
    exact ⟨e, he, (hhas e).2 hn⟩
  obtain ⟨f, hf⟩ := Option.isSome_iff_exists.1 hsome
  have hfound := List.find?_some hf
  have hnf : n ∈ f.names := (hhas f).1 hfound
  obtain rfl : e = f := h.eq_of_mem_names he (List.mem_of_find?_eq_some hf) hn hnf
  rw [value?, hf, Option.map_some]

theorem nodup_filledNames (h : x.Distinct) : x.filledNames.Nodup := by
  rw [filledNames, List.nodup_flatMap]
  refine ⟨fun e _ => e.nodup_names, ?_⟩
  refine (List.Pairwise.filter _ h).imp fun {e f} hne => ?_
  intro n hn
  exact Entry.notMem_names hne hn

end Distinct

/-! ### What an exchange tells -/

theorem flatMap_observations (l : List Entry) (call : String) :
    l.flatMap (·.observations call) = (l.filter fun e => e.value != "").flatMap fun e =>
      e.names.map fun n => (⟨call, n, e.value⟩ : Observation) := by
  induction l with
  | nil => rfl
  | cons e r ih =>
    by_cases he : e.value = ""
    · have hnone : e.observations call = [] := if_pos he
      rw [List.flatMap_cons, hnone, List.nil_append, ih, List.filter_cons_of_neg (by simp [he])]
    · rw [List.flatMap_cons, Entry.observations_of_ne_empty he, ih,
        List.filter_cons_of_pos (by simpa using he), List.flatMap_cons]

/-- **An exchange tells the value under each name that has one.** -/
theorem Distinct.observations_eq (h : x.Distinct) (hv : x.isValid = true) (call : String) :
    x.observations call =
      x.filledNames.map fun n => ⟨x.sender call, n, (x.value? n).getD ""⟩ := by
  rw [observations, if_pos hv, flatMap_observations, filledNames, List.map_flatMap]
  refine List.flatMap_congr fun e he => List.map_congr_left fun n hn => ?_
  rw [h.value?_of_mem (List.mem_filter.1 he).1 hn, Option.getD_some]

theorem Distinct.keys_observations (h : x.Distinct) (hv : x.isValid = true) (call : String) :
    (x.observations call).map Observation.key = x.filledNames.map (x.sender call, ·) := by
  rw [h.observations_eq hv, List.map_map]
  rfl

end Exchange

namespace Book

variable {b : Book} {x : Exchange} {e : Entry} {n call : String}

theorem guess_of_get? {noted : Noted} {field : String}
    (h : b.notes.get? (Callsign.normalize call, field) = some noted) (c : Catalogue) :
    b.guess c call field = (b, noted.value) := by
  rw [guess, h]

/-- **The values of a logged exchange stand in the book** under the callsign of its sender. -/
theorem get?_recordLogged (b : Book) (hx : x.Distinct) (hv : x.isValid = true)
    (he : e ∈ x.entries) (hne : e.value ≠ "") (hn : n = e.field ∨ n = e.slot) (call : String) :
    (b.recordLogged call x).notes.get? (x.sender call, n) = some ⟨e.value, true⟩ := by
  have hnodup : ((x.observations call).map Observation.key).Nodup := by
    rw [hx.keys_observations hv]
    exact hx.nodup_filledNames.map fun _ _ hk => (Prod.ext_iff.1 hk).2
  have hmem : ⟨x.sender call, n, e.value⟩ ∈ x.observations call := by
    rw [hx.observations_eq hv]
    refine List.mem_map.2 ⟨n, Exchange.mem_filledNames_iff.2 ⟨e, he, hne, hn⟩, ?_⟩
    rw [hx.value?_of_mem he (Entry.mem_names_iff.2 hn), Option.getD_some]
  have hheard := b.heard?_restore_of_mem hnodup hmem
  rw [Observation.key] at hheard
  rw [recordLogged]
  exact get?_of_heard? hheard

theorem get?_recordLogged_of_notMem (b : Book) (hx : x.Distinct) (hv : x.isValid = true)
    {key : String × String} (h : key.1 = x.sender call → key.2 ∉ x.filledNames) :
    (b.recordLogged call x).notes.get? key = b.notes.get? key := by
  apply get?_restore_of_notMem
  rw [hx.keys_observations hv]
  intro hmem
  obtain ⟨n, hn, rfl⟩ := List.mem_map.1 hmem
  exact h rfl hn

theorem recordLogged_of_not_valid (b : Book) (hv : x.isValid = false) (call : String) :
    b.recordLogged call x = b ∧ x.observations call = [] := by
  have hnone : x.observations call = [] := by
    rw [Exchange.observations, hv]
    rfl
  refine ⟨?_, hnone⟩
  rw [recordLogged, hnone]
  rfl

/-- **What was logged is what is guessed.**  After a valid exchange is recorded in which no two
entries have a name in common, the guess for the sender under the name of a filled field, or under
the name of its slot, is the value that the exchange has under that name; the book answers it as it
stands and looks nothing up.  The exchange tells just these values, once under each name, in the
order of the slots and of a field before its group.  Whatever else stands in the book is as it was.
An exchange that is not valid tells nothing and leaves the book alone. -/
theorem guess_recordLogged (b : Book) (call : String) (x : Exchange) :
    let sender := Callsign.normalize (x.correction.getD call)
    let b' := b.recordLogged call x
    (x.isValid = true → x.Distinct →
      (∀ e ∈ x.entries, e.value ≠ "" → ∀ n, n = e.field ∨ n = e.slot →
        x.value? n = some e.value ∧
          ∀ c call', Callsign.normalize call' = sender → b'.guess c call' n = (b', e.value)) ∧
        x.observations call =
          x.filledNames.map (fun n => ⟨sender, n, (x.value? n).getD ""⟩) ∧
        x.filledNames.Nodup ∧ b'.sources = b.sources ∧ b'.lookups = b.lookups ∧
        ∀ key, (key.1 = sender → ∀ e ∈ x.entries, e.value ≠ "" →
          key.2 ≠ e.field ∧ key.2 ≠ e.slot) → b'.notes.get? key = b.notes.get? key) ∧
      (x.isValid = false → b' = b ∧ x.observations call = []) := by
  intro sender b'
  refine ⟨fun hv hx => ?_, fun hv => b.recordLogged_of_not_valid hv call⟩
  refine ⟨fun e he hne n hn => ⟨hx.value?_of_mem he (Entry.mem_names_iff.2 hn), ?_⟩,
    hx.observations_eq hv call, hx.nodup_filledNames, sources_restore _ _, lookups_restore _ _, ?_⟩
  · intro c call' hcall
    have hnote : b'.notes.get? (sender, n) = some ⟨e.value, true⟩ :=
      b.get?_recordLogged hx hv he hne hn call
    rw [← hcall] at hnote
    exact guess_of_get? hnote c
  · intro key hkey
    apply b.get?_recordLogged_of_notMem hx hv
    intro hsender hmem
    obtain ⟨e, he, hne, hname⟩ := Exchange.mem_filledNames_iff.1 hmem
    obtain ⟨hfield, hslot⟩ := hkey hsender e he hne
    exact hname.elim hfield hslot

/-- A station that corrects its callsign sends its society where a zone was expected, and no
age. -/
theorem guess_recordLogged_society :
    let x : Exchange := ⟨[⟨"RST", "RST", "599", false⟩,
      ⟨"SOCIETY", "ITUZONE+SOCIETY", "RAC", true⟩, ⟨"AGE", "AGE", "", false⟩], some "ve3abc", true,
      []⟩
    let b := ((ofSources .empty).set "VE3ABC" "ITUZONE+SOCIETY" "4").set "VE3ABC" "AGE" "44"
    let b' := b.recordLogged "VE2ABC" x
    x.isValid = true ∧ x.Distinct ∧ x.value? "ITUZONE+SOCIETY" = some "RAC" ∧
      (∀ c, b'.guess c "VE3abc" "ITUZONE+SOCIETY" = (b', "RAC")) ∧
      x.observations "VE2ABC" = [⟨"VE3ABC", "RST", "599"⟩, ⟨"VE3ABC", "SOCIETY", "RAC"⟩,
        ⟨"VE3ABC", "ITUZONE+SOCIETY", "RAC"⟩] ∧
      b'.notes.get? ("VE3ABC", "AGE") = some ⟨"44", true⟩ := by
  intro x b b'
  have hx : x.Distinct := by decide +kernel
  obtain ⟨hvalid, -⟩ := guess_recordLogged b "VE2ABC" x
  obtain ⟨hguess, hobservations, -, -, -, hframe⟩ := hvalid rfl hx
  obtain ⟨hvalue, hsociety⟩ := hguess ⟨"SOCIETY", "ITUZONE+SOCIETY", "RAC", true⟩
    (by decide +kernel) (by decide) "ITUZONE+SOCIETY" (.inr rfl)
  refine ⟨rfl, hx, hvalue, fun c => hsociety c "VE3abc" (by decide +kernel), ?_, ?_⟩
  · rw [hobservations]
    decide +kernel
  · rw [hframe ("VE3ABC", "AGE") (by decide +kernel)]
    decide +kernel

end Book

end ContestExchange
