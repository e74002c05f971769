import Mathlib.Data.Finset.Sort
import ContestExchange.Proofs.Placement.Confluence

/-!
# The tables of a placement

The assignments of `solve` are written into two tables: which slot each token has, and
which token each slot has.  After any number of assignments the slots open to a waiting
token are those of its set that have no token in the table (`Tables.Shows`).

So an assignment always fills an empty place, and there are no more assignments than slots.
In the end no slot is open to any token, so a token is left over only if all the slots of its
set are taken (`solve_maximal`).
-/

namespace ContestExchange

@[simp] theorem Progress.slot?_without (s : Nat) (p : Progress) : (p.without s).slot? = p.slot? := by
  cases p <;> rfl

namespace Placement

theorem map_slot?_assign {ps : Placement} {t : Nat} {p : Progress} (ht : ps[t]? = some p)
    (s : Nat) : (ps.assign t s).map Progress.slot? = (ps.map Progress.slot?).set t (some s) := by
  refine List.ext_getElem? fun u => ?_
  rw [List.getElem?_set, List.getElem?_map, List.getElem?_map, List.length_map]
  by_cases hu : u = t
  · subst hu
    rw [if_pos rfl, if_pos (List.getElem?_eq_some_iff.1 ht).1, getElem?_assign_self ht]
    rfl
  · rw [if_neg (Ne.symm hu), getElem?_assign_of_ne ps hu]
    simp [Function.comp_def]

/-- Which slot each token has, and which token each slot has. -/
structure Tables where
  slotOf : List (Option Nat)
  tokenOf : List (Option Nat)

namespace Tables

/-- No token has a slot. -/
def empty (tokens slots : Nat) : Tables where
  slotOf := List.replicate tokens none
  tokenOf := List.replicate slots none

/-- Writes the slot down for the token, and the token for the slot. -/
def enter (T : Tables) (a : Nat × Nat) : Tables where
  slotOf := T.slotOf.set a.1 (some a.2)
  tokenOf := T.tokenOf.set a.2 (some a.1)

/-- The tables once `solve` has placed tokens with these sets. -/
def solved (sets : List (Finset Nat)) (slots : Nat) : Tables :=
  (ofSets sets).assignments.foldl enter (empty sets.length slots)

/-- The tables tell where the tokens are, and open to a waiting token are those slots of
its set that have no token. -/
structure Shows (sets : List (Finset Nat)) (T : Tables) (ps : Placement) : Prop where
  slotOf_eq : T.slotOf = ps.map Progress.slot?
  tokenOf_iff : ∀ t s : Nat, T.tokenOf[s]? = some (some t) ↔ ps[t]? = some (.placed s)
  mem_of_placed : ∀ t s : Nat, ps[t]? = some (.placed s) → ∃ A, sets[t]? = some A ∧ s ∈ A
  open_iff : ∀ (t : Nat) (l : List Nat), ps[t]? = some (.undecided l) →
    ∃ A, sets[t]? = some A ∧ ∀ s, s ∈ l ↔ s ∈ A ∧ T.tokenOf[s]? = some none

variable {sets : List (Finset Nat)} {slots : Nat} {T : Tables} {ps qs : Placement}

theorem shows_empty (h : ∀ A ∈ sets, ∀ s ∈ A, s < slots) :
    Shows sets (empty sets.length slots) (ofSets sets) := by
  have hopen : ∀ (t : Nat) (p : Progress), (ofSets sets)[t]? = some p →
      ∃ A, sets[t]? = some A ∧ p = .undecided A.sort := by
    intro t p hp
    rw [ofSets, List.getElem?_map, Option.map_eq_some_iff] at hp
    obtain ⟨A, hA, rfl⟩ := hp
    exact ⟨A, hA, rfl⟩
  refine ⟨?_, fun t s => ?_, fun t s ht => ?_, fun t l ht => ?_⟩
  · rw [ofSets, List.map_map]
    exact (List.map_const' ..).symm
  · constructor
    · intro he
      simp [empty, List.getElem?_replicate] at he
    · intro ht
      obtain ⟨A, -, he⟩ := hopen t _ ht
      cases he
  · obtain ⟨A, -, he⟩ := hopen t _ ht
    cases he
  · obtain ⟨A, hA, he⟩ := hopen t _ ht
    cases he
    refine ⟨A, hA, fun s => ?_⟩
    rw [Finset.mem_sort]
    constructor
    · intro hs
      exact ⟨hs, List.getElem?_replicate_of_lt (h A (List.mem_of_getElem? hA) s hs)⟩
    · exact And.left

theorem Shows.tokenOf_eq_none (h : Shows sets T ps) {t s : Nat} {l : List Nat}
    (ht : ps[t]? = some (.undecided l)) (hs : s ∈ l) : T.tokenOf[s]? = some none := by
  obtain ⟨A, -, hA⟩ := h.open_iff t l ht
  exact ((hA s).1 hs).2

/-- What stands in the table of slots once a token has been entered for an empty place. -/
theorem tokenOf_enter {t s : Nat} (hs : T.tokenOf[s]? = some none) (r : Nat) :
    (T.enter (t, s)).tokenOf[r]? = if r = s then some (some t) else T.tokenOf[r]? := by
  obtain ⟨hlt, -⟩ := List.getElem?_eq_some_iff.1 hs
  rw [enter, List.getElem?_set]
  by_cases hr : r = s
  · rw [if_pos hr.symm, if_pos hlt, if_pos hr]
  · rw [if_neg (Ne.symm hr), if_neg hr]

/-- **An assignment leaves the tables right**: the slot is closed to the others since it
has a token now. -/
theorem Shows.enter (h : Shows sets T ps) {t s : Nat} {l : List Nat}
    (ht : ps[t]? = some (.undecided l)) (hs : s ∈ l) :
    Shows sets (T.enter (t, s)) (ps.assign t s) := by
  have hnone := h.tokenOf_eq_none ht hs
  have htoken := tokenOf_enter (t := t) hnone
  refine ⟨?_, fun u r => ?_, fun u r hu => ?_, fun u l' hu => ?_⟩
  · rw [Tables.enter, h.slotOf_eq, map_slot?_assign ht]
  · rw [htoken, getElem?_assign_eq_placed_iff ht, ← h.tokenOf_iff u r]
    by_cases hr : r = s
    · rw [if_pos hr, hr, hnone]
      simp [eq_comm]
    · have hu : T.tokenOf[r]? = some (some u) → u ≠ t := by
        rintro hu rfl
        rw [h.tokenOf_iff, ht] at hu
        cases hu
      rw [if_neg hr]
      simpa [hr] using hu
  · rcases (getElem?_assign_eq_placed_iff ht).1 hu with ⟨rfl, rfl⟩ | ⟨-, hu⟩
    · obtain ⟨A, hA, hl⟩ := h.open_iff u l ht
      exact ⟨A, hA, ((hl r).1 hs).1⟩
    · exact h.mem_of_placed u r hu
  · obtain ⟨-, l₀, hl₀, rfl⟩ := getElem?_assign_eq_undecided_iff.1 hu
    obtain ⟨A, hA, hl⟩ := h.open_iff u l₀ hl₀
    refine ⟨A, hA, fun r => ?_⟩
    rw [List.mem_filter, hl, htoken]
    by_cases hr : r = s <;> simp [hr]

theorem Shows.foldl_enter (h : Shows sets T ps) {as : List (Nat × Nat)} (hd : Deals ps as qs) :
    Shows sets (as.foldl Tables.enter T) qs := by
  induction hd generalizing T with
  | nil => exact h
  | cons _ ht hs _ ih => exact ih (h.enter ht hs)

/-! ### Filled places -/

/-- How many places of a table are filled. -/
def filled (places : List (Option Nat)) : Nat :=
  places.countP Option.isSome

theorem filled_set {places : List (Option Nat)} {i : Nat} (h : places[i]? = some none) (n : Nat) :
    filled (places.set i (some n)) = filled places + 1 := by
  obtain ⟨hlt, hget⟩ := List.getElem?_eq_some_iff.1 h
  rw [filled, filled, List.countP_set hlt, hget]
  simp

/-- **Every assignment fills one more place in the table of slots**, so it has room for all of
them. -/
theorem Shows.filled_add_length_le (h : Shows sets T ps) {as : List (Nat × Nat)}
    (hd : Deals ps as qs) : filled T.tokenOf + as.length ≤ T.tokenOf.length := by
  induction hd generalizing T with
  | nil => exact List.countP_le_length
  | cons _ ht hs _ ih =>
    have hle := ih (h.enter ht hs)
    rw [Tables.enter, filled_set (h.tokenOf_eq_none ht hs), List.length_set] at hle
    rw [List.length_cons]
    omega

theorem length_assignments_le (h : ∀ A ∈ sets, ∀ s ∈ A, s < slots) :
    (ofSets sets).assignments.length ≤ slots := by
  have hle := (shows_empty h).filled_add_length_le (deals_assignments (ordered_ofSets sets))
  simpa [empty, filled, List.countP_replicate] using hle

/-! ### Tables that cannot be continued -/

/-- The tables are inverse to one another, so no slot has two tokens and no token has two
slots; every token that has a slot has one of its set; and a token without one finds all
the slots of its set taken by other tokens. -/
structure IsMaximal (sets : List (Finset Nat)) (T : Tables) : Prop where
  inverse : ∀ t s : Nat, T.slotOf[t]? = some (some s) ↔ T.tokenOf[s]? = some (some t)
  mem : ∀ t s : Nat, T.slotOf[t]? = some (some s) → ∃ A, sets[t]? = some A ∧ s ∈ A
  taken : ∀ t : Nat, T.slotOf[t]? = some none →
    ∃ A, sets[t]? = some A ∧ ∀ s ∈ A, ∃ u, u ≠ t ∧ T.tokenOf[s]? = some (some u)

theorem Shows.slotOf_iff (h : Shows sets T ps) (t s : Nat) :
    T.slotOf[t]? = some (some s) ↔ ps[t]? = some (.placed s) := by
  simp [h.slotOf_eq, Progress.slot?_eq_some_iff]

theorem Shows.exists_undecided (h : Shows sets T ps) {t : Nat} (ht : T.slotOf[t]? = some none) :
    ∃ l : List Nat, ps[t]? = some (.undecided l) := by
  rw [h.slotOf_eq, List.getElem?_map, Option.map_eq_some_iff] at ht
  obtain ⟨p, hp, hslot⟩ := ht
  cases p with
  | placed s => cases hslot
  | undecided l => exact ⟨l, hp⟩

/-- **Where no move is possible the tables cannot be continued.** -/
theorem Shows.isMaximal (h : Shows sets T ps) (hf : ps.IsFinal)
    (hlt : ∀ A ∈ sets, ∀ s ∈ A, s < T.tokenOf.length) : T.IsMaximal sets := by
  refine ⟨fun t s => (h.slotOf_iff t s).trans (h.tokenOf_iff t s).symm,
    fun t s ht => h.mem_of_placed t s ((h.slotOf_iff t s).1 ht), fun t ht => ?_⟩
  obtain ⟨l, hl⟩ := h.exists_undecided ht
  obtain ⟨A, hA, hopen⟩ := h.open_iff t l hl
  rw [hf.eq_nil hl] at hopen
  refine ⟨A, hA, fun s hs => ?_⟩
  have hslot : s < T.tokenOf.length := hlt A (List.mem_of_getElem? hA) s hs
  have hget : T.tokenOf[s]? = some T.tokenOf[s] := List.getElem?_eq_getElem hslot
  cases hu : T.tokenOf[s] with
  | none =>
    rw [hu] at hget
    exact absurd ((hopen s).2 ⟨hs, hget⟩) List.not_mem_nil
  | some u =>
    rw [hu] at hget
    refine ⟨u, ?_, hget⟩
    rintro rfl
    rw [h.tokenOf_iff, hl] at hget
    cases hget

theorem Shows.tokenOf_eq (h : Shows sets T ps) :
    T.tokenOf = (List.range T.tokenOf.length).map ps.token? := by
  refine List.ext_getElem (by simp) fun s hs _ => ?_
  rw [List.getElem_map, List.getElem_range]
  have hget := List.getElem?_eq_getElem hs
  cases hx : T.tokenOf[s] with
  | some t =>
    rw [hx] at hget
    refine (token?_eq_some_iff.2 ⟨(h.tokenOf_iff t s).1 hget, fun u hu hp => ?_⟩).symm
    rw [← h.tokenOf_iff, hget] at hp
    cases hp
    exact Nat.lt_irrefl _ hu
  | none =>
    rw [hx] at hget
    refine (Option.eq_none_iff_forall_ne_some.2 fun t ht => ?_).symm
    have hp := (token?_eq_some_iff.1 ht).1
    rw [← h.tokenOf_iff, hget] at hp
    cases hp

theorem length_tokenOf_foldl_enter (T : Tables) (as : List (Nat × Nat)) :
    (as.foldl enter T).tokenOf.length = T.tokenOf.length := by
  induction as generalizing T with
  | nil => rfl
  | cons a as ih => exact (ih (T.enter a)).trans List.length_set

theorem length_tokenOf_solved (sets : List (Finset Nat)) (slots : Nat) :
    (solved sets slots).tokenOf.length = slots :=
  (length_tokenOf_foldl_enter _ _).trans List.length_replicate

end Tables

theorem waiting_ofSets (sets : List (Finset Nat)) : (ofSets sets).waiting = sets.length := by
  rw [waiting, ofSets, List.countP_map]
  exact List.countP_eq_length.2 fun _ _ => rfl

/-- **Solving ends in a maximal matching.**  It makes one assignment for each token that is not
left over, and at most as many as there are tokens, and as there are slots; the tables that
they are written into are those that are read off the placement in the end; and these cannot
be continued. -/
theorem solve_maximal (sets : List (Finset Nat)) (slots : Nat)
    (h : ∀ A ∈ sets, ∀ s ∈ A, s < slots) :
    Deals (ofSets sets) (ofSets sets).assignments (ofSets sets).solve ∧
      (ofSets sets).assignments.length + (ofSets sets).solve.leftovers.length = sets.length ∧
      (ofSets sets).assignments.length ≤ min sets.length slots ∧
      (Tables.solved sets slots).slotOf = (ofSets sets).solve.map Progress.slot? ∧
      (Tables.solved sets slots).tokenOf = (List.range slots).map (ofSets sets).solve.token? ∧
      (Tables.solved sets slots).IsMaximal sets := by
  have hordered := ordered_ofSets sets
  have hdeals := deals_assignments hordered
  have hcount : (ofSets sets).assignments.length + (ofSets sets).solve.leftovers.length =
      sets.length := by
    rw [length_leftovers, hdeals.length_add_waiting, waiting_ofSets]
  have hslots := Tables.length_assignments_le h
  have hshows : Tables.Shows sets (Tables.solved sets slots) (ofSets sets).solve :=
    (Tables.shows_empty h).foldl_enter hdeals
  have hlength := Tables.length_tokenOf_solved sets slots
  refine ⟨hdeals, hcount, by omega, hshows.slotOf_eq, ?_, ?_⟩
  · rw [hshows.tokenOf_eq, hlength]
  · exact hshows.isMaximal (solve_isRun hordered).isFinal (hlength.symm ▸ h)

/-- The first of four tokens is put into the lower of its two slots.  Then the third has one
slot left, and after it the second; the last has none. -/
theorem solve_maximal_contended :
    let sets : List (Finset Nat) := [{1, 2}, {0, 1, 2}, {1, 2}, {1, 2}]
    (∀ A ∈ sets, ∀ s ∈ A, s < 3) ∧ (ofSets sets).assignments = [(0, 1), (2, 2), (1, 0)] ∧
      Tables.solved sets 3 = ⟨[some 1, some 0, some 2, none], [some 1, some 0, some 2]⟩ ∧
      (Tables.solved sets 3).IsMaximal sets := by
  intro sets
  have hstart : ofSets sets = [.undecided [1, 2], .undecided [0, 1, 2], .undecided [1, 2],
      .undecided [1, 2]] := by simp [sets, ofSets, Finset.sort_insert]
  have has : (ofSets sets).assignments = [(0, 1), (2, 2), (1, 0)] := by
    rw [hstart]
    decide +kernel
  have hlt : ∀ A ∈ sets, ∀ s ∈ A, s < 3 := by decide
  refine ⟨hlt, has, ?_, (solve_maximal sets 3 hlt).2.2.2.2.2⟩
  rw [Tables.solved, has]
  rfl

end Placement

end ContestExchange
