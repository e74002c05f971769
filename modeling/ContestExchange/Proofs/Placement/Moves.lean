import Mathlib.Data.Nat.Find
import Mathlib.Logic.Relation
import Mathlib.Tactic.ByContra
import ContestExchange.Exchange.Placement

/-!
# Moves

A *move* gives one waiting token one slot.  There are two kinds of moves: a token
with a single slot left is confirmed, and, when there is no such token, the
first token that may still go somewhere is put into the lowest of its slots.
Which of several tokens is confirmed first is left open, so a placement may
have several moves.

Whatever each move keeps holds after any number of moves (`Moves.keeps`), and where no
move is possible no waiting token has a slot left (`IsFinal.eq_nil`).
-/

namespace ContestExchange

namespace Progress

@[simp] theorem without_placed (r s : Nat) : (placed s).without r = placed s := rfl

@[simp] theorem without_undecided (r : Nat) (l : List Nat) :
    (undecided l).without r = undecided (l.filter (· != r)) := rfl

theorem without_eq_placed_iff {p : Progress} {r s : Nat} :
    p.without r = placed s ↔ p = placed s := by
  cases p <;> simp

theorem without_eq_undecided_iff {p : Progress} {r : Nat} {l : List Nat} :
    p.without r = undecided l ↔ ∃ l', p = undecided l' ∧ l = l'.filter (· != r) := by
  cases p with
  | placed s => simp
  | undecided l' => simp [eq_comm]

end Progress

namespace Placement

theorem getElem?_assign (ps : Placement) (t s i : Nat) :
    (ps.assign t s)[i]? = (ps[i]?).map fun p => if i = t then .placed s else p.without s := by
  rw [assign, List.getElem?_mapIdx]

@[simp] theorem length_assign (ps : Placement) (t s : Nat) : (ps.assign t s).length = ps.length :=
  List.length_mapIdx

theorem getElem?_assign_self {ps : Placement} {t : Nat} {p : Progress} (h : ps[t]? = some p)
    (s : Nat) : (ps.assign t s)[t]? = some (.placed s) := by
  rw [getElem?_assign, h, Option.map_some, if_pos rfl]

theorem getElem?_assign_of_ne (ps : Placement) {t i : Nat} (h : i ≠ t) (s : Nat) :
    (ps.assign t s)[i]? = (ps[i]?).map (·.without s) := by
  simp only [getElem?_assign, if_neg h]

theorem getElem?_assign_eq_placed_iff {ps : Placement} {t s u r : Nat} {p : Progress}
    (ht : ps[t]? = some p) : (ps.assign t s)[u]? = some (.placed r) ↔
      u = t ∧ r = s ∨ u ≠ t ∧ ps[u]? = some (.placed r) := by
  by_cases hu : u = t
  · rw [hu, getElem?_assign_self ht]
    simp [eq_comm]
  · simp [getElem?_assign_of_ne ps hu, hu, Progress.without_eq_placed_iff]

theorem getElem?_assign_eq_undecided_iff {ps : Placement} {t s u : Nat} {l : List Nat} :
    (ps.assign t s)[u]? = some (.undecided l) ↔
      u ≠ t ∧ ∃ l', ps[u]? = some (.undecided l') ∧ l = l'.filter (· != s) := by
  by_cases hu : u = t
  · cases ps[u]? <;> simp [getElem?_assign, hu]
  · simp only [getElem?_assign_of_ne ps hu, Option.map_eq_some_iff,
      Progress.without_eq_undecided_iff, ne_eq, hu, not_false_eq_true, true_and]
    constructor
    · rintro ⟨p, hp, l', rfl, rfl⟩
      exact ⟨l', hp, rfl⟩
    · rintro ⟨l', hp, rfl⟩
      exact ⟨.undecided l', hp, l', rfl, rfl⟩

/-- One more token gets a slot. -/
inductive Move : Placement → Placement → Prop
  /-- A token with one slot left gets that slot. -/
  | confirm {ps : Placement} {t s : Nat} (h : ps[t]? = some (.undecided [s])) :
      Move ps (ps.assign t s)
  /-- Where no token has just one slot left, the first that has any gets its
  lowest. -/
  | guess {ps : Placement} {t s : Nat} {l : List Nat}
      (hall : ∀ u r : Nat, ps[u]? ≠ some (.undecided [r]))
      (hfirst : ∀ u < t, ∀ l' : List Nat, ps[u]? = some (.undecided l') → l' = [])
      (h : ps[t]? = some (.undecided l)) (hs : s ∈ l) (hleast : ∀ r ∈ l, s ≤ r) :
      Move ps (ps.assign t s)

/-- Any number of moves. -/
abbrev Moves : Placement → Placement → Prop :=
  Relation.ReflTransGen Move

/-- No move is possible. -/
def IsFinal (ps : Placement) : Prop :=
  ∀ qs, ¬ Move ps qs

/-- Moves that cannot be continued. -/
structure IsRun (ps qs : Placement) : Prop where
  moves : Moves ps qs
  isFinal : qs.IsFinal

/-- Every move puts a waiting token into one of the slots that it may go to. -/
theorem Move.exists_assign {ps qs : Placement} (h : Move ps qs) :
    ∃ (t s : Nat) (l : List Nat), ps[t]? = some (.undecided l) ∧ s ∈ l ∧ qs = ps.assign t s := by
  cases h with
  | @confirm t s h => exact ⟨t, s, [s], h, List.mem_singleton.2 rfl, rfl⟩
  | @guess t s l hall hfirst h hs hleast => exact ⟨t, s, l, h, hs, rfl⟩

theorem Move.length_eq {ps qs : Placement} (h : Move ps qs) : qs.length = ps.length := by
  obtain ⟨t, s, l, -, -, rfl⟩ := h.exists_assign
  exact length_assign ps t s

theorem Move.waiting_eq {ps qs : Placement} (h : Move ps qs) : qs.waiting + 1 = ps.waiting := by
  obtain ⟨t, s, l, hl, -, rfl⟩ := h.exists_assign
  exact waiting_assign hl rfl s

theorem Moves.keeps {P : Placement → Prop} (hP : ∀ ps qs, Move ps qs → P ps → P qs)
    {ps qs : Placement} (h : Moves ps qs) (hps : P ps) : P qs := by
  induction h with
  | refl => exact hps
  | tail _ hm ih => exact hP _ _ hm ih

theorem Moves.length_eq {ps qs : Placement} (h : Moves ps qs) : qs.length = ps.length :=
  h.keeps (P := fun rs => rs.length = ps.length) (fun _ _ hm hr => hm.length_eq.trans hr) rfl

/-- As long as moves are possible they can be made, and each leaves one token less
waiting. -/
theorem exists_isRun (ps : Placement) : ∃ qs, IsRun ps qs := by
  induction hn : ps.waiting using Nat.strongRecOn generalizing ps with
  | _ n ih =>
    by_cases hf : ps.IsFinal
    · exact ⟨ps, .refl, hf⟩
    · obtain ⟨qs, hm⟩ : ∃ qs, Move ps qs := by simpa [IsFinal] using hf
      obtain ⟨rs, hr⟩ := ih qs.waiting (by have := hm.waiting_eq; omega) qs rfl
      exact ⟨rs, .head hm hr.moves, hr.isFinal⟩

theorem isFinal_of_eq_nil {ps : Placement}
    (h : ∀ (t : Nat) (l : List Nat), ps[t]? = some (.undecided l) → l = []) : ps.IsFinal := by
  intro qs hm
  obtain ⟨t, s, l, hl, hs, -⟩ := hm.exists_assign
  rw [h t l hl] at hs
  simp at hs

/-- Where no move is possible, no waiting token has a slot left. -/
theorem IsFinal.eq_nil {ps : Placement} (h : ps.IsFinal) {t : Nat} {l : List Nat}
    (ht : ps[t]? = some (.undecided l)) : l = [] := by
  classical
  by_contra hl
  have hex : ∃ (u : Nat) (l' : List Nat), ps[u]? = some (.undecided l') ∧ l' ≠ [] := ⟨t, l, ht, hl⟩
  obtain ⟨l', hl', hne⟩ := Nat.find_spec hex
  obtain ⟨s, hs, hleast⟩ : ∃ s ∈ l', ∀ r ∈ l', s ≤ r :=
    ⟨l'.min hne, List.min_mem hne, fun r hr => List.min_le_of_mem hr⟩
  by_cases hall : ∃ v r : Nat, ps[v]? = some (.undecided [r])
  · obtain ⟨v, r, hv⟩ := hall
    exact h _ (.confirm hv)
  · refine h _ (.guess (fun v r hv => hall ⟨v, r, hv⟩) (fun v hv l₀ hl₀ => ?_) hl' hs hleast)
    by_contra hne₀
    exact Nat.find_min hex hv ⟨l₀, hl₀, hne₀⟩

/-! ### The slots stay in order -/

/-- The slots that a token may go to stand in ascending order. -/
def Ordered (ps : Placement) : Prop :=
  ∀ (t : Nat) (l : List Nat), ps[t]? = some (.undecided l) → l.Pairwise (· < ·)

theorem Move.ordered {ps qs : Placement} (h : Move ps qs) (ho : ps.Ordered) : qs.Ordered := by
  obtain ⟨t, s, l, -, -, rfl⟩ := h.exists_assign
  intro u l' hu
  obtain ⟨-, l₀, hl₀, rfl⟩ := getElem?_assign_eq_undecided_iff.1 hu
  exact (ho u l₀ hl₀).filter _

/-! ### Filled slots are not open -/

/-- No token may still go to a slot that another one has. -/
def Apart (ps : Placement) : Prop :=
  ∀ (t u : Nat) (l : List Nat) (s : Nat), ps[t]? = some (.undecided l) →
    ps[u]? = some (.placed s) → s ∉ l

theorem Move.apart {ps qs : Placement} (h : Move ps qs) (ha : ps.Apart) : qs.Apart := by
  obtain ⟨v, r, l₀, hl₀, -, rfl⟩ := h.exists_assign
  intro t u l s ht hu hs
  obtain ⟨-, l', hl', rfl⟩ := getElem?_assign_eq_undecided_iff.1 ht
  obtain ⟨hmem, hne⟩ := List.mem_filter.1 hs
  rcases (getElem?_assign_eq_placed_iff hl₀).1 hu with ⟨-, rfl⟩ | ⟨-, hu⟩
  · simp at hne
  · exact ha t u l' s hl' hu hmem

end Placement

end ContestExchange
