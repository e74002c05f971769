import Mathlib.Data.Finset.Sort
import ContestExchange.Proofs.Placement.Solving

/-!
# The order of confirmations does not matter

Two tokens may compete for one slot, and then it depends on the order of the
moves which of them gets it and which one is left without any.  So runs do not
end in one placement.  What they agree on is the *view* of a placement: the
slots that each token may still go to, the slots that are filled, and how many
tokens are waiting.  In the view a confirmation depends on the slot alone, so two
confirmations commute there (`View.diamond`), and a guess is only made where it is
the only move.

If a run leaves no token over, no two tokens ever compete.  Then moves commute on
the placements themselves (`diamond_of_complete`), and all runs end in the same
one.  `solve_any_order` has both.
-/

namespace ContestExchange.Placement

open Relation

/-- Where two steps from one place always meet again after one step more, no two
dead ends are reached. -/
theorem eq_of_diamond {α : Type} {r : α → α → Prop}
    (h : ∀ a b c, r a b → r a c → b = c ∨ ∃ d, r b d ∧ r c d) {a b c : α}
    (hab : ReflTransGen r a b) (hac : ReflTransGen r a c) (hb : ∀ d, ¬ r b d)
    (hc : ∀ d, ¬ r c d) : b = c := by
  obtain ⟨d, hbd, hcd⟩ := church_rosser
    (fun a b c hab hac => by
      rcases h a b c hab hac with rfl | ⟨d, hbd, hcd⟩
      · exact ⟨b, .refl, .refl⟩
      · exact ⟨d, .single hbd, .single hcd⟩) hab hac
  rw [reflTransGen_iff_eq hb] at hbd
  rw [reflTransGen_iff_eq hc] at hcd
  exact hbd.symm.trans hcd

/-- Only one token is the first that may still go to some slot. -/
theorem eq_of_first {P : Nat → List Nat → Prop} {t u r s : Nat} {l l' : List Nat}
    (ht : ∀ v < t, ∀ l, P v l → l = []) (hu : ∀ v < u, ∀ l, P v l → l = [])
    (hl : P t l) (hr : r ∈ l) (hl' : P u l') (hs : s ∈ l') : t = u := by
  rcases Nat.lt_trichotomy t u with hlt | heq | hlt
  · rw [hu t hlt l hl] at hr
    exact absurd hr List.not_mem_nil
  · exact heq
  · rw [ht u hlt l' hl'] at hs
    exact absurd hs List.not_mem_nil

/-! ### Views -/

/-- What the order of confirmations leaves alone. -/
structure View where
  /-- The slots that each token may still go to. -/
  options : List (List Nat)
  /-- The slots that are filled. -/
  filled : Set Nat
  /-- How many tokens have no slot. -/
  waiting : Nat

namespace View

/-- The view once a token has been given a slot. -/
def assign (v : View) (t s : Nat) : View where
  options := v.options.mapIdx fun i l => if i = t then [] else l.filter (· != s)
  filled := insert s v.filled
  waiting := v.waiting - 1

theorem getElem?_options_assign (v : View) (t s i : Nat) :
    (v.assign t s).options[i]? =
      (v.options[i]?).map fun l => if i = t then [] else l.filter (· != s) :=
  List.getElem?_mapIdx

/-- Moves as they are seen in the view. -/
inductive Move : View → View → Prop
  | confirm {v : View} {t s : Nat} (h : v.options[t]? = some [s]) : Move v (v.assign t s)
  | guess {v : View} {t s : Nat} {l : List Nat}
      (hall : ∀ u r : Nat, v.options[u]? ≠ some [r])
      (hfirst : ∀ u < t, ∀ l', v.options[u]? = some l' → l' = [])
      (h : v.options[t]? = some l) (hs : s ∈ l) (hleast : ∀ r ∈ l, s ≤ r) : Move v (v.assign t s)

/-- Whichever token gets the only slot that it has left, the view is the same. -/
theorem assign_eq_assign {v : View} {t u s : Nat} (ht : v.options[t]? = some [s])
    (hu : v.options[u]? = some [s]) : v.assign t s = v.assign u s := by
  have hone : ∀ i w : Nat, v.options[w]? = some [s] → (v.assign w s).options[i]? =
      (v.options[i]?).map fun l => l.filter (· != s) := by
    intro i w hw
    rw [getElem?_options_assign]
    by_cases hi : i = w
    · subst hi
      rw [hw, Option.map_some, Option.map_some, if_pos rfl]
      simp
    · simp only [if_neg hi]
  have ho : (v.assign t s).options = (v.assign u s).options :=
    List.ext_getElem? fun i => (hone i t ht).trans (hone i u hu).symm
  exact (View.mk.injEq ..).mpr ⟨ho, rfl, rfl⟩

theorem assign_comm (v : View) (t u r s : Nat) :
    (v.assign t r).assign u s = (v.assign u s).assign t r := by
  have ho : ((v.assign t r).assign u s).options = ((v.assign u s).assign t r).options := by
    refine List.ext_getElem? fun i => ?_
    simp only [getElem?_options_assign, Option.map_map]
    refine congrArg (Option.map · v.options[i]?) (funext fun l => ?_)
    simp only [Function.comp]
    by_cases ht : i = t <;> by_cases hu : i = u <;> simp [ht, hu, List.filter_filter, Bool.and_comm]
  exact (View.mk.injEq ..).mpr ⟨ho, Set.insert_comm s r v.filled, rfl⟩

/-- A confirmation leaves the other tokens with a single slot that one, unless it
has just been given away. -/
theorem options_assign_of_single {v : View} {t u r s : Nat} (hr : v.options[t]? = some [r])
    (hs : v.options[u]? = some [s]) (h : r ≠ s) : (v.assign t r).options[u]? = some [s] := by
  have hu : u ≠ t := by
    rintro rfl
    rw [hr] at hs
    exact h (by simpa using hs)
  have hf : [s].filter (· != r) = [s] := by simpa using Ne.symm h
  rw [getElem?_options_assign, hs, Option.map_some, if_neg hu, hf]

/-- **In the view, moves commute.** -/
theorem diamond (v w w' : View) (h : Move v w) (h' : Move v w') :
    w = w' ∨ ∃ x, Move w x ∧ Move w' x := by
  cases h with
  | @confirm t r ht =>
    cases h' with
    | @confirm u s hu =>
      by_cases hrs : r = s
      · subst hrs
        exact Or.inl (assign_eq_assign ht hu)
      · refine Or.inr ⟨(v.assign t r).assign u s, .confirm (options_assign_of_single ht hu hrs), ?_⟩
        rw [assign_comm]
        exact .confirm (options_assign_of_single hu ht (Ne.symm hrs))
    | guess hall hfirst hu hs hleast => exact absurd ht (hall t r)
  | @guess t r l hall hfirst ht hr hleast =>
    cases h' with
    | @confirm u s hu => exact absurd hu (hall u s)
    | @guess u s l' hall' hfirst' hu hs hleast' =>
      obtain rfl : t = u := eq_of_first hfirst hfirst' ht hr hu hs
      rw [ht, Option.some.injEq] at hu
      subst hu
      rw [Nat.le_antisymm (hleast s hs) (hleast' r hr)]
      exact Or.inl rfl

end View

/-! ### Placements and their views -/

/-- What the order of confirmations leaves alone of a placement. -/
def view (ps : Placement) : View where
  options := ps.map fun p => match p with
    | .placed _ => []
    | .undecided l => l
  filled := {s | ∃ t : Nat, ps[t]? = some (.placed s)}
  waiting := ps.waiting

theorem options_view_of_undecided {ps : Placement} {t : Nat} {l : List Nat}
    (h : ps[t]? = some (.undecided l)) : ps.view.options[t]? = some l := by
  rw [view, List.getElem?_map, h]
  rfl

/-- A token that may still go somewhere is waiting. -/
theorem undecided_of_options_view {ps : Placement} {t : Nat} {l : List Nat}
    (h : ps.view.options[t]? = some l) (hl : l ≠ []) : ps[t]? = some (.undecided l) := by
  rw [view, List.getElem?_map, Option.map_eq_some_iff] at h
  obtain ⟨p, hp, rfl⟩ := h
  cases p with
  | placed s => exact absurd rfl hl
  | undecided l => exact hp

theorem view_assign {ps : Placement} {t s : Nat} {l : List Nat}
    (h : ps[t]? = some (.undecided l)) : (ps.assign t s).view = ps.view.assign t s := by
  have ho : (ps.assign t s).view.options = (ps.view.assign t s).options := by
    refine List.ext_getElem? fun i => ?_
    rw [View.getElem?_options_assign, view, view, List.getElem?_map, List.getElem?_map,
      getElem?_assign, Option.map_map, Option.map_map]
    refine congrArg (Option.map · ps[i]?) (funext fun p => ?_)
    by_cases hi : i = t
    · simp [hi]
    · cases p <;> simp [hi]
  have hf : (ps.assign t s).view.filled = (ps.view.assign t s).filled := by
    ext r
    constructor
    · rintro ⟨u, hu⟩
      rcases (getElem?_assign_eq_placed_iff h).1 hu with ⟨-, rfl⟩ | ⟨-, hu⟩
      · exact Or.inl rfl
      · exact Or.inr ⟨u, hu⟩
    · rintro (rfl | ⟨u, hu⟩)
      · exact ⟨t, getElem?_assign_self h r⟩
      · have hut : u ≠ t := by
          rintro rfl
          rw [h] at hu
          simp at hu
        exact ⟨u, (getElem?_assign_eq_placed_iff h).2 (Or.inr ⟨hut, hu⟩)⟩
  have hw : (ps.assign t s).view.waiting = (ps.view.assign t s).waiting := by
    have := waiting_assign h rfl s
    exact Nat.eq_sub_of_add_eq this
  exact (View.mk.injEq ..).mpr ⟨ho, hf, hw⟩

theorem Move.view {ps qs : Placement} (h : Move ps qs) : View.Move ps.view qs.view := by
  cases h with
  | confirm h =>
    rw [view_assign h]
    exact .confirm (options_view_of_undecided h)
  | guess hall hfirst h hs hleast =>
    rw [view_assign h]
    refine .guess (fun u r hu => ?_) (fun u hu l' hl' => ?_) (options_view_of_undecided h) hs hleast
    · exact hall u r (undecided_of_options_view hu (List.cons_ne_nil r []))
    · by_contra hne
      exact hne (hfirst u hu l' (undecided_of_options_view hl' hne))

theorem IsFinal.view {ps : Placement} (h : ps.IsFinal) (w : View) : ¬ View.Move ps.view w := by
  have hnil : ∀ (t : Nat) (l : List Nat), ps.view.options[t]? = some l → l = [] := by
    intro t l ht
    by_contra hl
    exact hl (h.eq_nil (undecided_of_options_view ht hl))
  intro hm
  cases hm with
  | @confirm t s ht => exact List.cons_ne_nil s [] (hnil t _ ht)
  | @guess t s l hall hfirst ht hs hleast =>
    rw [hnil t l ht] at hs
    simp at hs

/-- **All runs end in the same view.** -/
theorem IsRun.view_eq {ps qs rs : Placement} (hq : IsRun ps qs) (hr : IsRun ps rs) :
    qs.view = rs.view :=
  eq_of_diamond View.diamond (hq.moves.lift Placement.view fun _ _ => Move.view)
    (hr.moves.lift Placement.view fun _ _ => Move.view) hq.isFinal.view hr.isFinal.view

/-! ### Runs that leave no token over -/

/-- All runs from here place every token. -/
def Completes (ps : Placement) : Prop :=
  ∀ qs, IsRun ps qs → qs.waiting = 0

theorem Move.completes {ps qs : Placement} (h : Move ps qs) (hc : ps.Completes) : qs.Completes :=
  fun rs hr => hc rs ⟨.head h hr.moves, hr.isFinal⟩

theorem IsRun.completes {ps qs : Placement} (h : IsRun ps qs) (hq : qs.waiting = 0) :
    ps.Completes :=
  fun _ hr => (congrArg View.waiting (hr.view_eq h)).trans hq

theorem Move.stranded {ps qs : Placement} (h : Move ps qs) {u : Nat}
    (hu : ps[u]? = some (.undecided [])) : qs[u]? = some (.undecided []) := by
  obtain ⟨t, s, l, hl, hs, rfl⟩ := h.exists_assign
  have hut : u ≠ t := by
    rintro rfl
    rw [hu, Option.some.injEq, Progress.undecided.injEq] at hl
    subst hl
    simp at hs
  rw [getElem?_assign_of_ne ps hut, hu]
  rfl

theorem Completes.not_stranded {ps : Placement} (h : ps.Completes) (u : Nat) :
    ps[u]? ≠ some (.undecided []) := by
  intro hu
  obtain ⟨qs, hq⟩ := exists_isRun ps
  have hu' : qs[u]? = some (.undecided []) :=
    hq.moves.keeps (P := fun ps => ps[u]? = some (.undecided [])) (fun _ _ hm => hm.stranded) hu
  have hmem := mem_leftovers_iff.2 ⟨[], hu'⟩
  rw [List.eq_nil_of_length_eq_zero ((length_leftovers qs).trans (h qs hq))] at hmem
  simp at hmem

theorem assign_comm (ps : Placement) {t u : Nat} (htu : t ≠ u) (r s : Nat) :
    (ps.assign t r).assign u s = (ps.assign u s).assign t r := by
  refine List.ext_getElem? fun i => ?_
  simp only [getElem?_assign, Option.map_map]
  refine congrArg (Option.map · ps[i]?) (funext fun p => ?_)
  by_cases hit : i = t
  · subst hit
    simp [htu]
  · by_cases hiu : i = u
    · subst hiu
      simp [hit]
    · cases p <;> simp [hit, hiu, List.filter_filter, Bool.and_comm]

theorem single_assign {ps : Placement} {t u r s : Nat} (hu : ps[u]? = some (.undecided [s]))
    (hut : u ≠ t) (hrs : s ≠ r) : (ps.assign t r)[u]? = some (.undecided [s]) := by
  rw [getElem?_assign_of_ne ps hut, hu]
  simp [hrs]

/-- **Where every run places every token, moves commute.**  Two tokens with the same
single slot cannot be: whichever comes second would stay without one. -/
theorem diamond_of_complete {ps qs rs : Placement} (hc : ps.Completes) (hq : Move ps qs)
    (hr : Move ps rs) : qs = rs ∨ ∃ xs, Move qs xs ∧ Move rs xs := by
  cases hq with
  | @confirm t r ht =>
    cases hr with
    | @confirm u s hu =>
      by_cases htu : t = u
      · subst htu
        rw [ht, Option.some.injEq, Progress.undecided.injEq, List.singleton_inj] at hu
        rw [hu]
        exact Or.inl rfl
      · have hrs : r ≠ s := by
          rintro rfl
          have hstranded : (ps.assign t r)[u]? = some (.undecided []) := by
            rw [getElem?_assign_of_ne ps (Ne.symm htu), hu]
            simp
          exact ((Move.confirm ht).completes hc).not_stranded u hstranded
        refine Or.inr ⟨(ps.assign t r).assign u s,
          .confirm (single_assign hu (Ne.symm htu) (Ne.symm hrs)), ?_⟩
        rw [assign_comm ps htu]
        exact .confirm (single_assign ht htu hrs)
    | guess hall hfirst hu hs hleast => exact absurd ht (hall t r)
  | @guess t r l hall hfirst ht hr' hleast =>
    cases hr with
    | @confirm u s hu => exact absurd hu (hall u s)
    | @guess u s l' hall' hfirst' hu hs hleast' =>
      obtain rfl : t = u := eq_of_first hfirst hfirst' ht hr' hu hs
      rw [ht, Option.some.injEq, Progress.undecided.injEq] at hu
      subst hu
      rw [Nat.le_antisymm (hleast s hs) (hleast' r hr')]
      exact Or.inl rfl

/-- **If one run places every token, all runs end as it does.** -/
theorem IsRun.eq_of_waiting_eq_zero {ps qs rs : Placement} (hq : IsRun ps qs)
    (h : qs.waiting = 0) (hr : IsRun ps rs) : qs = rs := by
  let r (a b : Placement) := a.Completes ∧ Move a b
  have lift : ∀ {a b : Placement}, a.Completes → Moves a b → ReflTransGen r a b := by
    intro a b ha hab
    induction hab using ReflTransGen.head_induction_on with
    | refl => exact .refl
    | head hm _ ih => exact .head ⟨ha, hm⟩ (ih (hm.completes ha))
  have diamond : ∀ a b c, r a b → r a c → b = c ∨ ∃ d, r b d ∧ r c d := by
    rintro a b c ⟨ha, hb⟩ ⟨-, hc⟩
    rcases diamond_of_complete ha hb hc with rfl | ⟨d, hbd, hcd⟩
    · exact Or.inl rfl
    · exact Or.inr ⟨d, ⟨hb.completes ha, hbd⟩, ⟨hc.completes ha, hcd⟩⟩
  have hc := hq.completes h
  exact eq_of_diamond diamond (lift hc hq.moves) (lift hc hr.moves)
    (fun d hd => hq.isFinal d hd.2) fun d hd => hr.isFinal d hd.2

/-! ### Solving -/

/-- The placement where each token may go to the slots of a set. -/
def ofSets (sets : List (Finset Nat)) : Placement :=
  sets.map fun s => .undecided s.sort

theorem ordered_ofSets (sets : List (Finset Nat)) : (ofSets sets).Ordered := by
  intro t l h
  rw [ofSets, List.getElem?_map, Option.map_eq_some_iff] at h
  obtain ⟨s, -, he⟩ := h
  rw [Progress.undecided.injEq] at he
  subst he
  exact s.sortedLT_sort.pairwise

/-- **Solving is one of the runs, and which one does not matter.**  Every run fills
the slots that `solve` fills and leaves as many tokens over; and where one run
leaves none over, each token has the same slot after all runs and after `solve`. -/
theorem solve_any_order (sets : List (Finset Nat)) :
    IsRun (ofSets sets) (ofSets sets).solve ∧
      (∀ qs, IsRun (ofSets sets) qs →
        (∀ s, (qs.token? s).isSome = ((ofSets sets).solve.token? s).isSome) ∧
          qs.leftovers.length = (ofSets sets).solve.leftovers.length) ∧
      ∀ qs, IsRun (ofSets sets) qs → qs.leftovers = [] →
        (∀ rs, IsRun (ofSets sets) rs → rs = qs) ∧ (ofSets sets).solve = qs := by
  have hsolve := solve_isRun (ordered_ofSets sets)
  refine ⟨hsolve, fun qs hq => ⟨fun s => ?_, ?_⟩, fun qs hq hnone => ?_⟩
  · have hfilled := Set.ext_iff.1 (congrArg View.filled (hq.view_eq hsolve)) s
    rw [Bool.eq_iff_iff, isSome_token?_iff, isSome_token?_iff]
    exact hfilled
  · rw [length_leftovers, length_leftovers]
    exact congrArg View.waiting (hq.view_eq hsolve)
  · have hw : qs.waiting = 0 := by
      rw [← length_leftovers, hnone]
      rfl
    exact ⟨fun rs hr => (hq.eq_of_waiting_eq_zero hw hr).symm,
      (hq.eq_of_waiting_eq_zero hw hsolve).symm⟩

end ContestExchange.Placement
