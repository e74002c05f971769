import Mathlib.Data.List.Induction
import ContestExchange.Proofs.Placement.Moves

/-!
# Solving is making moves

`solve` makes moves until there are none (`solve_isRun`).  Whatever each move keeps
therefore holds of what `solve` gives.

`assignments` are the tokens and slots of these moves, in the order in which `solve`
makes them.  They lead from the placement to what `solve` gives (`deals_assignments`).
-/

namespace ContestExchange

theorem Progress.slot?_eq_some_iff {p : Progress} {s : Nat} : p.slot? = some s ↔ p = placed s := by
  cases p <;> simp [slot?]

namespace Placement

/-! ### Passes -/

theorem forced?_eq_some_iff {ps : Placement} {t s : Nat} :
    ps.forced? t = some s ↔ ps[t]? = some (.undecided [s]) := by
  rw [forced?]
  split
  · rename_i r h
    simp [h]
  · rename_i h
    constructor
    · intro hn; simp at hn
    · intro hs; exact absurd hs (h s)

/-- A pass that confirms no token has found none to confirm. -/
theorem forced?_eq_none_of_foldl {ts : List Nat} {ps : Placement}
    (h : (ts.foldl confirm ps).waiting = ps.waiting) : ∀ t ∈ ts, ps.forced? t = none := by
  induction ts generalizing ps with
  | nil => intro t ht; simp at ht
  | cons u ts ih =>
    rw [List.foldl_cons] at h
    have hu : ps.forced? u = none := by
      cases hf : ps.forced? u with
      | none => rfl
      | some s =>
        have h1 := waiting_foldl_confirm_le ts (ps.confirm u)
        have h2 := (Move.confirm (forced?_eq_some_iff.1 hf)).waiting_eq
        rw [confirm, hf] at h h1
        simp only at h h1
        omega
    have hc : ps.confirm u = ps := by rw [confirm, hu]
    rw [hc] at h
    intro t ht
    rcases List.mem_cons.1 ht with rfl | ht
    · exact hu
    · exact ih h t ht

/-- A pass that finds no token to confirm changes nothing. -/
theorem foldl_confirm_eq_self {ps : Placement} {ts : List Nat} (h : ∀ t ∈ ts, ps.forced? t = none) :
    ts.foldl confirm ps = ps := by
  induction ts with
  | nil => rfl
  | cons t ts ih =>
    have ht : ps.confirm t = ps := by
      rw [confirm, h t List.mem_cons_self]
    rw [List.foldl_cons, ht]
    exact ih fun u hu => h u (List.mem_cons_of_mem t hu)

/-- **A pass leaves fewer tokens waiting if there is one to confirm.** -/
theorem waiting_confirmAll_lt_iff {ps : Placement} :
    ps.confirmAll.waiting < ps.waiting ↔ ∃ t s : Nat, ps[t]? = some (.undecided [s]) := by
  constructor
  · intro hlt
    by_contra hnone
    have hall : ∀ t ∈ List.range ps.length, ps.forced? t = none := by
      intro t _
      cases hf : ps.forced? t with
      | none => rfl
      | some s => exact absurd ⟨t, s, forced?_eq_some_iff.1 hf⟩ hnone
    rw [confirmAll, foldl_confirm_eq_self hall] at hlt
    exact Nat.lt_irrefl _ hlt
  · rintro ⟨t, s, hts⟩
    by_contra hnot
    have hw : ps.confirmAll.waiting = ps.waiting :=
      Nat.le_antisymm (waiting_foldl_confirm_le _ ps) (Nat.not_lt.1 hnot)
    have ht : t ∈ List.range ps.length :=
      List.mem_range.2 (List.getElem?_eq_some_iff.1 hts).1
    have hnone := forced?_eq_none_of_foldl hw t ht
    rw [forced?_eq_some_iff.2 hts] at hnone
    cases hnone

theorem forced?_eq_none_of_not_lt {ps : Placement} (h : ¬ ps.confirmAll.waiting < ps.waiting)
    (t : Nat) : ps.forced? t = none := by
  cases hf : ps.forced? t with
  | none => rfl
  | some s => exact absurd (waiting_confirmAll_lt_iff.2 ⟨t, s, forced?_eq_some_iff.1 hf⟩) h

theorem confirmAll_of_not_lt {ps : Placement} (h : ¬ ps.confirmAll.waiting < ps.waiting) :
    ps.confirmAll = ps :=
  foldl_confirm_eq_self fun t _ => forced?_eq_none_of_not_lt h t

theorem propagate_of_lt {ps : Placement} (h : ps.confirmAll.waiting < ps.waiting) :
    ps.propagate = ps.confirmAll.propagate := by
  rw [propagate, if_pos h]

theorem propagate_of_not_lt {ps : Placement} (h : ¬ ps.confirmAll.waiting < ps.waiting) :
    ps.propagate = ps := by
  rw [propagate, if_neg h]

/-- After `propagate` no token has just one slot left. -/
theorem forced?_propagate (ps : Placement) (t : Nat) : ps.propagate.forced? t = none := by
  fun_induction propagate ps with
  | case1 ps _ ih => exact ih
  | case2 ps h => exact forced?_eq_none_of_not_lt h t

/-! ### Guesses -/

theorem choice?_eq_some {ps : Placement} {t s : Nat} (h : ps.choice? = some (t, s)) :
    (∃ l : List Nat, ps[t]? = some (.undecided (s :: l))) ∧
      ∀ u < t, ∀ l : List Nat, ps[u]? = some (.undecided l) → l = [] := by
  unfold choice? at h
  split at h
  · simp at h
  · rename_i t' hfind
    split at h
    · rename_i s' l hp
      simp only [Option.some.injEq, Prod.mk.injEq] at h
      obtain ⟨rfl, rfl⟩ := h
      refine ⟨⟨l, hp⟩, fun u hu l' hl' => ?_⟩
      obtain ⟨_, _, hbefore⟩ := List.findIdx?_eq_some_iff_getElem.1 hfind
      obtain ⟨hlt, hget⟩ := List.getElem?_eq_some_iff.1 hl'
      have hb := hbefore u hu
      rw [hget] at hb
      cases l' with
      | nil => rfl
      | cons r l' => simp at hb
    · simp at h

theorem choice?_eq_none {ps : Placement} (h : ps.choice? = none) {t : Nat} {l : List Nat}
    (ht : ps[t]? = some (.undecided l)) : l = [] := by
  unfold choice? at h
  split at h
  · rename_i hfind
    have hb := List.findIdx?_eq_none_iff.1 hfind _ (List.mem_of_getElem? ht)
    cases l with
    | nil => rfl
    | cons r l => simp at hb
  · rename_i t' hfind
    obtain ⟨hlt, hget, -⟩ := List.findIdx?_eq_some_iff_getElem.1 hfind
    split at h
    · simp at h
    · rename_i hnot
      split at hget
      · rename_i r l' hp
        exact absurd (List.getElem?_eq_some_iff.2 ⟨hlt, hp⟩) (hnot r l')
      · simp at hget

theorem solve_of_choice?_eq_none {ps : Placement} (h : ps.propagate.choice? = none) :
    ps.solve = ps.propagate := by
  rw [solve]
  split
  · rfl
  · rename_i hc
    rw [h] at hc
    cases hc

theorem solve_of_choice?_eq_some {ps : Placement} {t s : Nat}
    (h : ps.propagate.choice? = some (t, s)) :
    ps.solve = (ps.propagate.assign t s).solve := by
  rw [solve]
  split
  · rename_i hc
    rw [h] at hc
    cases hc
  · rename_i hc
    rw [h] at hc
    cases hc
    rfl

theorem choice?_solve (ps : Placement) : ps.solve.choice? = none := by
  fun_induction solve ps with
  | case1 ps h => exact h
  | case2 ps t s h ih => exact ih

/-! ### The assignments of a run -/

/-- The assignments lead from one placement to the other.  Each in turn is a move and
gives a waiting token one of the slots that are open to it. -/
inductive Deals : Placement → List (Nat × Nat) → Placement → Prop
  | nil {ps : Placement} : Deals ps [] ps
  | cons {ps qs : Placement} {t s : Nat} {l : List Nat} {as : List (Nat × Nat)}
      (hm : Move ps (ps.assign t s)) (ht : ps[t]? = some (.undecided l)) (hs : s ∈ l)
      (h : Deals (ps.assign t s) as qs) : Deals ps ((t, s) :: as) qs

theorem Deals.append {ps qs rs : Placement} {as bs : List (Nat × Nat)} (h : Deals ps as qs)
    (h' : Deals qs bs rs) : Deals ps (as ++ bs) rs := by
  induction h with
  | nil => exact h'
  | cons hm ht hs _ ih => exact .cons hm ht hs (ih h')

theorem Deals.moves {ps qs : Placement} {as : List (Nat × Nat)} (h : Deals ps as qs) :
    Moves ps qs := by
  induction h with
  | nil => exact .refl
  | cons hm _ _ _ ih => exact .head hm ih

theorem Deals.length_add_waiting {ps qs : Placement} {as : List (Nat × Nat)} (h : Deals ps as qs) :
    as.length + qs.waiting = ps.waiting := by
  induction h with
  | nil => exact Nat.zero_add _
  | cons hm _ _ _ ih =>
    have hw := hm.waiting_eq
    rw [List.length_cons]
    omega

/-- The assignment that `confirm` makes, if it makes one. -/
def confirmation (ps : Placement) (t : Nat) : List (Nat × Nat) :=
  ((ps.forced? t).map (t, ·)).toList

/-- The assignments of a pass over the tokens. -/
def confirmations : Placement → List Nat → List (Nat × Nat)
  | _, [] => []
  | ps, t :: ts => ps.confirmation t ++ (ps.confirm t).confirmations ts

/-- The assignments of all passes, with the last one, which finds no token to confirm. -/
def propagations (ps : Placement) : List (Nat × Nat) :=
  ps.confirmations (List.range ps.length) ++
    if ps.confirmAll.waiting < ps.waiting then ps.confirmAll.propagations else []
termination_by ps.waiting

/-- The assignments of `solve`, in order. -/
def assignments (ps : Placement) : List (Nat × Nat) :=
  match _h : ps.propagate.choice? with
  | none => ps.propagations
  | some (t, s) => ps.propagations ++ (t, s) :: (ps.propagate.assign t s).assignments
termination_by ps.waiting
decreasing_by
  have h1 := waiting_choice _h
  have h2 := waiting_propagate_le ps
  omega

theorem deals_confirmation (ps : Placement) (t : Nat) :
    Deals ps (ps.confirmation t) (ps.confirm t) := by
  rw [confirmation, confirm]
  cases hf : ps.forced? t with
  | none => exact .nil
  | some s =>
    have ht := forced?_eq_some_iff.1 hf
    exact .cons (.confirm ht) ht (List.mem_singleton.2 rfl) .nil

theorem deals_confirmations (ps : Placement) (ts : List Nat) :
    Deals ps (ps.confirmations ts) (ts.foldl confirm ps) := by
  induction ts generalizing ps with
  | nil => exact .nil
  | cons t ts ih => exact (deals_confirmation ps t).append (ih _)

theorem deals_propagations (ps : Placement) : Deals ps ps.propagations ps.propagate := by
  fun_induction propagate ps with
  | case1 ps h ih =>
    rw [propagations, if_pos h]
    exact (deals_confirmations ps _).append ih
  | case2 ps h =>
    rw [propagations, if_neg h, List.append_nil]
    have hpass := deals_confirmations ps (List.range ps.length)
    rwa [← confirmAll, confirmAll_of_not_lt h] at hpass

/-- **Solving ends where its assignments lead to.** -/
theorem deals_assignments {ps : Placement} (ho : ps.Ordered) : Deals ps ps.assignments ps.solve := by
  have hp := deals_propagations ps
  fun_induction assignments ps with
  | case1 ps h =>
    rw [solve_of_choice?_eq_none h]
    exact hp
  | case2 ps t s h ih =>
    obtain ⟨⟨l, hl⟩, hfirst⟩ := choice?_eq_some h
    have ho' : ps.propagate.Ordered := hp.moves.keeps (fun _ _ hm => hm.ordered) ho
    have hm : Move ps.propagate (ps.propagate.assign t s) := by
      refine .guess (fun u r hu => ?_) hfirst hl List.mem_cons_self fun r hr => ?_
      · have := forced?_propagate ps u
        rw [forced?_eq_some_iff.2 hu] at this
        simp at this
      · rcases List.mem_cons.1 hr with rfl | hr
        · exact Nat.le_refl _
        · exact Nat.le_of_lt (List.rel_of_pairwise_cons (ho' t _ hl) hr)
    rw [solve_of_choice?_eq_some h]
    exact hp.append (.cons hm hl List.mem_cons_self (ih (hm.ordered ho') (deals_propagations _)))

/-- **Solving makes moves until there are none.** -/
theorem solve_isRun {ps : Placement} (ho : ps.Ordered) : IsRun ps ps.solve :=
  ⟨(deals_assignments ho).moves, isFinal_of_eq_nil fun _ _ => choice?_eq_none (choice?_solve ps)⟩

/-! ### Reading the result off -/

theorem token?_eq_some_iff {ps : Placement} {s t : Nat} :
    ps.token? s = some t ↔ ps[t]? = some (.placed s) ∧ ∀ u < t, ps[u]? ≠ some (.placed s) := by
  rw [token?, List.findIdx?_eq_some_iff_getElem]
  simp only [beq_iff_eq, Progress.slot?_eq_some_iff]
  constructor
  · rintro ⟨ht, hp, hbefore⟩
    refine ⟨List.getElem?_eq_some_iff.2 ⟨ht, hp⟩, fun u hu h => ?_⟩
    exact hbefore u hu (List.getElem?_eq_some_iff.1 h).2
  · rintro ⟨h, hbefore⟩
    obtain ⟨ht, hp⟩ := List.getElem?_eq_some_iff.1 h
    refine ⟨ht, hp, fun u hu h' => ?_⟩
    exact hbefore u hu (List.getElem?_eq_some_iff.2 ⟨Nat.lt_trans hu ht, h'⟩)

theorem isSome_token?_iff {ps : Placement} {s : Nat} :
    (ps.token? s).isSome = true ↔ ∃ t : Nat, ps[t]? = some (.placed s) := by
  constructor
  · intro h
    obtain ⟨t, ht⟩ := Option.isSome_iff_exists.1 h
    exact ⟨t, (token?_eq_some_iff.1 ht).1⟩
  · intro h
    exact Option.isSome_iff_exists.2 ⟨_, token?_eq_some_iff.2
      ⟨Nat.find_spec h, fun u => Nat.find_min h⟩⟩

theorem mem_leftovers_iff {ps : Placement} {t : Nat} :
    t ∈ ps.leftovers ↔ ∃ l : List Nat, ps[t]? = some (.undecided l) := by
  rw [leftovers, List.mem_filter, List.mem_range]
  constructor
  · rintro ⟨ht, h⟩
    rw [List.getElem?_eq_getElem ht] at h ⊢
    cases hp : ps[t] with
    | placed s => rw [hp] at h; simp [Progress.isWaiting] at h
    | undecided l => exact ⟨l, rfl⟩
  · rintro ⟨l, hl⟩
    refine ⟨(List.getElem?_eq_some_iff.1 hl).1, ?_⟩
    rw [hl]
    rfl

theorem length_leftovers (ps : Placement) : ps.leftovers.length = ps.waiting := by
  rw [leftovers, waiting, ← List.countP_eq_length_filter]
  induction ps using List.reverseRecOn with
  | nil => rfl
  | append_singleton ps p ih =>
    rw [List.length_append, List.length_singleton, List.range_succ, List.countP_append,
      List.countP_append, ← ih]
    congr 1
    · refine List.countP_congr fun t ht => ?_
      rw [List.getElem?_append_left (List.mem_range.1 ht)]
    · simp

end Placement

end ContestExchange
