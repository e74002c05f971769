import Mathlib.Order.Monotone.Defs
import ContestExchange.Proofs.Placement.Confluence

/-!
# Tokens that may go nowhere

A token without any slot to go to is passed over in every pass, and no guess is made for
it.  But it counts: it moves the tokens after it on by one place, and a pass goes over as
many places as there are tokens.  So that it does not matter is shown by a simulation.
`Embeds e qs ps` says that `ps` is `qs` with such tokens put in, and that the token at `i`
in `qs` stands at `e i` in `ps`.  Whatever is done with `qs` the same is done with `ps`
(`Embeds.confirmAll`, `Embeds.propagate`), and in the end with all of it
(`Embeds.solve`): each token gets the slot that it gets without them.
-/

namespace ContestExchange.Placement

variable {ps qs : Placement} {e : Nat → Nat} {t s : Nat}

/-- The tokens of `qs` stand in `ps` in the same order, and those between them may go nowhere. -/
structure Embeds (e : Nat → Nat) (qs ps : Placement) : Prop where
  strictMono : StrictMono e
  getElem?_eq : ∀ i, ps[e i]? = qs[i]?
  stranded : ∀ (t : Nat) (p : Progress), ps[t]? = some p → t ∉ Set.range e → p = .undecided []

namespace Embeds

theorem lt_iff (h : Embeds e qs ps) (i : Nat) : i < qs.length ↔ e i < ps.length := by
  rw [← Nat.not_le, ← Nat.not_le, ← List.getElem?_eq_none_iff, ← List.getElem?_eq_none_iff,
    h.getElem?_eq]

/-! ### A pass -/

theorem assign (h : Embeds e qs ps) (i s : Nat) : Embeds e (qs.assign i s) (ps.assign (e i) s) := by
  refine ⟨h.strictMono, fun j => ?_, fun t p hp ht => ?_⟩
  · simp only [getElem?_assign, h.getElem?_eq, h.strictMono.injective.eq_iff]
  · have hne : t ≠ e i := by
      rintro rfl
      exact ht ⟨i, rfl⟩
    rw [getElem?_assign_of_ne ps hne, Option.map_eq_some_iff] at hp
    obtain ⟨q, hq, rfl⟩ := hp
    rw [h.stranded t q hq ht]
    rfl

theorem forced? (h : Embeds e qs ps) (i : Nat) : ps.forced? (e i) = qs.forced? i := by
  rw [Placement.forced?, Placement.forced?, h.getElem?_eq]

theorem confirm (h : Embeds e qs ps) (i : Nat) : Embeds e (qs.confirm i) (ps.confirm (e i)) := by
  rw [Placement.confirm, Placement.confirm, h.forced?]
  cases qs.forced? i with
  | none => exact h
  | some s => exact h.assign i s

/-- The tokens between are not confirmed. -/
theorem confirm_of_notMem (h : Embeds e qs ps) (ht : t ∉ Set.range e) : ps.confirm t = ps := by
  rw [Placement.confirm]
  cases hf : ps.forced? t with
  | none => rfl
  | some s =>
    have hs := h.stranded t _ (forced?_eq_some_iff.1 hf) ht
    simp at hs

/-- A pass over the first places of `ps` is one over the tokens of `qs` that stand there. -/
theorem foldl_confirm (h : Embeds e qs ps) (n m : Nat) (hm : ∀ i, i < m ↔ e i < n) :
    Embeds e ((List.range m).foldl Placement.confirm qs)
      ((List.range n).foldl Placement.confirm ps) := by
  induction n generalizing m with
  | zero =>
    obtain rfl : m = 0 := by
      by_contra hne
      exact Nat.not_lt_zero _ ((hm 0).1 (Nat.pos_of_ne_zero hne))
    exact h
  | succ n ih =>
    rw [List.range_succ, List.foldl_append, List.foldl_cons, List.foldl_nil]
    by_cases hn : n ∈ Set.range e
    · obtain ⟨i, rfl⟩ := hn
      -- the last place is that of the token `i`, which is then the last one of the pass
      have hlt : ∀ j, j < i ↔ e j < e i := fun j => h.strictMono.lt_iff_lt.symm
      have hi : m = i + 1 := by
        have h1 : i < m := (hm i).2 (Nat.lt_succ_self _)
        have h2 : ¬ i + 1 < m := by
          intro hlast
          have hnext : e i < e (i + 1) := h.strictMono (Nat.lt_succ_self i)
          have hin := (hm (i + 1)).1 hlast
          omega
        omega
      rw [hi, List.range_succ, List.foldl_append, List.foldl_cons, List.foldl_nil]
      exact (ih i hlt).confirm i
    · have hm' : ∀ i, i < m ↔ e i < n := by
        intro i
        rw [hm i, Nat.lt_succ_iff, Nat.le_iff_lt_or_eq]
        exact or_iff_left fun he => hn ⟨i, he⟩
      rw [(ih m hm').confirm_of_notMem hn]
      exact ih m hm'

theorem confirmAll (h : Embeds e qs ps) : Embeds e qs.confirmAll ps.confirmAll :=
  h.foldl_confirm _ _ h.lt_iff

end Embeds

/-! ### All passes -/

namespace Embeds

theorem exists_of_ne (h : Embeds e qs ps) {p : Progress} (ht : ps[t]? = some p)
    (hp : p ≠ .undecided []) : ∃ i, e i = t ∧ qs[i]? = some p := by
  by_contra hnot
  have hrange : t ∉ Set.range e := by
    rintro ⟨i, rfl⟩
    exact hnot ⟨i, rfl, (h.getElem?_eq i).symm.trans ht⟩
  exact hp (h.stranded t p ht hrange)

theorem waiting_confirmAll_lt_iff (h : Embeds e qs ps) :
    ps.confirmAll.waiting < ps.waiting ↔ qs.confirmAll.waiting < qs.waiting := by
  rw [Placement.waiting_confirmAll_lt_iff, Placement.waiting_confirmAll_lt_iff]
  constructor
  · rintro ⟨t, s, hts⟩
    obtain ⟨i, -, hi⟩ := h.exists_of_ne hts (by simp)
    exact ⟨i, s, hi⟩
  · rintro ⟨i, s, his⟩
    exact ⟨e i, s, (h.getElem?_eq i).trans his⟩

theorem propagate (h : Embeds e qs ps) : Embeds e qs.propagate ps.propagate := by
  fun_induction Placement.propagate qs generalizing ps with
  | case1 qs hlt ih =>
    rw [propagate_of_lt (h.waiting_confirmAll_lt_iff.2 hlt)]
    exact ih h.confirmAll
  | case2 qs hnot =>
    rw [propagate_of_not_lt (mt h.waiting_confirmAll_lt_iff.1 hnot)]
    exact h

/-! ### Guesses -/

theorem choice?_eq_none (h : Embeds e qs ps) (hq : qs.choice? = none) : ps.choice? = none := by
  cases hc : ps.choice? with
  | none => rfl
  | some c =>
    obtain ⟨⟨l, hl⟩, -⟩ := choice?_eq_some hc
    obtain ⟨i, -, hi⟩ := h.exists_of_ne hl (by simp)
    exact absurd (Placement.choice?_eq_none hq hi) (List.cons_ne_nil _ _)

/-- **The guess is made for the same token**, since none between comes before it. -/
theorem choice?_eq_some (h : Embeds e qs ps) {i : Nat} (hq : qs.choice? = some (i, s)) :
    ps.choice? = some (e i, s) := by
  obtain ⟨⟨l, hl⟩, hfirst⟩ := Placement.choice?_eq_some hq
  have hei : ps[e i]? = some (.undecided (s :: l)) := (h.getElem?_eq i).trans hl
  have hfirst' : ∀ u < e i, ∀ l' : List Nat, ps[u]? = some (.undecided l') → l' = [] := by
    intro u hu l' hl'
    by_contra hne
    obtain ⟨j, rfl, hj⟩ := h.exists_of_ne hl' (by simpa using hne)
    exact hne (hfirst j (h.strictMono.lt_iff_lt.1 hu) l' hj)
  cases hc : ps.choice? with
  | none => exact absurd (Placement.choice?_eq_none hc hei) (List.cons_ne_nil s l)
  | some c =>
    obtain ⟨t, r⟩ := c
    obtain ⟨⟨l', hl'⟩, hbefore⟩ := Placement.choice?_eq_some hc
    obtain rfl : t = e i := eq_of_first (P := fun u l => ps[u]? = some (.undecided l))
      hbefore hfirst' hl' List.mem_cons_self hei List.mem_cons_self
    rw [hl', Option.some.injEq, Progress.undecided.injEq] at hei
    rw [(List.cons.inj hei).1]

/-- **Tokens that may go nowhere change nothing for the others.** -/
theorem solve (h : Embeds e qs ps) : Embeds e qs.solve ps.solve := by
  fun_induction Placement.solve qs generalizing ps with
  | case1 qs hnone =>
    rw [solve_of_choice?_eq_none (h.propagate.choice?_eq_none hnone)]
    exact h.propagate
  | case2 qs i s hc ih =>
    rw [solve_of_choice?_eq_some (h.propagate.choice?_eq_some hc)]
    exact ih (h.propagate.assign i s)

theorem token? (h : Embeds e qs ps) (s : Nat) : ps.token? s = (qs.token? s).map e := by
  cases hq : qs.token? s with
  | none =>
    rw [Option.map_none, Option.eq_none_iff_forall_ne_some]
    intro u hu
    obtain ⟨i, -, hi⟩ := h.exists_of_ne (token?_eq_some_iff.1 hu).1 (by simp)
    have hsome := isSome_token?_iff.2 ⟨i, hi⟩
    rw [hq] at hsome
    cases hsome
  | some i =>
    obtain ⟨hi, hfirst⟩ := token?_eq_some_iff.1 hq
    refine token?_eq_some_iff.2 ⟨(h.getElem?_eq i).trans hi, fun u hu hp => ?_⟩
    obtain ⟨j, rfl, hj⟩ := h.exists_of_ne hp (by simp)
    exact hfirst j (h.strictMono.lt_iff_lt.1 hu) hj

end Embeds

end ContestExchange.Placement
