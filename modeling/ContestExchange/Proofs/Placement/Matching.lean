import Mathlib.Data.Fintype.Pigeonhole
import Mathlib.Dynamics.PeriodicPts.Lemmas
import ContestExchange.Proofs.Placement.Solving

/-!
# Tokens with one way to be placed

If there is one way only to give every token a slot of its own, `solve` finds it
(`solve_of_determines`), and it never has to guess.  For suppose that each
waiting token had another slot beside the one that it has to get.  Then either
some token's other slot is free and the token can move there, or each token's
other slot is the one that another waiting token has to get, and following these
slots from token to token runs into a cycle, along which all tokens can move on
by one.  In both cases there is a second way (`exists_rotation`).

If every token may go to the slot that has its own place in the order, `solve` puts it
there, whatever other slots are open to it (`solve_of_inPlace`).  Only the first of
the tokens guesses, and a slot below its own one belongs to a token before it.
-/

namespace ContestExchange

open Function

section Rotation

variable {τ σ : Type} {m g : τ → σ} {W : Set τ}

theorem exists_periodic [Finite τ] {f : τ → τ} (hW : W.Nonempty) (hf : Set.MapsTo f W W) :
    ∃ t ∈ W, t ∈ periodicPts f := by
  obtain ⟨t, ht⟩ := hW
  obtain ⟨i, j, hij, hloop⟩ := Finite.exists_ne_map_eq_of_infinite fun k => f^[k] t
  wlog hlt : i < j generalizing i j
  · exact this j i hij.symm hloop.symm (by omega)
  refine ⟨f^[i] t, hf.iterate i ht, mk_mem_periodicPts (Nat.sub_pos_of_lt hlt) ?_⟩
  rw [IsPeriodicPt, IsFixedPt, ← iterate_add_apply, Nat.sub_add_cancel (Nat.le_of_lt hlt)]
  exact hloop.symm

open Classical in
/-- The slots once every token on a cycle of `next` has moved on by one. -/
noncomputable def rotate (m : τ → σ) (next : τ → τ) (t : τ) : σ :=
  if t ∈ periodicPts next then m (next t) else m t

theorem injective_rotate (hm : Injective m) (next : τ → τ) : Injective (rotate m next) := by
  have hbij := bijOn_periodicPts next
  intro t u h
  rw [rotate, rotate] at h
  split at h <;> rename_i ht <;> split at h <;> rename_i hu
  · exact hbij.injOn ht hu (hm h)
  · exact absurd (hm h ▸ hbij.mapsTo ht) hu
  · exact absurd (hm h ▸ hbij.mapsTo hu) ht
  · exact hm h

theorem exists_rotation_of_free (hm : Injective m) {t : τ} (ht : t ∈ W) (hfree : ∀ u, g t ≠ m u) :
    ∃ m' : τ → σ, Injective m' ∧ m' ≠ m ∧ ∀ u, m' u = m u ∨ u ∈ W ∧ m' u = g u := by
  classical
  refine ⟨update m t (g t), ?_, ?_, fun u => ?_⟩
  · intro u v huv
    by_cases hu : u = t <;> by_cases hv : v = t
    · rw [hu, hv]
    · rw [hu, update_self, update_of_ne hv] at huv
      exact absurd huv (hfree v)
    · rw [hv, update_self, update_of_ne hu] at huv
      exact absurd huv.symm (hfree u)
    · rw [update_of_ne hu, update_of_ne hv] at huv
      exact hm huv
  · intro he
    have := congrFun he t
    rw [update_self] at this
    exact hfree t this
  · by_cases hu : u = t
    · rw [hu, update_self]
      exact Or.inr ⟨ht, rfl⟩
    · exact Or.inl (update_of_ne hu (g t) m)

/-- **Of a family of distinct slots another one can be made**, if some tokens have
a second slot each and the second slots are no slots of the other tokens. -/
theorem exists_rotation [Finite τ] (hm : Injective m) (hW : W.Nonempty) (hg : ∀ t ∈ W, g t ≠ m t)
    (hin : ∀ t ∈ W, ∀ u, g t = m u → u ∈ W) :
    ∃ m' : τ → σ, Injective m' ∧ m' ≠ m ∧ ∀ t, m' t = m t ∨ t ∈ W ∧ m' t = g t := by
  classical
  by_cases hfree : ∃ t ∈ W, ∀ u, g t ≠ m u
  · obtain ⟨t, ht, hfree⟩ := hfree
    exact exists_rotation_of_free hm ht hfree
  · have howner : ∀ t, ∃ u, t ∈ W → g t = m u := by
      intro t
      by_cases ht : t ∈ W
      · by_contra hno
        exact hfree ⟨t, ht, fun u hu => hno ⟨u, fun _ => hu⟩⟩
      · exact ⟨t, fun h => absurd h ht⟩
    choose owner howner using howner
    let next (t : τ) : τ := if t ∈ W then owner t else t
    have hnext : ∀ t ∈ W, m (next t) = g t := fun t ht => by
      simp only [next, if_pos ht, howner t ht]
    obtain ⟨t₀, ht₀, hp₀⟩ := exists_periodic hW fun t ht => hin t ht _ (hnext t ht).symm
    refine ⟨rotate m next, injective_rotate hm next, ?_, fun t => ?_⟩
    · intro he
      have := congrFun he t₀
      rw [rotate, if_pos hp₀, hnext t₀ ht₀] at this
      exact hg t₀ ht₀ this
    · rw [rotate]
      split
      · by_cases ht : t ∈ W
        · exact Or.inr ⟨ht, hnext t ht⟩
        · simp only [next, if_neg ht, true_or]
      · exact Or.inl rfl

end Rotation

/-- Whether the token may have the slot. -/
def Progress.Allows : Progress → Nat → Prop
  | placed r, s => s = r
  | undecided l, s => s ∈ l

namespace Progress

theorem Allows.of_without {p : Progress} {r s : Nat} (h : (p.without r).Allows s) : p.Allows s := by
  cases p with
  | placed t => exact h
  | undecided l => exact (List.mem_filter.1 h).1

theorem Allows.without {p : Progress} {r s : Nat} (h : p.Allows s) (hne : s ≠ r) :
    (p.without r).Allows s := by
  cases p with
  | placed t => exact h
  | undecided l => exact List.mem_filter.2 ⟨h, by simpa using hne⟩

end Progress

namespace Placement

/-- After an assignment only its token may have the slot, and the other tokens may have no slot
that they could not have before. -/
theorem allows_of_assign {ps : Placement} {t s u r : Nat} {q : Progress}
    (hq : (ps.assign t s)[u]? = some q) (ha : q.Allows r) :
    u = t ∧ r = s ∨ u ≠ t ∧ ∃ p, ps[u]? = some p ∧ p.Allows r := by
  rw [getElem?_assign, Option.map_eq_some_iff] at hq
  obtain ⟨p, hp, rfl⟩ := hq
  by_cases hu : u = t
  · rw [if_pos hu] at ha
    exact Or.inl ⟨hu, ha⟩
  · rw [if_neg hu] at ha
    exact Or.inr ⟨hu, p, hp, ha.of_without⟩

/-- Every token can have the slot that it is given here, and no two have the
same. -/
structure Saturates (ps : Placement) {n : Nat} (m : Fin n → Nat) : Prop where
  injective : Injective m
  allows : ∀ i : Fin n, ∃ p, ps[i.1]? = some p ∧ p.Allows (m i)

/-- There is one way to give every token a slot of its own, and no other. -/
structure Determines (ps : Placement) {n : Nat} (m : Fin n → Nat) : Prop where
  length_eq : ps.length = n
  ordered : ps.Ordered
  apart : ps.Apart
  saturates : ps.Saturates m
  unique : ∀ m', ps.Saturates m' → m' = m

theorem Determines.mem {ps : Placement} {n : Nat} {m : Fin n → Nat} (h : ps.Determines m)
    {i : Fin n} {l : List Nat} (hi : ps[i.1]? = some (.undecided l)) : m i ∈ l := by
  obtain ⟨p, hp, ha⟩ := h.saturates.allows i
  rw [hi, Option.some.injEq] at hp
  subst hp
  exact ha

theorem Determines.exists_other {ps : Placement} {n : Nat} {m : Fin n → Nat}
    (h : ps.Determines m) (hnone : ∀ u s : Nat, ps[u]? ≠ some (.undecided [s])) {i : Fin n}
    {l : List Nat} (hl : ps[i.1]? = some (.undecided l)) : ∃ s ∈ l, s ≠ m i := by
  by_contra hall
  have heq : ∀ s ∈ l, s = m i := fun s hs => by
    by_contra hne
    exact hall ⟨s, hs, hne⟩
  have hl' : l = [m i] := List.perm_singleton.1 <|
    (List.perm_ext_iff_of_nodup ((h.ordered i l hl).imp Nat.ne_of_lt)
      (List.nodup_singleton (m i))).2 fun s =>
        ⟨fun hs => List.mem_singleton.2 (heq s hs), fun hs => List.mem_singleton.1 hs ▸ h.mem hl⟩
  exact hnone i (m i) (hl' ▸ hl)

/-- **As long as tokens are waiting, one of them has a single slot left.** -/
theorem Determines.exists_single {ps : Placement} {n : Nat} {m : Fin n → Nat}
    (h : ps.Determines m) {t : Nat} {l : List Nat} (ht : ps[t]? = some (.undecided l)) :
    ∃ u s : Nat, ps[u]? = some (.undecided [s]) := by
  by_contra hsome
  have hnone : ∀ u s : Nat, ps[u]? ≠ some (.undecided [s]) := fun u s hu => hsome ⟨u, s, hu⟩
  let W : Set (Fin n) := {i | ∃ l : List Nat, ps[i.1]? = some (.undecided l)}
  have hother : ∀ i : Fin n, ∃ s, i ∈ W → s ≠ m i ∧ ∀ l, ps[i.1]? = some (.undecided l) → s ∈ l := by
    intro i
    by_cases hi : i ∈ W
    · obtain ⟨l, hl⟩ := hi
      obtain ⟨s, hs, hne⟩ := h.exists_other hnone hl
      refine ⟨s, fun _ => ⟨hne, fun l' hl' => ?_⟩⟩
      rw [hl, Option.some.injEq, Progress.undecided.injEq] at hl'
      exact hl' ▸ hs
    · exact ⟨0, fun h => absurd h hi⟩
  choose g hg using hother
  have htn : t < n := by
    rw [← h.length_eq]
    exact (List.getElem?_eq_some_iff.1 ht).1
  obtain ⟨m', hinj, hne, hfrom⟩ := exists_rotation (m := m) (g := g) (W := W) h.saturates.injective
    ⟨⟨t, htn⟩, l, ht⟩ (fun i hi => (hg i hi).1) (fun i hi u hu => by
      -- The other slot cannot be filled yet, so it is a waiting token's.
      obtain ⟨l, hl⟩ := hi
      obtain ⟨p, hp, ha⟩ := h.saturates.allows u
      cases p with
      | undecided l' => exact ⟨l', hp⟩
      | placed r =>
        have hr : g i = r := hu.trans ha
        exact absurd ((hg i ⟨l, hl⟩).2 l hl) (hr ▸ h.apart i u l r hl hp))
  refine hne (h.unique m' ⟨hinj, fun i => ?_⟩)
  rcases hfrom i with he | ⟨hi, he⟩
  · rw [he]
    exact h.saturates.allows i
  · obtain ⟨l, hl⟩ := hi
    exact ⟨.undecided l, hl, he ▸ (hg i ⟨l, hl⟩).2 l hl⟩

/-- **A move keeps the one way**, since it is a confirmation. -/
theorem Move.determines {ps qs : Placement} {n : Nat} {m : Fin n → Nat} (hm : Move ps qs)
    (h : ps.Determines m) : qs.Determines m := by
  obtain ⟨t, s, ht, rfl⟩ : ∃ t s : Nat, ps[t]? = some (.undecided [s]) ∧ qs = ps.assign t s := by
    cases hm with
    | @confirm t s ht => exact ⟨t, s, ht, rfl⟩
    | guess hall hfirst ht hs hleast =>
      obtain ⟨u, r, hu⟩ := h.exists_single ht
      exact absurd hu (hall u r)
  have htn : t < n := by
    rw [← h.length_eq]
    exact (List.getElem?_eq_some_iff.1 ht).1
  have hmt : m ⟨t, htn⟩ = s := List.mem_singleton.1 (h.mem (i := ⟨t, htn⟩) ht)
  refine ⟨(length_assign ps t s).trans h.length_eq, hm.ordered h.ordered, hm.apart h.apart,
    ⟨h.saturates.injective, fun i => ?_⟩, fun m' hm' => h.unique m' ⟨hm'.injective, fun i => ?_⟩⟩
  · by_cases hi : i.1 = t
    · refine ⟨.placed s, hi ▸ getElem?_assign_self ht s, ?_⟩
      rw [← hmt]
      exact congrArg m (Fin.ext hi)
    · obtain ⟨p, hp, ha⟩ := h.saturates.allows i
      have hne : m i ≠ s := fun he => hi
        (congrArg Fin.val (h.saturates.injective (he.trans hmt.symm)))
      exact ⟨p.without s, by rw [getElem?_assign_of_ne ps hi, hp]; rfl, ha.without hne⟩
  · obtain ⟨q, hq, ha⟩ := hm'.allows i
    rcases allows_of_assign hq ha with ⟨hi, hr⟩ | ⟨-, h⟩
    · exact ⟨.undecided [s], hi ▸ ht, List.mem_singleton.2 hr⟩
    · exact h

/-- **If there is one way only to give every token a slot, `solve` finds it.** -/
theorem solve_of_determines {ps : Placement} {n : Nat} {m : Fin n → Nat} (h : ps.Determines m)
    (i : Fin n) : ps.solve[i.1]? = some (.placed (m i)) := by
  have hrun := solve_isRun h.ordered
  have hd : ps.solve.Determines m := hrun.moves.keeps (fun _ _ hm => hm.determines) h
  obtain ⟨p, hp, ha⟩ := hd.saturates.allows i
  cases p with
  | placed r => rw [hp, show m i = r from ha]
  | undecided l =>
    obtain ⟨u, s, hu⟩ := hd.exists_single hp
    exact absurd (.confirm hu) (hrun.isFinal _)

/-! ### Tokens in order -/

/-- Every token has the slot that has its own place, or may still go there. -/
structure InPlace (ps : Placement) : Prop where
  ordered : ps.Ordered
  apart : ps.Apart
  place : ∀ (t : Nat) (p : Progress), ps[t]? = some p → p.Allows t

/-- **A move puts a token where it belongs.** -/
theorem Move.inPlace {ps qs : Placement} (hm : Move ps qs) (h : ps.InPlace) : qs.InPlace := by
  obtain ⟨t, l, ht, rfl⟩ : ∃ (t : Nat) (l : List Nat), ps[t]? = some (.undecided l) ∧
      qs = ps.assign t t := by
    cases hm with
    | @confirm t s ht =>
      have hts : t = s := List.mem_singleton.1 (h.place t _ ht)
      exact ⟨t, [s], ht, hts ▸ rfl⟩
    | @guess t s l hall hfirst ht hs hleast =>
      have hle : s ≤ t := hleast t (h.place t _ ht)
      -- The token of a lower slot would have to come first.
      have hts : s = t := by
        rcases Nat.lt_or_eq_of_le hle with hlt | heq
        · have hsn : s < ps.length := Nat.lt_trans hlt (List.getElem?_eq_some_iff.1 ht).1
          have hget : ps[s]? = some ps[s] := List.getElem?_eq_getElem hsn
          have ha := h.place s _ hget
          cases hp : ps[s] with
          | placed r =>
            rw [hp] at hget ha
            exact absurd hs (h.apart t s l s ht ((show s = r from ha) ▸ hget))
          | undecided l' =>
            rw [hp] at hget ha
            rw [hfirst s hlt l' hget] at ha
            exact absurd ha List.not_mem_nil
        · exact heq
      exact ⟨t, l, ht, hts ▸ rfl⟩
  refine ⟨hm.ordered h.ordered, hm.apart h.apart, fun u q hq => ?_⟩
  by_cases hu : u = t
  · rw [hu, getElem?_assign_self ht, Option.some.injEq] at hq
    subst hq
    exact hu
  · rw [getElem?_assign_of_ne ps hu, Option.map_eq_some_iff] at hq
    obtain ⟨p, hp, rfl⟩ := hq
    exact (h.place u p hp).without hu

/-- **Tokens that may stay in order stay in order.** -/
theorem solve_of_inPlace {ps : Placement} (h : ps.InPlace) {t : Nat} (ht : t < ps.length) :
    ps.solve[t]? = some (.placed t) := by
  have hrun := solve_isRun h.ordered
  have hp : ps.solve.InPlace := hrun.moves.keeps (fun _ _ hm => hm.inPlace) h
  have hlt : t < ps.solve.length := hrun.moves.length_eq ▸ ht
  have hget : ps.solve[t]? = some ps.solve[t] := List.getElem?_eq_getElem hlt
  have ha := hp.place t _ hget
  cases hq : ps.solve[t] with
  | placed r =>
    rw [hq] at hget ha
    rw [hget, show t = r from ha]
  | undecided l =>
    rw [hq] at hget ha
    rw [hrun.isFinal.eq_nil hget] at ha
    exact absurd ha List.not_mem_nil

end Placement

end ContestExchange
