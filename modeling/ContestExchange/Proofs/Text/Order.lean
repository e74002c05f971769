import Mathlib.Data.List.Induction
import Mathlib.Data.List.Nodup
import ContestExchange.Text.Order

/-!
# Texts without their repetitions, and in order

`eraseDups` keeps the first of equal texts, so a text added at the end stays if it
is new (`eraseDups_concat_of_mem`, `eraseDups_concat_of_notMem`).  `sortUnique`
lists the texts of a list in ascending order; what it gives are the ascending lists,
and these it leaves alone (`pairwise_sortUnique`, `sortUnique_of_pairwise`).
-/

namespace ContestExchange

/-! ### Without repetitions -/

theorem removeAll_eq_nil {l m : List String} (h : ∀ a ∈ l, a ∈ m) : l.removeAll m = [] := by
  rw [List.removeAll, List.filter_eq_nil_iff]
  intro a ha
  simp [h a ha]

theorem removeAll_congr {l m : List String} (h : ∀ a, a ∈ l ↔ a ∈ m) (xs : List String) :
    xs.removeAll l = xs.removeAll m := by
  rw [List.removeAll, List.removeAll]
  refine List.filter_congr fun a _ => ?_
  rw [Bool.eq_iff_iff]
  simp [h a]

theorem eraseDups_concat_of_mem {l : List String} {a : String} (h : a ∈ l) :
    (l ++ [a]).eraseDups = l.eraseDups := by
  have hgone : [a].removeAll l = [] := removeAll_eq_nil fun b hb => List.mem_singleton.1 hb ▸ h
  rw [List.eraseDups_append, hgone, List.eraseDups_nil, List.append_nil]

theorem eraseDups_concat_of_notMem {l : List String} {a : String} (h : a ∉ l) :
    (l ++ [a]).eraseDups = l.eraseDups ++ [a] := by
  have hleft : [a].removeAll l = [a] := by
    rw [List.removeAll, List.filter_eq_self]
    intro b hb
    simpa [List.mem_singleton.1 hb] using h
  rw [List.eraseDups_append, hleft]
  rfl

theorem nodup_eraseDups (l : List String) : l.eraseDups.Nodup := by
  induction l using List.reverseRecOn with
  | nil => exact List.nodup_nil
  | append_singleton l a ih =>
    by_cases h : a ∈ l
    · rwa [eraseDups_concat_of_mem h]
    · rw [eraseDups_concat_of_notMem h, List.nodup_append]
      refine ⟨ih, List.nodup_singleton a, ?_⟩
      rintro b hb d hd rfl
      rw [List.mem_singleton.1 hd, List.mem_eraseDups] at hb
      exact h hb

/-- What repetitions expand to is a repetition. -/
theorem eraseDups_flatMap_eraseDups (f : String → List String) (l : List String) :
    (l.eraseDups.flatMap f).eraseDups = (l.flatMap f).eraseDups := by
  induction l using List.reverseRecOn with
  | nil => rfl
  | append_singleton l a ih =>
    rw [List.flatMap_append, List.flatMap_singleton, @List.eraseDups_append _ _ _ (l.flatMap f)]
    by_cases h : a ∈ l
    · have hgone : (f a).removeAll (l.flatMap f) = [] :=
        removeAll_eq_nil fun b hb => List.mem_flatMap.2 ⟨a, h, hb⟩
      rw [eraseDups_concat_of_mem h, ih, hgone, List.eraseDups_nil, List.append_nil]
    · have hmem : ∀ b, b ∈ l.eraseDups.flatMap f ↔ b ∈ l.flatMap f := by
        intro b
        simp only [List.mem_flatMap, List.mem_eraseDups]
      rw [eraseDups_concat_of_notMem h, List.flatMap_append, List.flatMap_singleton,
        List.eraseDups_append, ih, removeAll_congr hmem]

/-! ### In order -/

namespace Text

theorem pairwise_sort (l : List String) : (sort l).Pairwise (· ≤ ·) := by
  have htrans : ∀ r s t : String, decide (r ≤ s) = true → decide (s ≤ t) = true →
      decide (r ≤ t) = true := by
    simpa only [decide_eq_true_eq] using fun r s t => String.le_trans
  have htotal : ∀ s t : String, (decide (s ≤ t) || decide (t ≤ s)) = true := by
    simpa only [Bool.or_eq_true, decide_eq_true_eq] using String.le_total
  exact (List.pairwise_mergeSort htrans htotal l).imp fun h => by simpa using h

theorem sort_of_pairwise {l : List String} (h : l.Pairwise (· ≤ ·)) : sort l = l :=
  List.mergeSort_of_pairwise (h.imp fun h => by simpa using h)

theorem pairwise_sortUnique (l : List String) : (sortUnique l).Pairwise (· < ·) := by
  have hn : (sortUnique l).Nodup := (List.mergeSort_perm _ _).nodup_iff.2 (nodup_eraseDups l)
  exact ((pairwise_sort _).and hn).imp fun h => Std.lt_of_le_of_ne h.1 h.2

theorem eraseDups_of_nodup {l : List String} (h : l.Nodup) : l.eraseDups = l := by
  induction l using List.reverseRecOn with
  | nil => rfl
  | append_singleton r a ih =>
    rw [List.nodup_append] at h
    have ha : a ∉ r := fun hr => h.2.2 a hr a (List.mem_singleton_self a) rfl
    rw [eraseDups_concat_of_notMem ha, ih h.1]

/-- **A list in strictly ascending order is left as it is.** -/
theorem sortUnique_of_pairwise {l : List String} (h : l.Pairwise (· < ·)) : sortUnique l = l := by
  rw [sortUnique, eraseDups_of_nodup (h.imp fun h => Std.ne_of_lt h),
    sort_of_pairwise (h.imp fun h => Std.le_of_lt h)]

end Text

end ContestExchange
