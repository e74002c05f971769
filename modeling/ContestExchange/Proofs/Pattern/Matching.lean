import ContestExchange.Pattern.Basic

/-!
# What a pattern reads

`Pattern.Reads` says of two positions of a text that a pattern reads what stands
between them.  `mem_ends_iff` is about the search: `Pattern.ends` finds the positions
that the pattern reads up to, all of them and no others.

The search breaks off repetitions.  It may, because a pattern never reads backward:
of more repetitions than the text has positions one reads nothing, so that it can be
left out (`Repeats.drop`) or done twice (`Repeats.pad`).
-/

namespace ContestExchange.Pattern

/-- `n` times in a row. -/
def Repeats (R : Nat → Nat → Prop) : (n : Nat) → Nat → Nat → Prop
  | 0, i, j => j = i
  | n + 1, i, j => ∃ k, R i k ∧ Repeats R n k j

/-- Whether a pattern reads the text from position `i` to position `j`. -/
def Reads (text : Array Char) : Pattern → Nat → Nat → Prop
  | empty, i, j => j = i
  | chars s, i, j => j = i + 1 ∧ ∃ c, text[i]? = some c ∧ s.contains c = true
  | anchor a, i, j => j = i ∧ a.holds (neighbours text i).1 (neighbours text i).2 = true
  | seq p q, i, j => ∃ k, p.Reads text i k ∧ q.Reads text k j
  | alt p q, i, j => p.Reads text i j ∨ q.Reads text i j
  | times p least most _, i, j =>
    ∃ more, (∀ m, most = some m → more ≤ m - least) ∧
      Repeats (p.Reads text) (least + more) i j
  | group _ p, i, j => p.Reads text i j

/-! ### Repetitions -/

variable {R : Nat → Nat → Prop} {size : Nat}

theorem repeats_add {m n i j : Nat} :
    Repeats R (m + n) i j ↔ ∃ k, Repeats R m i k ∧ Repeats R n k j := by
  induction m generalizing i with
  | zero => simp [Repeats]
  | succ m ih =>
    rw [Nat.succ_add]
    simp only [Repeats, ih]
    constructor
    · rintro ⟨k, hk, l, hl, hj⟩
      exact ⟨l, ⟨k, hk, hl⟩, hj⟩
    · rintro ⟨l, ⟨k, hk, hl⟩, hj⟩
      exact ⟨k, hk, l, hl, hj⟩

theorem repeats_one {i j : Nat} : Repeats R 1 i j ↔ R i j := by
  simp [Repeats]

/-- Within the text what is read is never read backward. -/
def Forward (size : Nat) (R : Nat → Nat → Prop) : Prop :=
  ∀ i j, i ≤ size → R i j → i ≤ j ∧ j ≤ size

theorem Forward.repeats (hR : Forward size R) (n : Nat) : Forward size (Repeats R n) := by
  induction n with
  | zero =>
    rintro i j hi rfl
    exact ⟨Nat.le_refl _, hi⟩
  | succ n ih =>
    rintro i j hi ⟨k, hk, hj⟩
    have hik := hR i k hi hk
    have hkj := ih k j hik.2 hj
    exact ⟨Nat.le_trans hik.1 hkj.1, hkj.2⟩

/-- Of more repetitions than characters one reads nothing and can be left out. -/
theorem Repeats.drop (hR : Forward size R) {n i j : Nat} (hi : i ≤ size) (hn : j - i ≤ n)
    (h : Repeats R (n + 1) i j) : Repeats R n i j := by
  induction n generalizing i with
  | zero =>
    have hij := hR.repeats 1 i j hi h
    exact (by omega : j = i)
  | succ n ih =>
    obtain ⟨k, hk, hj⟩ := h
    obtain ⟨hik, hks⟩ := hR i k hi hk
    rcases Nat.eq_or_lt_of_le hik with rfl | hlt
    · exact hj
    · exact ⟨k, hk, ih hks (by omega) hj⟩

/-- Of more repetitions than characters one reads nothing and can be done twice. -/
theorem Repeats.pad (hR : Forward size R) {n i j : Nat} (hi : i ≤ size) (hn : j - i < n)
    (h : Repeats R n i j) : Repeats R (n + 1) i j := by
  induction n generalizing i with
  | zero => omega
  | succ n ih =>
    obtain ⟨k, hk, hj⟩ := h
    obtain ⟨hik, hks⟩ := hR i k hi hk
    rcases Nat.eq_or_lt_of_le hik with rfl | hlt
    · exact ⟨i, hk, i, hk, hj⟩
    · have hkj := hR.repeats n k j hks hj
      exact ⟨k, hk, ih hks (by omega) hj⟩

/-- More repetitions than the text has positions lead no further, and no less far. -/
theorem repeats_min (hR : Forward size R) (n : Nat) {i j : Nat} (hi : i ≤ size) :
    Repeats R (min n (size + 1)) i j ↔ Repeats R n i j := by
  have hmore (m : Nat) : Repeats R (size + 1 + m) i j ↔ Repeats R (size + 1) i j := by
    induction m with
    | zero => rfl
    | succ m ih =>
      refine Iff.trans ⟨fun h => ?_, fun h => ?_⟩ ih
      · have hij := hR.repeats _ i j hi h
        exact Repeats.drop hR hi (n := size + 1 + m) (by omega) h
      · have hij := hR.repeats _ i j hi h
        exact Repeats.pad hR hi (n := size + 1 + m) (by omega) h
  rcases Nat.le_total n (size + 1) with h | h
  · rw [Nat.min_eq_left h]
  · rw [Nat.min_eq_right h]
    obtain ⟨m, rfl⟩ := Nat.exists_eq_add_of_le h
    exact (hmore m).symm

/-! ### The search -/

/-- `f` leads from a list of positions to those that `R` reads up to. -/
structure Follows (size : Nat) (f : List Nat → List Nat) (R : Nat → Nat → Prop) : Prop where
  forward : Forward size R
  mem_iff : ∀ is, (∀ i ∈ is, i ≤ size) → ∀ j, j ∈ f is ↔ ∃ i ∈ is, R i j

namespace Follows

variable {f : List Nat → List Nat}

theorem le_size (h : Follows size f R) {is : List Nat} (his : ∀ i ∈ is, i ≤ size) :
    ∀ j ∈ f is, j ≤ size := by
  intro j hj
  obtain ⟨i, hi, hij⟩ := (h.mem_iff is his j).1 hj
  exact (h.forward i j (his i hi) hij).2

theorem apply_nil (h : Follows size f R) : f [] = [] := by
  rw [List.eq_nil_iff_forall_not_mem]
  intro j hj
  obtain ⟨i, hi, -⟩ := (h.mem_iff [] (by simp) j).1 hj
  exact List.not_mem_nil hi

theorem rounds (h : Follows size f R) (n : Nat) : Follows size (rounds f n) (Repeats R n) where
  forward := h.forward.repeats n
  mem_iff is his j := by
    induction n generalizing is with
    | zero => simp [Pattern.rounds, Repeats]
    | succ n ih =>
      rw [rounds_succ, ih (f is) (h.le_size his)]
      simp only [h.mem_iff is his, Repeats]
      constructor
      · rintro ⟨k, ⟨i, hi, hk⟩, hj⟩
        exact ⟨i, hi, k, hk, hj⟩
      · rintro ⟨i, hi, k, hk, hj⟩
        exact ⟨k, ⟨i, hi, hk⟩, hj⟩

/-- With nothing fresh to start from nothing is found any more. -/
theorem closure_nil (h : Follows size f R) (known : List Nat) (n : Nat) (found : List Nat) :
    closure f known n found [] = found := by
  cases n with
  | zero => rfl
  | succ n => simp [closure, h.apply_nil]

theorem closure_succ (h : Follows size f R) (known : List Nat) (n : Nat) (found fresh : List Nat) :
    closure f known (n + 1) found fresh =
      closure f known n (((f fresh).filter fun i => !found.contains i) ++ found)
        (((f fresh).filter fun i => !found.contains i).filter fun i => !known.contains i) := by
  rw [closure]
  split
  · next hnone => rw [hnone, h.closure_nil]
  · next hsome => rw [hsome]

end Follows

/-- The position `j` is reached from a known one by `n` repetitions. -/
def Reached (R : Nat → Nat → Prop) (known : List Nat) (n j : Nat) : Prop :=
  ∃ i ∈ known, Repeats R n i j

theorem reached_zero {known : List Nat} {j : Nat} : Reached R known 0 j ↔ j ∈ known := by
  simp [Reached, Repeats]

theorem reached_succ {known : List Nat} {n j : Nat} :
    Reached R known (n + 1) j ↔ ∃ k, Reached R known n k ∧ R k j := by
  simp only [Reached, repeats_add, repeats_one]
  constructor
  · rintro ⟨i, hi, k, hk, hj⟩
    exact ⟨k, ⟨i, hi, hk⟩, hj⟩
  · rintro ⟨k, ⟨i, hi, hk⟩, hj⟩
    exact ⟨i, hi, k, hk, hj⟩

/-- The state of a closure after `n` rounds.  What is fresh is what `n` repetitions
reach and fewer do not, and what is found is what 1 to `n` repetitions reach, besides the
positions `base` that it began with. -/
structure Searched (R : Nat → Nat → Prop) (known base : List Nat) (n : Nat)
    (found fresh : List Nat) : Prop where
  mem_fresh : ∀ j, j ∈ fresh ↔ Reached R known n j ∧ ∀ m < n, ¬ Reached R known m j
  mem_found : ∀ j, j ∈ found ↔ j ∈ base ∨ ∃ m, 1 ≤ m ∧ m ≤ n ∧ Reached R known m j

namespace Searched

variable {f : List Nat → List Nat} {known base found fresh : List Nat} {n : Nat}

theorem start (R : Nat → Nat → Prop) (known base : List Nat) :
    Searched R known base 0 base known where
  mem_fresh j := by simp [reached_zero]
  mem_found j := by
    refine ⟨Or.inl, ?_⟩
    rintro (h | ⟨m, hlo, hhi, -⟩)
    · exact h
    · omega

/-- What one more repetition reaches was found before, or is reached from what is
fresh: a position reached earlier leads on to what was found already. -/
theorem reached_succ_iff (h : Searched R known base n found fresh) {j : Nat}
    (hj : j ∉ found) : Reached R known (n + 1) j ↔ ∃ k ∈ fresh, R k j := by
  rw [reached_succ]
  constructor
  · rintro ⟨k, hk, hkj⟩
    refine ⟨k, (h.mem_fresh k).2 ⟨hk, fun m hm hkm => hj ?_⟩, hkj⟩
    exact (h.mem_found j).2 (.inr ⟨m + 1, by omega, by omega, reached_succ.2 ⟨k, hkm, hkj⟩⟩)
  · rintro ⟨k, hk, hkj⟩
    exact ⟨k, ((h.mem_fresh k).1 hk).1, hkj⟩

theorem step (hf : Follows size f R) (hsize : ∀ i ∈ known, i ≤ size) (hbase : base ⊆ known)
    (h : Searched R known base n found fresh) :
    Searched R known base (n + 1) (((f fresh).filter fun i => !found.contains i) ++ found)
      (((f fresh).filter fun i => !found.contains i).filter fun i => !known.contains i) := by
  have hfresh : ∀ i ∈ fresh, i ≤ size := by
    intro j hj
    obtain ⟨i, hi, hij⟩ := ((h.mem_fresh j).1 hj).1
    exact (hf.forward.repeats n i j (hsize i hi) hij).2
  have hnew (j : Nat) : (j ∈ (f fresh).filter fun i => !found.contains i) ↔
      Reached R known (n + 1) j ∧ j ∉ found := by
    rw [List.mem_filter, hf.mem_iff fresh hfresh]
    simp only [Bool.not_eq_true', List.contains_eq_mem, decide_eq_false_iff_not]
    exact and_congr_left fun hj => (h.reached_succ_iff hj).symm
  constructor
  · intro j
    rw [List.mem_filter, hnew]
    simp only [Bool.not_eq_true', List.contains_eq_mem, decide_eq_false_iff_not]
    constructor
    · rintro ⟨⟨hreached, hfound⟩, hknown⟩
      refine ⟨hreached, fun m hm hearlier => ?_⟩
      cases m with
      | zero => exact hknown (reached_zero.1 hearlier)
      | succ m => exact hfound ((h.mem_found j).2 (.inr ⟨m + 1, by omega, by omega, hearlier⟩))
    · rintro ⟨hreached, hearlier⟩
      have hknown : j ∉ known := fun hj => hearlier 0 (by omega) (reached_zero.2 hj)
      refine ⟨⟨hreached, fun hfound => ?_⟩, hknown⟩
      rcases (h.mem_found j).1 hfound with hj | ⟨m, -, hm, hj⟩
      · exact hknown (hbase hj)
      · exact hearlier m (by omega) hj
  · intro j
    rw [List.mem_append, hnew]
    constructor
    · rintro (⟨hreached, -⟩ | hfound)
      · exact .inr ⟨n + 1, by omega, by omega, hreached⟩
      · exact ((h.mem_found j).1 hfound).imp_right fun ⟨m, hlo, hhi, hj⟩ => ⟨m, hlo, by omega, hj⟩
    · intro hj
      by_cases hfound : j ∈ found
      · exact .inr hfound
      · refine .inl ⟨?_, hfound⟩
        rcases hj with hj | ⟨m, hlo, hhi, hj⟩
        · exact absurd ((h.mem_found j).2 (.inl hj)) hfound
        · rcases Nat.eq_or_lt_of_le hhi with rfl | hlt
          · exact hj
          · exact absurd ((h.mem_found j).2 (.inr ⟨m, hlo, by omega, hj⟩)) hfound

theorem mem_closure_iff (hf : Follows size f R) (hsize : ∀ i ∈ known, i ≤ size)
    (hbase : base ⊆ known) (h : Searched R known base n found fresh) (rest : Nat) {j : Nat} :
    j ∈ closure f known rest found fresh ↔
      j ∈ base ∨ ∃ m, 1 ≤ m ∧ m ≤ n + rest ∧ Reached R known m j := by
  induction rest generalizing n found fresh with
  | zero => exact h.mem_found j
  | succ rest ih =>
    rw [hf.closure_succ, ih (h.step hf hsize hbase), Nat.add_right_comm, Nat.add_assoc]

end Searched

namespace Follows

variable {f : List Nat → List Nat} {starts : List Nat}

theorem mem_closure_most (h : Follows size f R) (hs : ∀ i ∈ starts, i ≤ size) (most : Nat)
    {j : Nat} : j ∈ closure f starts (min most (size + 1)) starts starts ↔
      ∃ i ∈ starts, ∃ n ≤ most, Repeats R n i j := by
  rw [(Searched.start R starts starts).mem_closure_iff h hs (List.Subset.refl _), Nat.zero_add]
  constructor
  · rintro (hj | ⟨n, -, hn, i, hi, hij⟩)
    · exact ⟨j, hj, 0, Nat.zero_le _, rfl⟩
    · exact ⟨i, hi, n, by omega, hij⟩
  · rintro ⟨i, hi, n, hn, hij⟩
    have hbounded := (repeats_min h.forward n (hs i hi)).2 hij
    rcases Nat.eq_zero_or_pos n with rfl | hpos
    · exact .inl (reached_zero.1 ⟨i, hi, hij⟩)
    · exact .inr ⟨min n (size + 1), by omega, by omega, i, hi, hbounded⟩

theorem mem_closure_any (h : Follows size f R) (hs : ∀ i ∈ starts, i ≤ size) {j : Nat} :
    j ∈ closure f starts (size + 1) starts starts ↔ ∃ i ∈ starts, ∃ n, Repeats R n i j := by
  have hmost := h.mem_closure_most hs (size + 1) (j := j)
  rw [Nat.min_self] at hmost
  rw [hmost]
  refine exists_congr fun i => and_congr_right fun hi => ?_
  constructor
  · rintro ⟨n, -, hij⟩
    exact ⟨n, hij⟩
  · rintro ⟨n, hij⟩
    exact ⟨min n (size + 1), by omega, (repeats_min h.forward n (hs i hi)).2 hij⟩

theorem mem_closure_filled (h : Follows size f R) (hs : ∀ i ∈ starts, i ≤ size) {j : Nat} :
    j ∈ closure f starts (size + 1 + 1) [] starts ↔
      ∃ i ∈ starts, ∃ n, Repeats R (n + 1) i j := by
  rw [(Searched.start R starts []).mem_closure_iff h hs (List.nil_subset _), Nat.zero_add]
  constructor
  · rintro (hj | ⟨n, hlo, -, i, hi, hij⟩)
    · cases hj
    · obtain ⟨n, rfl⟩ := Nat.exists_eq_add_of_le' hlo
      exact ⟨i, hi, n, hij⟩
  · rintro ⟨i, hi, n, hij⟩
    exact .inr ⟨min (n + 1) (size + 1), by omega, by omega, i, hi,
      (repeats_min h.forward _ (hs i hi)).2 hij⟩

/-- The positions that `least` repetitions reach, broken off. -/
theorem mem_rounds_min (h : Follows size f R) (hs : ∀ i ∈ starts, i ≤ size) (least : Nat)
    {j : Nat} : j ∈ Pattern.rounds f (min least (size + 1)) starts ↔
      ∃ i ∈ starts, Repeats R least i j := by
  rw [(h.rounds _).mem_iff starts hs]
  exact exists_congr fun i => and_congr_right fun hi => repeats_min h.forward least (hs i hi)

end Follows

/-! ### The search for a pattern -/

variable {text : Array Char}

theorem forward_reads (text : Array Char) (p : Pattern) : Forward text.size (p.Reads text) := by
  induction p with
  | empty =>
    rintro i j hi rfl
    exact ⟨Nat.le_refl _, hi⟩
  | chars s =>
    rintro i j - ⟨rfl, c, hc, -⟩
    obtain ⟨hlt, -⟩ := Array.getElem?_eq_some_iff.1 hc
    exact ⟨Nat.le_succ _, hlt⟩
  | anchor a =>
    rintro i j hi ⟨rfl, -⟩
    exact ⟨Nat.le_refl _, hi⟩
  | seq p q ihp ihq =>
    rintro i j hi ⟨k, hik, hkj⟩
    obtain ⟨hp, hk⟩ := ihp i k hi hik
    obtain ⟨hq, hj⟩ := ihq k j hk hkj
    exact ⟨Nat.le_trans hp hq, hj⟩
  | alt p q ihp ihq =>
    rintro i j hi (h | h)
    · exact ihp i j hi h
    · exact ihq i j hi h
  | times p least most greedy ih =>
    rintro i j hi ⟨more, -, h⟩
    exact ih.repeats _ i j hi h
  | group number p ih => exact ih

theorem mem_join {xs ys : List Nat} {j : Nat} : j ∈ join xs ys ↔ j ∈ xs ∨ j ∈ ys := by
  simp only [join, List.mem_append, List.mem_filter, Bool.not_eq_true', List.contains_eq_mem,
    decide_eq_false_iff_not]
  by_cases h : j ∈ xs <;> simp [h]

/-- A search for repetitions finds what they read up to. -/
theorem mem_ends_times {p : Pattern} (h : Follows text.size (p.ends text) (p.Reads text))
    (least : Nat) (most : Option Nat) (greedy : Bool) {starts : List Nat}
    (hs : ∀ i ∈ starts, i ≤ text.size) {j : Nat} :
    j ∈ (times p least most greedy).ends text starts ↔
      ∃ i ∈ starts, (times p least most greedy).Reads text i j := by
  have hrounds (n : Nat) : ∀ i ∈ rounds (p.ends text) (min n (text.size + 1)) starts,
      i ≤ text.size := (h.rounds _).le_size hs
  have hfrom (n : Nat) {P : Nat → Prop} :
      (∃ k ∈ rounds (p.ends text) (min n (text.size + 1)) starts, P k) ↔
        ∃ i ∈ starts, ∃ k, Repeats (p.Reads text) n i k ∧ P k := by
    simp only [h.mem_rounds_min hs]
    constructor
    · rintro ⟨k, ⟨i, hi, hk⟩, hp⟩
      exact ⟨i, hi, k, hk, hp⟩
    · rintro ⟨i, hi, k, hk, hp⟩
      exact ⟨k, ⟨i, hi, hk⟩, hp⟩
  cases most with
  | some m =>
    rw [ends, h.mem_closure_most (hrounds least), hfrom]
    refine exists_congr fun i => and_congr_right fun _ => ?_
    simp only [Reads, repeats_add, Option.some.injEq, forall_eq']
    constructor
    · rintro ⟨k, hk, more, hmore, hj⟩
      exact ⟨more, hmore, k, hk, hj⟩
    · rintro ⟨more, hmore, k, hk, hj⟩
      exact ⟨k, hk, more, hmore, hj⟩
  | none =>
    cases least with
    | zero =>
      rw [ends, h.mem_closure_any hs]
      simp [Reads]
    | succ n =>
      rw [ends, h.mem_closure_filled (hrounds n), hfrom]
      refine exists_congr fun i => and_congr_right fun _ => ?_
      simp only [Reads, Nat.add_right_comm n 1, Nat.add_assoc n, repeats_add (m := n)]
      constructor
      · rintro ⟨k, hk, more, hj⟩
        exact ⟨more, nofun, k, hk, hj⟩
      · rintro ⟨more, -, k, hk, hj⟩
        exact ⟨k, hk, more, hj⟩

theorem follows_ends (text : Array Char) (p : Pattern) :
    Follows text.size (p.ends text) (p.Reads text) := by
  refine ⟨forward_reads text p, ?_⟩
  induction p with
  | empty => simp [ends, Reads]
  | chars s =>
    intro is _ j
    simp only [ends, Reads, List.mem_map, List.mem_filter, Option.any_eq_true]
    constructor
    · rintro ⟨i, ⟨hi, hc⟩, rfl⟩
      exact ⟨i, hi, rfl, hc⟩
    · rintro ⟨i, hi, rfl, hc⟩
      exact ⟨i, ⟨hi, hc⟩, rfl⟩
  | anchor a =>
    intro is _ j
    simp only [ends, Reads, List.mem_filter]
    constructor
    · rintro ⟨hj, ha⟩
      exact ⟨j, hj, rfl, ha⟩
    · rintro ⟨i, hi, rfl, ha⟩
      exact ⟨hi, ha⟩
  | seq p q ihp ihq =>
    intro is his j
    have hp : Follows text.size (p.ends text) (p.Reads text) := ⟨forward_reads text p, ihp⟩
    rw [ends, ihq _ (hp.le_size his)]
    simp only [ihp is his, Reads]
    constructor
    · rintro ⟨k, ⟨i, hi, hk⟩, hj⟩
      exact ⟨i, hi, k, hk, hj⟩
    · rintro ⟨i, hi, k, hk, hj⟩
      exact ⟨k, ⟨i, hi, hk⟩, hj⟩
  | alt p q ihp ihq =>
    intro is his j
    rw [ends, mem_join, ihp is his, ihq is his]
    simp only [Reads, and_or_left, exists_or]
  | times p least most greedy ih =>
    exact fun is his j => mem_ends_times ⟨forward_reads text p, ih⟩ least most greedy his
  | group number p ih => exact ih

/-- **The search finds exactly the positions that the pattern reads up to.** -/
theorem mem_ends_iff (p : Pattern) {starts : List Nat} (hs : ∀ i ∈ starts, i ≤ text.size)
    {j : Nat} : j ∈ p.ends text starts ↔ ∃ i ∈ starts, p.Reads text i j :=
  (follows_ends text p).mem_iff starts hs j

theorem occursIn_iff {p : Pattern} {v : String} : p.occursIn v = true ↔
    ∃ i ≤ v.toList.length, ∃ j, p.Reads v.toList.toArray i j := by
  have hmem (j : Nat) :
      j ∈ p.ends v.toList.toArray (List.range (v.toList.length + 1)) ↔
        ∃ i ∈ List.range (v.toList.length + 1), p.Reads v.toList.toArray i j :=
    mem_ends_iff p fun i hi => Nat.le_of_lt_succ (List.mem_range.1 hi)
  rw [occursIn, Bool.not_eq_true', List.isEmpty_eq_false_iff_exists_mem]
  simp only [List.size_toArray, hmem, List.mem_range, Nat.lt_succ_iff]
  exact exists_comm.trans (exists_congr fun i => exists_and_left)

end ContestExchange.Pattern
