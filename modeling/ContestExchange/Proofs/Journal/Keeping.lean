import Mathlib.Algebra.Group.Nat.Defs
import ContestExchange.Journal.Replay
import ContestExchange.Proofs.Journal.Format

/-!
# What a journal keeps

A journal that can be read *keeps* a list of observations and the highest number
in use (`Journal.Keeps`): replaying it writes this list into a book and tells
this number (`Keeps.replay`).  Each operation of the sink has one law on what is
kept: `Keeps.append` for the observations that come next, `Keeps.writeSnapshot`
for a snapshot at the highest number, and `Keeps.compactThrough` for the rows
under such a snapshot.  The highest number by itself (`Journal.Tops`) obeys the same
laws, whether the journal can be read or not.

Numbers are compared as signed words, so all of this is about numbers below
2 ^ 63; up to there the two orders are the same.
-/

namespace ContestExchange

/-! ### Signed words -/

theorem toInt_toInt64 {n : UInt64} (h : n.toNat < 2 ^ 63) : n.toInt64.toInt = n.toNat := by
  rw [← Int64.toInt_toBitVec, UInt64.toBitVec_toInt64, BitVec.toInt_eq_toNat_of_lt]
  · rfl
  · show 2 * n.toNat < 2 ^ 64
    omega

theorem toNat_add_one {n : UInt64} (h : n.toNat + 1 < 2 ^ 64) : (n + 1).toNat = n.toNat + 1 := by
  rw [UInt64.toNat_add, UInt64.toNat_one]
  exact Nat.mod_eq_of_lt h

/-- Below 2 ^ 63 the next number is the next signed word too. -/
theorem toInt64_lt_add_one {n : UInt64} (h : n.toNat + 1 < 2 ^ 63) :
    n.toInt64 < (n + 1).toInt64 := by
  have hn : (n + 1).toNat = n.toNat + 1 := toNat_add_one (by omega)
  rw [Int64.lt_iff_toInt_lt, toInt_toInt64 (by omega), toInt_toInt64 (by omega), hn]
  omega

theorem toInt64_le_of_le {m n : UInt64} (h : m ≤ n) (hn : n.toNat < 2 ^ 63) :
    m.toInt64 ≤ n.toInt64 := by
  have hm : m.toNat ≤ n.toNat := UInt64.le_iff_toNat_le.1 h
  rw [Int64.le_iff_toInt_le, toInt_toInt64 (by omega), toInt_toInt64 hn]
  omega

/-- A signed word is at least 0 if it is a small number. -/
theorem zero_le_toInt64 {n : UInt64} (h : n.toNat < 2 ^ 63) : 0 ≤ n.toInt64 := by
  rw [Int64.le_iff_toInt_le, toInt_toInt64 h]
  exact Int.natCast_nonneg _

namespace Stored

/-! ### Observations in sequence -/

/-- The observations have the numbers that come after `n`, one by one. -/
def Follows : UInt64 → List Stored → Prop
  | _, [] => True
  | n, s :: r => s.seq = n + 1 ∧ Follows (n + 1) r

theorem add_length_nil (n : UInt64) : n + ([] : List Stored).length.toUInt64 = n :=
  UInt64.add_zero n

theorem add_length_append (n : UInt64) (l m : List Stored) :
    n + (l ++ m).length.toUInt64 = n + l.length.toUInt64 + m.length.toUInt64 := by
  rw [List.length_append, Nat.toUInt64, UInt64.ofNat_add, ← UInt64.add_assoc]

theorem add_length_cons (n : UInt64) (s : Stored) (r : List Stored) :
    n + (s :: r).length.toUInt64 = n + 1 + r.length.toUInt64 :=
  add_length_append n [s] r

/-- The last of the numbers, as long as they do not run out. -/
theorem toNat_add_length {n : UInt64} {l : List Stored} (h : n.toNat + l.length < 2 ^ 64) :
    (n + l.length.toUInt64).toNat = n.toNat + l.length := by
  have hlength : l.length < 2 ^ 64 := by omega
  rw [UInt64.toNat_add, Nat.toUInt64, UInt64.toNat_ofNat_of_lt' hlength, Nat.mod_eq_of_lt h]

theorem le_add_length {n : UInt64} {l : List Stored} (h : n.toNat + l.length < 2 ^ 64) :
    n ≤ n + l.length.toUInt64 := by
  rw [UInt64.le_iff_toNat_le, toNat_add_length h]
  exact Nat.le_add_right _ _

theorem follows_append (n : UInt64) (l m : List Stored) :
    Follows n (l ++ m) ↔ Follows n l ∧ Follows (n + l.length.toUInt64) m := by
  induction l generalizing n with
  | nil =>
    rw [List.nil_append, add_length_nil]
    exact (and_iff_right trivial).symm
  | cons s r ih =>
    rw [List.cons_append, add_length_cons]
    simp only [Follows, ih, and_assoc]

end Stored

namespace Journal

/-! ### The highest number -/

theorem larger_mem (a b : Int64) : larger a b = a ∨ larger a b = b := by
  rw [larger]
  split
  · exact .inr rfl
  · exact .inl rfl

theorem le_larger_left (a b : Int64) : a ≤ larger a b := by
  rw [larger]
  split
  · assumption
  · exact Int64.le_refl a

theorem le_larger_right (a b : Int64) : b ≤ larger a b := by
  rw [larger]
  split
  · exact Int64.le_refl b
  · rename_i h
    exact (Int64.le_total a b).resolve_left h

theorem le_foldl_larger (n : Int64) (l : List Int64) : ∀ m ∈ n :: l, m ≤ l.foldl larger n := by
  induction l generalizing n with
  | nil =>
    intro m hm
    rw [List.mem_singleton.1 hm]
    exact Int64.le_refl n
  | cons k r ih =>
    intro m hm
    have hfirst := ih (larger n k) (larger n k) List.mem_cons_self
    rcases List.mem_cons.1 hm with rfl | hm
    · exact Int64.le_trans (le_larger_left m k) hfirst
    · rcases List.mem_cons.1 hm with rfl | hm
      · exact Int64.le_trans (le_larger_right n m) hfirst
      · exact ih (larger n k) m (List.mem_cons_of_mem _ hm)

theorem foldl_larger_mem (n : Int64) (l : List Int64) : l.foldl larger n ∈ n :: l := by
  induction l generalizing n with
  | nil => exact List.mem_cons_self
  | cons k r ih =>
    rw [List.foldl_cons]
    rcases List.mem_cons.1 (ih (larger n k)) with h | h
    · rw [h]
      rcases larger_mem n k with he | he <;> simp [he]
    · exact List.mem_cons_of_mem n (List.mem_cons_of_mem k h)

theorem le_largest {l : List Int64} {m : Int64} (h : m ∈ l) : m ≤ largest l := by
  cases l with
  | nil => cases h
  | cons n r => exact le_foldl_larger n r m h

theorem largest_le {l : List Int64} {m : Int64} (h0 : 0 ≤ m) (h : ∀ k ∈ l, k ≤ m) :
    largest l ≤ m := by
  cases l with
  | nil => exact h0
  | cons n r => exact h _ (foldl_larger_mem n r)

theorem larger_le {a b m : Int64} (ha : a ≤ m) (hb : b ≤ m) : larger a b ≤ m := by
  rcases larger_mem a b with h | h <;> rw [h] <;> assumption

theorem key_le_latestSeq (j : Journal) {k : Int64} (h : k ∈ j.rows.keys) :
    k ≤ j.latestSeq.toInt64 := by
  rw [latestSeq, Int64.toInt64_toUInt64]
  exact Int64.le_trans (le_largest h) (le_larger_left _ _)

theorem lastSeq_le_latestSeq (j : Journal) {r : SnapshotRow} (h : r ∈ j.snapshots) :
    r.lastSeq ≤ j.latestSeq.toInt64 := by
  rw [latestSeq, Int64.toInt64_toUInt64]
  exact Int64.le_trans (le_largest (List.mem_map.2 ⟨r, h, rfl⟩)) (le_larger_right _ _)

/-- What is in use and not below anything else is the highest number. -/
theorem latestSeq_eq {j : Journal} {n : UInt64} (hn : n.toNat < 2 ^ 63)
    (hk : ∀ k ∈ j.rows.keys, k ≤ n.toInt64) (hs : ∀ r ∈ j.snapshots, r.lastSeq ≤ n.toInt64)
    (h : n.toInt64 ∈ j.rows.keys ∨ n.toInt64 ∈ j.snapshots.map SnapshotRow.lastSeq) :
    j.latestSeq = n := by
  have h0 := zero_le_toInt64 hn
  have hsnap : ∀ k ∈ j.snapshots.map SnapshotRow.lastSeq, k ≤ n.toInt64 := by
    intro k hk
    obtain ⟨r, hr, rfl⟩ := List.mem_map.1 hk
    exact hs r hr
  have hle : larger (largest j.rows.keys) (largest (j.snapshots.map SnapshotRow.lastSeq)) ≤
      n.toInt64 := larger_le (largest_le h0 hk) (largest_le h0 hsnap)
  have hge : n.toInt64 ≤
      larger (largest j.rows.keys) (largest (j.snapshots.map SnapshotRow.lastSeq)) := by
    rcases h with h | h
    · exact Int64.le_trans (le_largest h) (le_larger_left _ _)
    · exact Int64.le_trans (le_largest h) (le_larger_right _ _)
  rw [latestSeq, Int64.le_antisymm hle hge, UInt64.toUInt64_toInt64]

/-! ### Rows in order -/

theorem eq_of_key_eq (j : Journal) {a b : Int64 × Row} (ha : a ∈ j.rows.entries)
    (hb : b ∈ j.rows.entries) (h : a.1 = b.1) : a = b := by
  obtain ⟨k, r⟩ := a
  obtain ⟨k', r'⟩ := b
  subst h
  rw [Dictionary.mem_entries_iff] at ha hb
  rw [Option.some.inj (ha.symm.trans hb)]

theorem mem_rowsAfter {j : Journal} {seq : Int64} {e : Int64 × Row} :
    e ∈ j.rowsAfter seq ↔ e ∈ j.rows.entries ∧ seq < e.1 := by
  rw [rowsAfter, List.mem_mergeSort, List.mem_filter, decide_eq_true_iff]

theorem perm_rowsAfter (j : Journal) (seq : Int64) :
    (j.rowsAfter seq).Perm (j.rows.entries.filter fun e => decide (seq < e.1)) :=
  List.mergeSort_perm _ _

theorem pairwise_rowsAfter (j : Journal) (seq : Int64) :
    (j.rowsAfter seq).Pairwise fun a b => a.1 ≤ b.1 := by
  have htrans : ∀ a b c : Int64 × Row, decide (a.1 ≤ b.1) = true → decide (b.1 ≤ c.1) = true →
      decide (a.1 ≤ c.1) = true := by
    intro a b c hab hbc
    rw [decide_eq_true_iff] at *
    exact Int64.le_trans hab hbc
  have htotal : ∀ a b : Int64 × Row, (decide (a.1 ≤ b.1) || decide (b.1 ≤ a.1)) = true := by
    intro a b
    rw [Bool.or_eq_true, decide_eq_true_iff, decide_eq_true_iff]
    exact Int64.le_total a.1 b.1
  have h := List.pairwise_mergeSort htrans htotal (j.rows.entries.filter fun e => decide (seq < e.1))
  exact h.imp fun hab => decide_eq_true_iff.1 hab

/-- The rows after a number have only one order. -/
theorem rowsAfter_eq {j : Journal} {seq : Int64} {l : List (Int64 × Row)}
    (hp : l.Perm (j.rows.entries.filter fun e => decide (seq < e.1)))
    (hs : l.Pairwise fun a b => a.1 ≤ b.1) : j.rowsAfter seq = l := by
  refine ((j.perm_rowsAfter seq).trans hp.symm).eq_of_pairwise (fun a b ha hb hab hba => ?_)
    (j.pairwise_rowsAfter seq) hs
  exact j.eq_of_key_eq (mem_rowsAfter.1 ha).1 (List.mem_filter.1 (hp.mem_iff.1 hb)).1
    (Int64.le_antisymm hab hba)

/-- A row with the highest number of all comes last. -/
theorem rowsAfter_put {j : Journal} {k seq : Int64} (hk : ∀ i ∈ j.rows.keys, i < k) (hs : seq < k)
    (r : Row) :
    Journal.rowsAfter { j with rows := j.rows.put k r } seq = j.rowsAfter seq ++ [(k, r)] := by
  have hnew : k ∉ j.rows.keys := fun h => Int64.lt_irrefl (hk k h)
  apply rowsAfter_eq
  · show ((j.rowsAfter seq) ++ [(k, r)]).Perm ((j.rows.put k r).entries.filter _)
    rw [Dictionary.entries_put_of_notMem r hnew, List.filter_append]
    have hf : [(k, r)].filter (fun e => decide (seq < e.1)) = [(k, r)] := by simp [hs]
    rw [hf]
    exact (j.perm_rowsAfter seq).append (.refl _)
  · rw [List.pairwise_append]
    refine ⟨j.pairwise_rowsAfter seq, List.pairwise_singleton _ _, fun a ha b hb => ?_⟩
    rw [List.mem_singleton.1 hb]
    exact Int64.le_of_lt (hk a.1 (List.mem_map.2 ⟨a, (mem_rowsAfter.1 ha).1, rfl⟩))

theorem rowsAfter_eq_nil {j : Journal} {seq : Int64} (h : ∀ k ∈ j.rows.keys, k ≤ seq) :
    j.rowsAfter seq = [] := by
  refine List.eq_nil_iff_forall_not_mem.2 fun e he => ?_
  obtain ⟨hmem, hlt⟩ := mem_rowsAfter.1 he
  exact Int64.not_le.2 hlt (h e.1 (List.mem_map.2 ⟨e, hmem, rfl⟩))

/-- Dropping rows up to a number leaves the rows after it. -/
theorem rowsAfter_compactThrough (j : Journal) (seq : UInt64) :
    (j.compactThrough seq).1.rowsAfter seq.toInt64 = j.rowsAfter seq.toInt64 := by
  rw [rowsAfter, rowsAfter, compactThrough]
  simp [Dictionary.restrict, List.filter_filter]

/-! ### What is kept -/

/-- The highest number in use is `n`, and it is a small one. -/
structure Tops (j : Journal) (n : UInt64) : Prop where
  latest : j.latestSeq = n
  small : n.toNat < 2 ^ 63

namespace Tops

variable {j : Journal} {n : UInt64}

theorem key_le (h : j.Tops n) {k : Int64} (hk : k ∈ j.rows.keys) : k ≤ n.toInt64 := by
  rw [← h.latest]
  exact j.key_le_latestSeq hk

theorem lastSeq_le (h : j.Tops n) {r : SnapshotRow} (hr : r ∈ j.snapshots) :
    r.lastSeq ≤ n.toInt64 := by
  rw [← h.latest]
  exact j.lastSeq_le_latestSeq hr

theorem key_lt (h : j.Tops n) (hn : n.toNat + 1 < 2 ^ 63) {k : Int64} (hk : k ∈ j.rows.keys) :
    k < (n + 1).toInt64 :=
  Int64.lt_of_le_of_lt (h.key_le hk) (toInt64_lt_add_one hn)

end Tops

/-- What a replay starts from: the newest snapshot, or an empty one if there is none. -/
def newest (j : Journal) : Except JournalError Snapshot :=
  j.latestSnapshot?.map (·.getD ⟨0, []⟩)

/-- The number that a replay reads off a snapshot and the observations after it. -/
def lastOf (s : Snapshot) (tail : List Stored) : UInt64 :=
  (tail.getLast?.map Stored.seq).getD s.lastSeq

theorem replay_of_newest {j : Journal} {s : Snapshot} (hs : j.newest = .ok s) (b : Book) :
    j.replay b = match j.loadAfter s.lastSeq with
      | .error e => (b.restore s.observations, .error e)
      | .ok tail => (b.restore (s.observations ++ tail.map Stored.observation),
          .ok (if lastOf s tail ≤ j.latestSeq then j.latestSeq else lastOf s tail)) := by
  rw [newest] at hs
  cases hl : j.latestSnapshot? with
  | error e => rw [hl] at hs; cases hs
  | ok s? =>
    rw [hl] at hs
    obtain rfl : s?.getD ⟨0, []⟩ = s := Except.ok.inj hs
    rw [replay, hl]
    cases ht : j.loadAfter (s?.getD ⟨0, []⟩).lastSeq with
    | error e => simp only [ht]
    | ok tail =>
      simp only [ht]
      rw [Book.restore_append]
      rfl

theorem replay_eq {j : Journal} {s : Snapshot} {tail : List Stored} (hs : j.newest = .ok s)
    (ht : j.loadAfter s.lastSeq = .ok tail) (b : Book) :
    j.replay b = (b.restore (s.observations ++ tail.map Stored.observation),
      .ok (if lastOf s tail ≤ j.latestSeq then j.latestSeq else lastOf s tail)) := by
  rw [replay_of_newest hs, ht]

theorem exists_of_replay {j : Journal} {b : Book} {n : UInt64} (h : (j.replay b).2 = .ok n) :
    ∃ s tail, j.newest = .ok s ∧ j.loadAfter s.lastSeq = .ok tail := by
  rw [replay] at h
  cases hl : j.latestSnapshot? with
  | error e => rw [hl] at h; cases h
  | ok s? =>
    rw [hl] at h
    cases ht : j.loadAfter (s?.getD ⟨0, []⟩).lastSeq with
    | error e => simp only [ht] at h; cases h
    | ok tail => exact ⟨_, tail, by rw [newest, hl]; rfl, ht⟩

/-- The journal can be read, has `l` to write into a book, and `n` is the highest number
in use. -/
structure Keeps (j : Journal) (l : List Observation) (n : UInt64) : Prop where
  readable : ∃ s tail, j.newest = .ok s ∧ j.loadAfter s.lastSeq = .ok tail ∧
    s.observations ++ tail.map Stored.observation = l ∧
    s.lastSeq.toInt64 ≤ n.toInt64 ∧ lastOf s tail ≤ n
  latest : j.latestSeq = n
  small : n.toNat < 2 ^ 63

namespace Keeps

variable {j : Journal} {l : List Observation} {n : UInt64}

/-- **What is kept is what a replay brings back.** -/
theorem replay (h : j.Keeps l n) (b : Book) : j.replay b = (b.restore l, .ok n) := by
  obtain ⟨s, tail, hs, ht, hl, -, hlast⟩ := h.readable
  rw [replay_eq hs ht, h.latest, hl, if_pos hlast]

theorem tops (h : j.Keeps l n) : j.Tops n :=
  ⟨h.latest, h.small⟩

end Keeps

/-- A journal that can be replayed up to its highest number keeps something. -/
theorem exists_keeps {j : Journal} {b : Book} (h : (j.replay b).2 = .ok j.latestSeq)
    (hsmall : j.latestSeq.toNat < 2 ^ 63) : ∃ l, j.Keeps l j.latestSeq := by
  obtain ⟨s, tail, hs, ht⟩ := exists_of_replay h
  rw [replay_eq hs ht] at h
  have hlast : lastOf s tail ≤ j.latestSeq := by
    have he := Except.ok.inj h
    split at he
    · assumption
    · rw [he]; exact UInt64.le_refl _
  refine ⟨_, ⟨s, tail, hs, ht, rfl, ?_, hlast⟩, rfl, hsmall⟩
  cases hrows : j.rowsAfter s.lastSeq.toInt64 with
  | nil =>
    rw [loadAfter, hrows] at ht
    obtain rfl : [] = tail := Except.ok.inj ht
    exact toInt64_le_of_le hlast hsmall
  | cons e r =>
    have he := mem_rowsAfter.1 (hrows ▸ List.mem_cons_self : e ∈ j.rowsAfter s.lastSeq.toInt64)
    exact Int64.le_trans (Int64.le_of_lt he.2)
      (j.key_le_latestSeq (List.mem_map.2 ⟨e, he.1, rfl⟩))

/-! ### Operations -/

/-- The journal with the row of an observation. -/
def putRow (j : Journal) (s : Stored) : Journal :=
  { j with rows := j.rows.put s.seq.toInt64 ⟨s.time.toInt64, (Envelope.of s).encode⟩ }

theorem insert_of_notMem {j : Journal} {s : Stored} (h : s.seq.toInt64 ∉ j.rows.keys) :
    j.insert s = .ok (j.putRow s) := by
  have hc : j.rows.contains s.seq.toInt64 = false := by
    rw [Dictionary.contains, ← Bool.not_eq_true, ← Dictionary.mem_keys_iff]
    exact h
  rw [Journal.insert, insertRow, hc]; rfl

theorem loadAfter_insert {j : Journal} {s : Stored} {seq : UInt64} {tail : List Stored}
    (hk : ∀ k ∈ j.rows.keys, k < s.seq.toInt64) (hs : seq.toInt64 < s.seq.toInt64)
    (ht : j.loadAfter seq = .ok tail) :
    (j.putRow s).loadAfter seq = .ok (tail ++ [s]) := by
  rw [loadAfter] at ht
  rw [loadAfter, putRow, rowsAfter_put hk hs, List.mapM_append, ht]
  simp only [List.mapM_cons, List.mapM_nil, readRow_of]
  rfl

namespace Tops

variable {j : Journal} {n : UInt64}

/-- **An observation with the next number is always taken**, since no row has its number. -/
theorem insert (h : j.Tops n) {s : Stored} (hs : s.seq = n + 1) (hn : n.toNat + 1 < 2 ^ 63) :
    j.insert s = .ok (j.putRow s) ∧ (j.putRow s).Tops s.seq := by
  have hk : ∀ k ∈ j.rows.keys, k < s.seq.toInt64 := fun k hk => hs ▸ h.key_lt hn hk
  have hfresh : s.seq.toInt64 ∉ j.rows.keys := fun hm => Int64.lt_irrefl (hk _ hm)
  have hsmall : s.seq.toNat < 2 ^ 63 := by rw [hs, toNat_add_one (by omega)]; exact hn
  have hlt : n.toInt64 < s.seq.toInt64 := hs ▸ toInt64_lt_add_one hn
  have hkeys : (j.putRow s).rows.keys = j.rows.keys ++ [s.seq.toInt64] := by
    rw [putRow, Dictionary.keys_put, if_neg hfresh]
  refine ⟨insert_of_notMem hfresh, latestSeq_eq hsmall (fun k hk' => ?_)
    (fun r hr => Int64.le_trans (h.lastSeq_le hr) (Int64.le_of_lt hlt)) (.inl ?_), hsmall⟩
  · rw [hkeys, List.mem_append] at hk'
    rcases hk' with hk' | hk'
    · exact Int64.le_of_lt (hk k hk')
    · rw [List.mem_singleton.1 hk']
      exact Int64.le_refl _
  · rw [hkeys]
    exact List.mem_append_right _ (List.mem_singleton_self _)

theorem writeSnapshot {s : Snapshot} (h : j.Tops s.lastSeq) :
    (j.writeSnapshot s).Tops s.lastSeq := by
  refine ⟨latestSeq_eq h.small (fun k hk => h.key_le hk) (fun r hr => ?_) (.inr ?_), h.small⟩
  · rcases List.mem_cons.1 hr with rfl | hr
    · exact Int64.le_refl _
    · exact h.lastSeq_le hr
  · exact List.mem_cons_self

/-- **Rows can be dropped without a loss of the highest number**, if a snapshot has it. -/
theorem compactThrough (h : j.Tops n) (hn : n.toInt64 ∈ j.snapshots.map SnapshotRow.lastSeq)
    (seq : UInt64) : (j.compactThrough seq).1.Tops n := by
  refine ⟨latestSeq_eq h.small (fun k hk => ?_) (fun r hr => h.lastSeq_le hr) (.inr hn), h.small⟩
  obtain ⟨e, he, rfl⟩ := List.mem_map.1 hk
  exact h.key_le (List.mem_map.2 ⟨e, (List.mem_filter.1 he).1, rfl⟩)

end Tops

/-- What holds of the observations so far, the highest number and the journal goes on to hold when
the observations that come next are handed over, if it goes on from one to the next. -/
theorem append_of_insert {P : List Observation → UInt64 → Journal → Prop}
    (hP : ∀ l n j s, P l n j → s.seq = n + 1 → n.toNat + 1 < 2 ^ 63 →
      ∃ j', j.insert s = .ok j' ∧ P (l ++ [s.observation]) s.seq j')
    {l : List Observation} {n : UInt64} {j : Journal} (h : P l n j) {batch : List Stored}
    (hf : Stored.Follows n batch) (hn : n.toNat + batch.length < 2 ^ 63) :
    ∃ r, j.append batch = .ok r ∧
      P (l ++ batch.map Stored.observation) (n + batch.length.toUInt64) r.1 := by
  have hall : ∃ j', batch.foldlM Journal.insert j = .ok j' ∧
      P (l ++ batch.map Stored.observation) (n + batch.length.toUInt64) j' := by
    induction batch generalizing l n j with
    | nil =>
      refine ⟨j, rfl, ?_⟩
      rw [Stored.add_length_nil, List.map_nil, List.append_nil]
      exact h
    | cons s r ih =>
      rw [List.length_cons] at hn
      obtain ⟨j₁, hj₁, h₁⟩ := hP l n j s h hf.1 (by omega)
      rw [hf.1] at h₁
      have hn₁ : (n + 1).toNat + r.length < 2 ^ 63 := by
        rw [toNat_add_one (by omega)]; omega
      obtain ⟨j₂, hj₂, h₂⟩ := ih h₁ hf.2 hn₁
      refine ⟨j₂, ?_, ?_⟩
      · rw [List.foldlM_cons, hj₁]
        exact hj₂
      · rw [Stored.add_length_cons, List.map_cons]
        rw [List.append_assoc] at h₂
        exact h₂
  obtain ⟨j', hj', h'⟩ := hall
  rw [Journal.append]
  cases hb : batch.getLast? with
  | none =>
    obtain rfl : batch = [] := List.getLast?_eq_none_iff.1 hb
    obtain rfl : j = j' := Except.ok.inj hj'
    exact ⟨_, rfl, h'⟩
  | some s =>
    refine ⟨(j', s.seq), ?_, h'⟩
    simp only [hj']
    rfl

/-- **The observations that come next are taken**, and the last of them has the highest number. -/
theorem Tops.append {j : Journal} {n : UInt64} (h : j.Tops n) {batch : List Stored}
    (hf : Stored.Follows n batch) (hn : n.toNat + batch.length < 2 ^ 63) :
    ∃ r, j.append batch = .ok r ∧ r.1.Tops (n + batch.length.toUInt64) := by
  refine append_of_insert (P := fun _ n j => j.Tops n) ?_ (l := []) h hf hn
  intro _ n j s h hs hn
  exact ⟨_, h.insert hs hn⟩

namespace Keeps

variable {j : Journal} {l : List Observation} {n : UInt64}

theorem insert (h : j.Keeps l n) {s : Stored} (hs : s.seq = n + 1) (hn : n.toNat + 1 < 2 ^ 63) :
    ∃ j', j.insert s = .ok j' ∧ j'.Keeps (l ++ [s.observation]) s.seq := by
  obtain ⟨t, tail, hnew, ht, hl, hle, hlast⟩ := h.readable
  obtain ⟨hinsert, htops⟩ := h.tops.insert hs hn
  have hlt : t.lastSeq.toInt64 < s.seq.toInt64 :=
    Int64.lt_of_le_of_lt hle (hs ▸ toInt64_lt_add_one hn)
  refine ⟨j.putRow s, hinsert, ⟨t, tail ++ [s], hnew, ?_, ?_, ?_, ?_⟩, htops.latest, htops.small⟩
  · exact loadAfter_insert (fun k hk => hs ▸ h.tops.key_lt hn hk) hlt ht
  · rw [List.map_append, ← List.append_assoc, hl]; rfl
  · exact Int64.le_of_lt hlt
  · rw [lastOf, List.getLast?_concat]
    exact UInt64.le_refl _

/-- **The observations that come next are kept.** -/
theorem append (h : j.Keeps l n) {batch : List Stored} (hf : Stored.Follows n batch)
    (hn : n.toNat + batch.length < 2 ^ 63) :
    ∃ r, j.append batch = .ok r ∧
      r.1.Keeps (l ++ batch.map Stored.observation) (n + batch.length.toUInt64) :=
  append_of_insert (P := fun l n j => j.Keeps l n) (fun _ _ _ _ h => h.insert) h hf hn

/-- **A snapshot at the highest number takes the place of all that was kept.** -/
theorem writeSnapshot {s : Snapshot} (h : j.Keeps l s.lastSeq) :
    (j.writeSnapshot s).Keeps s.observations s.lastSeq := by
  have hnil : j.rowsAfter s.lastSeq.toInt64 = [] := rowsAfter_eq_nil fun k hk => h.tops.key_le hk
  refine ⟨⟨s, [], ?_, ?_, ?_, Int64.le_refl _, UInt64.le_refl _⟩, h.tops.writeSnapshot.latest,
    h.small⟩
  · rw [newest, latestSnapshot?_writeSnapshot]; rfl
  · rw [loadAfter]
    show (j.rowsAfter s.lastSeq.toInt64).mapM readRow = .ok []
    rw [hnil]; rfl
  · rw [List.map_nil, List.append_nil]

/-- **The rows under the newest snapshot are not needed.** -/
theorem compactThrough {s : Snapshot} (h : (j.writeSnapshot s).Keeps l s.lastSeq) :
    ((j.writeSnapshot s).compactThrough s.lastSeq).1.Keeps l s.lastSeq := by
  obtain ⟨t, tail, hnew, ht, hl, hle, hlast⟩ := h.readable
  have hts : t = s := by
    rw [newest, latestSnapshot?_writeSnapshot] at hnew
    exact (Except.ok.inj hnew).symm
  subst hts
  have htops := h.tops.compactThrough List.mem_cons_self t.lastSeq
  refine ⟨⟨t, tail, hnew, ?_, hl, hle, hlast⟩, htops.latest, h.small⟩
  rw [loadAfter, rowsAfter_compactThrough]
  exact ht

end Keeps

end Journal

end ContestExchange
