import ContestExchange.Proofs.Guess.Restoring
import ContestExchange.Proofs.Journal.Replaying

/-!
# Checkpoints

A checkpoint writes a snapshot of all that a replay brings back, up to the highest number in
use, and drops rows that the snapshot covers, all of them or some.  What a replay brings back
is then the same, and stays the same whatever is appended afterwards
(`Written.checkpoint_invisible`).

The two journals go on differing: one has an older snapshot or none, and rows that the other
has dropped.  They agree on the rows that no snapshot covers, and a number that is appended
later is always of those: it is above the snapshot, or too large for a signed word, and then
it is negative (`neg_or_lt_of_lt`).  So every batch is taken by both or by none
(`Parallel.append`), and a replay of either writes the rows above the snapshot over the same
book.
-/

namespace ContestExchange.Journal

variable {j q q' : Journal} {s s₀ : Snapshot} {batch : List Stored}

/-! ### Numbers -/

theorem neg_or_lt_of_lt {n k : UInt64} (hn : n.toNat < 2 ^ 63) (h : n < k) :
    k.toInt64 < 0 ∨ n.toInt64 < k.toInt64 := by
  by_cases hneg : k.toInt64 < 0
  · exact .inl hneg
  · have hk : k.toNat < 2 ^ 63 := toNat_lt_of_zero_le (Int64.not_lt.1 hneg)
    have hlt : n.toNat < k.toNat := UInt64.lt_iff_toNat_lt.1 h
    refine .inr ?_
    rw [Int64.lt_iff_toInt_lt, toInt_toInt64 hn, toInt_toInt64 hk]
    omega

/-- What bounds the highest number, if no snapshot covers a negative one. -/
theorem latestSeq_le_iff (h : ∀ r ∈ j.snapshots, 0 ≤ r.lastSeq) {x : Int64} :
    j.latestSeq.toInt64 ≤ x ↔
      0 ≤ x ∧ (∀ k ∈ j.rows.keys, k ≤ x) ∧ ∀ r ∈ j.snapshots, r.lastSeq ≤ x := by
  constructor
  · intro hx
    have h0 : 0 ≤ largest (j.snapshots.map SnapshotRow.lastSeq) := by
      apply zero_le_largest
      intro k hk
      obtain ⟨r, hr, rfl⟩ := List.mem_map.1 hk
      exact h r hr
    refine ⟨?_, fun k hk => Int64.le_trans (j.key_le_latestSeq hk) hx,
      fun r hr => Int64.le_trans (j.lastSeq_le_latestSeq hr) hx⟩
    rw [latestSeq, Int64.toInt64_toUInt64] at hx
    exact Int64.le_trans h0 (Int64.le_trans (le_larger_right _ _) hx)
  · rintro ⟨h0, hrows, hsnap⟩
    rw [latestSeq, Int64.toInt64_toUInt64]
    refine larger_le (largest_le h0 hrows) (largest_le h0 fun k hk => ?_)
    obtain ⟨r, hr, rfl⟩ := List.mem_map.1 hk
    exact hsnap r hr

theorem Sound.get?_of_neg (h : j.Sound) {k : Int64} (hk : k < 0) : j.rows.get? k = none := by
  cases hr : j.rows.get? k with
  | none => rfl
  | some r =>
    obtain ⟨t, ht, he⟩ := h.row _ ((Dictionary.mem_entries_iff _ _ _).2 hr)
    obtain rfl : k = t.seq.toInt64 := congrArg Prod.fst he
    exact absurd (zero_le_toInt64 ht) (Int64.not_le.2 hk)

theorem newest_congr (h : q.snapshots = j.snapshots) : q.newest = j.newest := by
  rw [newest, newest, latestSnapshot?, latestSnapshot?, h]

theorem Legible.putRow (h : j.Legible) {t : Stored} (ht : t.seq.toInt64 ∉ j.rows.keys) :
    (j.putRow t).Legible := by
  refine ⟨fun e he => ?_, h.snapshot⟩
  rcases (mem_entries_putRow ht).1 he with he | he
  · exact h.row e he
  · exact ⟨t, he⟩

/-! ### A journal and its checkpoint -/

/-- The journals `q` and `q'` have come of `j` and of a checkpoint of `j` with the snapshot `s`:
each still has its snapshots, the rows of `q` that `s` covers are those of `j`, and both have
the same rows beside them. -/
structure Parallel (j : Journal) (s : Snapshot) (q q' : Journal) : Prop where
  legible : q.Legible
  legible' : q'.Legible
  snapshots : q.snapshots = j.snapshots
  snapshots' : q'.snapshots = ⟨s.lastSeq.toInt64, s.encode⟩ :: j.snapshots
  covered : ∀ k, 0 ≤ k → k ≤ s.lastSeq.toInt64 → q.rows.get? k = j.rows.get? k
  uncovered : ∀ k, k < 0 ∨ s.lastSeq.toInt64 < k → q'.rows.get? k = q.rows.get? k

/-- **A checkpoint stands beside the journal that it was made of**, however many of the rows that
the snapshot covers are dropped. -/
theorem Sound.parallel (h : j.Sound) (hs : s.lastSeq.toNat < 2 ^ 63) {m : UInt64}
    (hm : m ≤ s.lastSeq) : Parallel j s j ((j.writeSnapshot s).compactThrough m).1 := by
  refine ⟨h.legible, ⟨fun e he => ?_, fun r hr => ?_⟩, rfl, rfl, fun _ _ _ => rfl, fun k hk => ?_⟩
  · exact h.legible.row e (List.mem_filter.1 he).1
  · rcases List.mem_cons.1 hr with rfl | hr
    · exact ⟨s, hs, rfl⟩
    · exact h.snapshot r hr
  · show (j.rows.restrict _).get? k = j.rows.get? k
    rw [Dictionary.get?_restrict]
    rcases hk with hk | hk
    · rw [h.get?_of_neg hk, ite_self]
    · have hlt : m.toInt64 < k := Int64.lt_of_le_of_lt (toInt64_le_of_le hm hs) hk
      rw [if_pos (decide_eq_true hlt)]

namespace Parallel

theorem small (h : Parallel j s q q') : s.lastSeq.toNat < 2 ^ 63 := by
  have hmem : (⟨s.lastSeq.toInt64, s.encode⟩ : SnapshotRow) ∈ q'.snapshots := by
    rw [h.snapshots']
    exact List.mem_cons_self
  have h0 := h.legible'.zero_le_lastSeq hmem
  exact toNat_lt_of_zero_le h0

/-! ### Appending to both -/

theorem mem_keys_iff (h : Parallel j s q q') {k : Int64} (hk : k < 0 ∨ s.lastSeq.toInt64 < k) :
    k ∈ q'.rows.keys ↔ k ∈ q.rows.keys := by
  rw [Dictionary.mem_keys_iff, Dictionary.mem_keys_iff, h.uncovered k hk]

theorem putRow (h : Parallel j s q q') {t : Stored}
    (ht : t.seq.toInt64 < 0 ∨ s.lastSeq.toInt64 < t.seq.toInt64)
    (hnew : t.seq.toInt64 ∉ q.rows.keys) : Parallel j s (q.putRow t) (q'.putRow t) := by
  refine ⟨h.legible.putRow hnew, h.legible'.putRow (mt (h.mem_keys_iff ht).1 hnew), h.snapshots,
    h.snapshots', fun k h0 hk => ?_, fun k hk => ?_⟩
  · have hne : k ≠ t.seq.toInt64 := by
      rintro rfl
      rcases ht with ht | ht
      · exact Int64.not_le.2 ht h0
      · exact Int64.not_le.2 ht hk
    show (q.rows.put _ _).get? k = j.rows.get? k
    rw [Dictionary.get?_put_of_ne _ hne, h.covered k h0 hk]
  · show (q'.rows.put _ _).get? k = (q.rows.put _ _).get? k
    rw [Dictionary.get?_put, Dictionary.get?_put, h.uncovered k hk]

/-- **A row is taken by both journals or by none.** -/
theorem insert (h : Parallel j s q q') {t : Stored} (ht : s.lastSeq < t.seq) :
    (∃ r r', q.insert t = .ok r ∧ q'.insert t = .ok r' ∧ Parallel j s r r') ∨
      ∃ e, q.insert t = .error e ∧ q'.insert t = .error e := by
  have hk := neg_or_lt_of_lt h.small ht
  by_cases hnew : t.seq.toInt64 ∈ q.rows.keys
  · have hq := (Dictionary.mem_keys_iff _ _).1 hnew
    refine .inr ⟨.duplicateSeq, ?_, ?_⟩
    · rw [Journal.insert, insertRow, Dictionary.contains, hq]
      rfl
    · rw [Journal.insert, insertRow, Dictionary.contains, h.uncovered _ hk, hq]
      rfl
  · exact .inl ⟨_, _, insert_of_notMem hnew, insert_of_notMem (mt (h.mem_keys_iff hk).1 hnew),
      h.putRow hk hnew⟩

theorem foldlM_insert (h : Parallel j s q q') (hb : ∀ t ∈ batch, s.lastSeq < t.seq) :
    (∃ r r', batch.foldlM Journal.insert q = .ok r ∧ batch.foldlM Journal.insert q' = .ok r' ∧
        Parallel j s r r') ∨
      ∃ e, batch.foldlM Journal.insert q = .error e ∧
        batch.foldlM Journal.insert q' = .error e := by
  induction batch generalizing q q' with
  | nil => exact .inl ⟨q, q', rfl, rfl, h⟩
  | cons t rest ih =>
    simp only [List.foldlM_cons]
    rcases h.insert (hb t List.mem_cons_self) with ⟨r, r', hr, hr', hp⟩ | ⟨e, he, he'⟩
    · rw [hr, hr']
      exact ih hp fun u hu => hb u (List.mem_cons_of_mem t hu)
    · rw [he, he']
      exact .inr ⟨e, rfl, rfl⟩

/-- **A batch is taken by both journals or by none.** -/
theorem append (h : Parallel j s q q') (hb : ∀ t ∈ batch, s.lastSeq < t.seq) :
    (∃ r r', q.append batch = .ok r ∧ q'.append batch = .ok r' ∧ Parallel j s r.1 r'.1) ∨
      ∃ e, q.append batch = .error e ∧ q'.append batch = .error e := by
  rw [Journal.append, Journal.append]
  cases batch.getLast? with
  | none => exact .inl ⟨_, _, rfl, rfl, h⟩
  | some last =>
    rcases h.foldlM_insert hb with ⟨r, r', hr, hr', hp⟩ | ⟨e, he, he'⟩
    · simp only [hr, hr']
      exact .inl ⟨_, _, rfl, rfl, hp⟩
    · simp only [he, he']
      exact .inr ⟨e, rfl, rfl⟩

end Parallel

/-- The journal after a batch was handed over; one that is refused leaves it as it was. -/
def handed (j : Journal) (batch : List Stored) : Journal :=
  match j.append batch with
  | .ok r => r.1
  | .error _ => j

/-- The journal after batches were handed over one after another. -/
def handedAll (j : Journal) (batches : List (List Stored)) : Journal :=
  batches.foldl handed j

namespace Parallel

theorem handedAll (h : Parallel j s q q') {batches : List (List Stored)}
    (hb : ∀ batch ∈ batches, ∀ t ∈ batch, s.lastSeq < t.seq) :
    Parallel j s (q.handedAll batches) (q'.handedAll batches) := by
  induction batches generalizing q q' with
  | nil => exact h
  | cons batch rest ih =>
    have hp : Parallel j s (q.handed batch) (q'.handed batch) := by
      rw [handed, handed]
      rcases h.append (hb batch List.mem_cons_self) with ⟨r, r', hr, hr', hp⟩ | ⟨e, he, he'⟩
      · rw [hr, hr']
        exact hp
      · rw [he, he']
        exact h
    exact ih hp fun b hmem => hb b (List.mem_cons_of_mem batch hmem)

/-! ### The highest number -/

theorem keys_le_iff (h : Parallel j s q q') {x : Int64} (hx : s.lastSeq.toInt64 ≤ x) :
    (∀ k ∈ q'.rows.keys, k ≤ x) ↔ ∀ k ∈ q.rows.keys, k ≤ x := by
  have hof : ∀ {p p' : Journal},
      (∀ k, k < 0 ∨ s.lastSeq.toInt64 < k → (k ∈ p'.rows.keys ↔ k ∈ p.rows.keys)) →
      (∀ k ∈ p'.rows.keys, k ≤ x) → ∀ k ∈ p.rows.keys, k ≤ x := by
    intro p p' hsame hle k hk
    by_cases hc : k < 0 ∨ s.lastSeq.toInt64 < k
    · exact hle k ((hsame k hc).2 hk)
    · rw [not_or] at hc
      exact Int64.le_trans (Int64.not_lt.1 hc.2) hx
  exact ⟨hof fun k hk => h.mem_keys_iff hk, hof fun k hk => (h.mem_keys_iff hk).symm⟩

theorem lastSeq_le (h : Parallel j s q q') (hn : j.latestSeq = s.lastSeq) :
    s.lastSeq.toInt64 ≤ q.latestSeq.toInt64 := by
  have hj : ∀ r ∈ j.snapshots, 0 ≤ r.lastSeq :=
    fun r hr => h.legible.zero_le_lastSeq (h.snapshots ▸ hr)
  rw [← hn, latestSeq_le_iff hj]
  refine ⟨h.legible.zero_le_latestSeq, fun k hk => ?_,
    fun r hr => q.lastSeq_le_latestSeq (h.snapshots ▸ hr)⟩
  by_cases hneg : k < 0
  · exact Int64.le_trans (Int64.le_of_lt hneg) h.legible.zero_le_latestSeq
  · have hle : k ≤ s.lastSeq.toInt64 := hn ▸ j.key_le_latestSeq hk
    apply q.key_le_latestSeq
    rw [Dictionary.mem_keys_iff] at hk ⊢
    rw [h.covered k (Int64.not_lt.1 hneg) hle]
    exact hk

/-- **Both journals have the same highest number in use**, if the snapshot covers what was in use
before. -/
theorem latestSeq_eq (h : Parallel j s q q') (hn : j.latestSeq = s.lastSeq) :
    q'.latestSeq = q.latestSeq := by
  have hq : ∀ r ∈ q.snapshots, 0 ≤ r.lastSeq := fun r => h.legible.zero_le_lastSeq
  have hq' : ∀ r ∈ q'.snapshots, 0 ≤ r.lastSeq := fun r => h.legible'.zero_le_lastSeq
  have hbound : ∀ x : Int64, q'.latestSeq.toInt64 ≤ x ↔ q.latestSeq.toInt64 ≤ x := by
    intro x
    constructor
    · intro hx
      rw [latestSeq_le_iff hq', h.snapshots', List.forall_mem_cons] at hx
      obtain ⟨h0, hrows, hlast, hsnap⟩ := hx
      rw [latestSeq_le_iff hq, h.snapshots]
      exact ⟨h0, (h.keys_le_iff hlast).1 hrows, hsnap⟩
    · intro hx
      have hlast : s.lastSeq.toInt64 ≤ x := Int64.le_trans (h.lastSeq_le hn) hx
      rw [latestSeq_le_iff hq, h.snapshots] at hx
      obtain ⟨h0, hrows, hsnap⟩ := hx
      rw [latestSeq_le_iff hq', h.snapshots', List.forall_mem_cons]
      exact ⟨h0, (h.keys_le_iff hlast).2 hrows, hlast, hsnap⟩
  have heq : q'.latestSeq.toInt64 = q.latestSeq.toInt64 :=
    Int64.le_antisymm ((hbound _).2 (Int64.le_refl _)) ((hbound _).1 (Int64.le_refl _))
  have hword := congrArg Int64.toUInt64 heq
  rwa [UInt64.toUInt64_toInt64, UInt64.toUInt64_toInt64] at hword

/-! ### Replaying both -/

theorem rowsAfter_eq (h : Parallel j s q q') (hn : j.latestSeq = s.lastSeq) {a : Int64}
    (h0 : 0 ≤ a) (ha : a ≤ s.lastSeq.toInt64) :
    q.rowsAfter a = j.rowsAfter a ++ q.rowsAfter s.lastSeq.toInt64 := by
  have hle : ∀ e ∈ j.rowsAfter a, e.1 ≤ s.lastSeq.toInt64 := by
    intro e he
    rw [← hn]
    exact j.key_le_latestSeq (List.mem_map.2 ⟨e, (mem_rowsAfter.1 he).1, rfl⟩)
  have hbelow := j.rowsAbove_rowsAfter a
  have habove := q.rowsAbove_rowsAfter s.lastSeq.toInt64
  refine (q.rowsAbove_rowsAfter a).eq ⟨fun e => ?_, ?_⟩
  · rw [List.mem_append]
    constructor
    · rintro (he | he)
      · obtain ⟨hget, hlt⟩ := (hbelow.mem_iff e).1 he
        have hpos : 0 ≤ e.1 := Int64.le_trans h0 (Int64.le_of_lt hlt)
        exact ⟨(h.covered e.1 hpos (hle e he)).trans hget, hlt⟩
      · obtain ⟨hget, hlt⟩ := (habove.mem_iff e).1 he
        exact ⟨hget, Int64.lt_of_le_of_lt ha hlt⟩
    · rintro ⟨hget, hlt⟩
      by_cases hc : s.lastSeq.toInt64 < e.1
      · exact .inr ((habove.mem_iff e).2 ⟨hget, hc⟩)
      · have hpos : 0 ≤ e.1 := Int64.le_trans h0 (Int64.le_of_lt hlt)
        have hsame := h.covered e.1 hpos (Int64.not_lt.1 hc)
        exact .inl ((hbelow.mem_iff e).2 ⟨hsame.symm.trans hget, hlt⟩)
  · refine List.pairwise_append.2 ⟨hbelow.ascending, habove.ascending, fun e he e' he' => ?_⟩
    exact Int64.lt_of_le_of_lt (hle e he) ((habove.mem_iff e').1 he').2

/-- **A replay of either journal writes the same rows over what was there before.** -/
theorem replay_eq (h : Parallel j s q q') (hn : j.latestSeq = s.lastSeq) {tail : List Stored}
    (hs₀ : j.newest = .ok s₀) (hle : s₀.lastSeq ≤ s.lastSeq)
    (ht : j.loadAfter s₀.lastSeq = .ok tail) (b : Book) :
    ∃ later, (q.replay b).1 =
        (b.restore (s₀.observations ++ tail.map Stored.observation)).restore later ∧
      (q'.replay b).1 = (b.restore s.observations).restore later := by
  obtain ⟨later, hlater, -⟩ := h.legible.loadAfter s.lastSeq
  have h0 : 0 ≤ s₀.lastSeq.toInt64 :=
    zero_le_toInt64 (Nat.lt_of_le_of_lt (UInt64.le_iff_toNat_le.1 hle) h.small)
  have hq : q.newest = .ok s₀ := (newest_congr h.snapshots).trans hs₀
  have hq' : q'.newest = .ok s := by
    have hwritten : q'.snapshots = (j.writeSnapshot s).snapshots := h.snapshots'
    rw [newest_congr hwritten, newest, latestSnapshot?_writeSnapshot]
    rfl
  have hload : q.loadAfter s₀.lastSeq = .ok (tail ++ later) := by
    rw [loadAfter] at ht hlater
    rw [loadAfter, h.rowsAfter_eq hn h0 (toInt64_le_of_le hle h.small), List.mapM_append, ht,
      hlater]
    rfl
  have hload' : q'.loadAfter s.lastSeq = .ok later := by
    rw [loadAfter, rowsAfter_congr fun k hk => h.uncovered k (.inr hk)]
    exact hlater
  refine ⟨later.map Stored.observation, ?_, ?_⟩
  · rw [Journal.replay_eq hq hload, List.map_append, ← List.append_assoc, Book.restore_append]
  · rw [Journal.replay_eq hq' hload', Book.restore_append]

end Parallel

/-- **A checkpoint cannot be told from the journal that it was made of.**  A journal that was
written is replayed into a fresh book, the book's snapshot is written with the number that the
replay tells, and rows up to that number are dropped.  The journal that comes of it is replayed
to the same snapshot and the same number.  And whatever batches are handed to both journals
with numbers above it, both are replayed to the same notes and the same number, and have the
same highest number in use. -/
theorem Written.checkpoint_invisible (h : j.Written) (src : Sources) :
    ∃ C n, j.replay (.ofSources src) = (C, .ok n) ∧ ∀ m ≤ n,
      let j' := ((j.writeSnapshot ⟨n, C.snapshot⟩).compactThrough m).1
      (∃ C', j'.replay (.ofSources src) = (C', .ok n) ∧ C'.snapshot = C.snapshot) ∧
      ∀ batches : List (List Stored), (∀ batch ∈ batches, ∀ t ∈ batch, n < t.seq) →
        ∃ D D' r, (j.handedAll batches).replay (.ofSources src) = (D, .ok r) ∧
          (j'.handedAll batches).replay (.ofSources src) = (D', .ok r) ∧
          (∀ key, D'.notes.get? key = D.notes.get? key) ∧ D'.Alike D ∧
          (j'.handedAll batches).latestSeq = (j.handedAll batches).latestSeq := by
  obtain ⟨hresult, hsmall⟩ := h.replay (.ofSources src)
  obtain ⟨s₀, hs₀, hle⟩ := h.sound.legible.newest
  obtain ⟨tail, ht, -⟩ := h.sound.legible.loadAfter s₀.lastSeq
  let told := s₀.observations ++ tail.map Stored.observation
  let C := (Book.ofSources src).restore told
  have hbook : (j.replay (.ofSources src)).1 = C := by
    rw [Journal.replay_eq hs₀ ht]
  have hreplay : j.replay (.ofSources src) = (C, .ok j.latestSeq) := Prod.ext hbook hresult
  refine ⟨C, j.latestSeq, hreplay, fun m hm => ?_⟩
  intro j'
  have hafter : ∀ batches : List (List Stored),
      (∀ batch ∈ batches, ∀ t ∈ batch, j.latestSeq < t.seq) →
        ∃ D D' r, (j.handedAll batches).replay (.ofSources src) = (D, .ok r) ∧
          (j'.handedAll batches).replay (.ofSources src) = (D', .ok r) ∧
          (∀ key, D'.notes.get? key = D.notes.get? key) ∧ D'.Alike D ∧
          (j'.handedAll batches).latestSeq = (j.handedAll batches).latestSeq := by
    intro batches hb
    have hp : Parallel j ⟨j.latestSeq, C.snapshot⟩ (j.handedAll batches) (j'.handedAll batches) :=
      (h.sound.parallel (s := ⟨j.latestSeq, C.snapshot⟩) hsmall hm).handedAll hb
    have hlatest := hp.latestSeq_eq rfl
    obtain ⟨later, hD, hD'⟩ := hp.replay_eq rfl hs₀ hle ht (.ofSources src)
    have hnotes : ∀ key, ((j'.handedAll batches).replay (.ofSources src)).1.notes.get? key =
        ((j.handedAll batches).replay (.ofSources src)).1.notes.get? key := by
      intro key
      rw [hD, hD']
      exact Book.get?_restore_congr (Book.get?_restore_snapshot src told key) later
    refine ⟨_, _, (j.handedAll batches).latestSeq,
      Prod.ext rfl (hp.legible.replay _).1, Prod.ext rfl ?_, hnotes, Book.alike_of_get? hnotes,
      hlatest⟩
    rw [← hlatest]
    exact (hp.legible'.replay _).1
  refine ⟨?_, hafter⟩
  obtain ⟨D, D', r, hD, hD', -, halike, -⟩ := hafter [] nofun
  have hsame : (D, Except.ok r) = (C, Except.ok j.latestSeq) := hD.symm.trans hreplay
  obtain ⟨rfl, hr⟩ := Prod.mk.inj hsame
  obtain rfl := Except.ok.inj hr
  exact ⟨D', hD', halike.snapshot⟩

/-- Two rows, the first of which is dropped, and then a row that takes back what it said. -/
theorem checkpoint_invisible_zones :
    let j := (empty.putRow ⟨1, 0, ⟨"K1AR", "CQZONE", "5"⟩⟩).putRow ⟨2, 0, ⟨"K1AR", "ITUZONE", "8"⟩⟩
    let batches : List (List Stored) := [[⟨3, 0, ⟨"K1AR", "CQZONE", "4"⟩⟩]]
    j.Written ∧ ∃ C, j.replay (.ofSources .empty) = (C, .ok 2) ∧
      let j' := ((j.writeSnapshot ⟨2, C.snapshot⟩).compactThrough 1).1
      (∃ C', j'.replay (.ofSources .empty) = (C', .ok 2) ∧ C'.snapshot = C.snapshot) ∧
      ∃ D D' r, (j.handedAll batches).replay (.ofSources .empty) = (D, .ok r) ∧
        (j'.handedAll batches).replay (.ofSources .empty) = (D', .ok r) ∧
        (∀ key, D'.notes.get? key = D.notes.get? key) ∧ D'.Alike D ∧
        (j'.handedAll batches).latestSeq = (j.handedAll batches).latestSeq := by
  intro j batches
  have happend : empty.append [⟨1, 0, ⟨"K1AR", "CQZONE", "5"⟩⟩, ⟨2, 0, ⟨"K1AR", "ITUZONE", "8"⟩⟩] =
      .ok (j, 2) := rfl
  have hj : j.Written := .append .empty happend (by decide)
  obtain ⟨C, n, hC, hcheckpoint⟩ := hj.checkpoint_invisible .empty
  have hkeys : j.rows.keys = [1, 2] := rfl
  have hlatest : j.latestSeq = 2 := by
    rw [latestSeq, hkeys]
    rfl
  obtain rfl : n = 2 := by
    have hn : Except.ok n = Except.ok j.latestSeq := (congrArg Prod.snd hC).symm.trans (hj.replay _).1
    rw [Except.ok.inj hn, hlatest]
  obtain ⟨hsnapshot, hlater⟩ := hcheckpoint 1 (by decide)
  have hnumbers : ∀ batch ∈ batches, ∀ t ∈ batch, (2 : UInt64) < t.seq := by
    intro batch hb t ht
    rw [List.mem_singleton.1 hb] at ht
    rw [List.mem_singleton.1 ht]
    decide
  exact ⟨hj, C, hC, hsnapshot, hlater batches hnumbers⟩

end ContestExchange.Journal
