import ContestExchange.Proofs.Journal.Keeping

/-!
# Journals that were written

A journal that was written through its own operations alone, with numbers below
2 ^ 63, can be read: a replay finds everything and tells the highest number in
use (`Written.replay`).
-/

namespace ContestExchange

/-! ### Signed words that are numbers -/

theorem toNat_lt_of_zero_le {n : UInt64} (h : 0 ≤ n.toInt64) : n.toNat < 2 ^ 63 := by
  rw [Int64.le_iff_toInt_le, ← Int64.toInt_toBitVec n.toInt64, UInt64.toBitVec_toInt64,
    BitVec.toInt_eq_toNat_cond] at h
  have h0 : (0 : Int64).toInt = 0 := rfl
  have hn : n.toBitVec.toNat = n.toNat := rfl
  rw [h0, hn] at h
  split at h
  · omega
  · have := n.toNat_lt_size
    have hs : UInt64.size = 2 ^ 64 := rfl
    omega

theorem le_of_toInt64_le {m n : UInt64} (h : m.toInt64 ≤ n.toInt64) (hm : m.toNat < 2 ^ 63)
    (hn : n.toNat < 2 ^ 63) : m ≤ n := by
  rw [Int64.le_iff_toInt_le, toInt_toInt64 hm, toInt_toInt64 hn] at h
  rw [UInt64.le_iff_toNat_le]
  omega

/-- The row of an observation, with its number. -/
def Stored.row (s : Stored) : Int64 × Row :=
  (s.seq.toInt64, ⟨s.time.toInt64, (Envelope.of s).encode⟩)

namespace Journal

/-- The journals that come of the operations, with numbers below 2 ^ 63. -/
inductive Written : Journal → Prop
  | empty : Written empty
  | append {j : Journal} {batch : List Stored} {r : Journal × UInt64} (h : Written j)
    (hr : j.append batch = .ok r) (hn : ∀ s ∈ batch, s.seq.toNat < 2 ^ 63) : Written r.1
  | writeSnapshot {j : Journal} {s : Snapshot} (h : Written j) (hn : s.lastSeq.toNat < 2 ^ 63) :
    Written (j.writeSnapshot s)
  | compactThrough {j : Journal} (h : Written j) (seq : UInt64) : Written (j.compactThrough seq).1

/-- All rows hold observations with small numbers, and all snapshots cover small numbers. -/
structure Sound (j : Journal) : Prop where
  row : ∀ e ∈ j.rows.entries, ∃ s : Stored, s.seq.toNat < 2 ^ 63 ∧ e = s.row
  snapshot : ∀ r ∈ j.snapshots, ∃ s : Snapshot, s.lastSeq.toNat < 2 ^ 63 ∧
    r = ⟨s.lastSeq.toInt64, s.encode⟩

theorem insert_eq_ok {j j' : Journal} {s : Stored} (h : j.insert s = .ok j') :
    s.seq.toInt64 ∉ j.rows.keys ∧ j' = j.putRow s := by
  have hm : s.seq.toInt64 ∉ j.rows.keys := by
    intro hm
    rw [Dictionary.mem_keys_iff] at hm
    rw [insert, insertRow, Dictionary.contains, hm] at h
    cases h
  rw [insert_of_notMem hm] at h
  exact ⟨hm, (Except.ok.inj h).symm⟩

theorem mem_entries_putRow {j : Journal} {s : Stored} (hm : s.seq.toInt64 ∉ j.rows.keys)
    {e : Int64 × Row} : e ∈ (j.putRow s).rows.entries ↔ e ∈ j.rows.entries ∨ e = s.row := by
  rw [putRow, Dictionary.entries_put_of_notMem _ hm, List.mem_append, List.mem_singleton]
  rfl

theorem Sound.putRow {j : Journal} (h : j.Sound) {s : Stored} (hm : s.seq.toInt64 ∉ j.rows.keys)
    (hn : s.seq.toNat < 2 ^ 63) : (j.putRow s).Sound := by
  refine ⟨fun e he => ?_, h.snapshot⟩
  rcases (mem_entries_putRow hm).1 he with he | he
  · exact h.row e he
  · exact ⟨s, hn, he⟩

theorem Sound.foldlM_insert {j j' : Journal} (h : j.Sound) {batch : List Stored}
    (hr : batch.foldlM insert j = .ok j') (hn : ∀ s ∈ batch, s.seq.toNat < 2 ^ 63) : j'.Sound := by
  induction batch generalizing j with
  | nil => exact Except.ok.inj hr ▸ h
  | cons s r ih =>
    rw [List.foldlM_cons] at hr
    cases hi : j.insert s with
    | error e => rw [hi] at hr; cases hr
    | ok j₁ =>
      rw [hi] at hr
      obtain ⟨hm, rfl⟩ := insert_eq_ok hi
      exact ih (h.putRow hm (hn s List.mem_cons_self)) hr
        fun t ht => hn t (List.mem_cons_of_mem s ht)

theorem Written.sound {j : Journal} (h : j.Written) : j.Sound := by
  induction h with
  | empty => exact ⟨nofun, nofun⟩
  | @append j batch r _ hr hn ih =>
    rw [Journal.append] at hr
    cases hb : batch.getLast? with
    | none =>
      rw [hb] at hr
      exact Except.ok.inj hr ▸ ih
    | some last =>
      simp only [hb] at hr
      cases hf : batch.foldlM insert j with
      | error e => rw [hf] at hr; cases hr
      | ok j' =>
        rw [hf] at hr
        exact Except.ok.inj hr ▸ ih.foldlM_insert hf hn
  | @writeSnapshot j s _ hn ih =>
    refine ⟨ih.row, fun r hr => ?_⟩
    rcases List.mem_cons.1 hr with rfl | hr
    · exact ⟨s, hn, rfl⟩
    · exact ih.snapshot r hr
  | compactThrough _ seq ih =>
    exact ⟨fun e he => ih.row e (List.mem_filter.1 he).1, ih.snapshot⟩

/-! ### Reading -/

theorem mapM_readRow {l : List (Int64 × Row)} (h : ∀ e ∈ l, ∃ s : Stored, e = s.row) :
    ∃ tail, l.mapM readRow = .ok tail ∧ tail.map Stored.row = l := by
  induction l with
  | nil => exact ⟨[], rfl, rfl⟩
  | cons e r ih =>
    obtain ⟨s, rfl⟩ := h e List.mem_cons_self
    obtain ⟨tail, ht, hm⟩ := ih fun e' he => h e' (List.mem_cons_of_mem _ he)
    refine ⟨s :: tail, ?_, by rw [List.map_cons, hm]⟩
    rw [List.mapM_cons, Stored.row, readRow_of, ht]
    rfl

theorem zero_le_largest {l : List Int64} (h : ∀ k ∈ l, 0 ≤ k) : 0 ≤ largest l := by
  cases l with
  | nil => exact Int64.le_refl 0
  | cons n r => exact h _ (foldl_larger_mem n r)

/-- All rows hold observations, and all snapshots cover small numbers. -/
structure Legible (j : Journal) : Prop where
  row : ∀ e ∈ j.rows.entries, ∃ s : Stored, e = s.row
  snapshot : ∀ r ∈ j.snapshots, ∃ s : Snapshot, s.lastSeq.toNat < 2 ^ 63 ∧
    r = ⟨s.lastSeq.toInt64, s.encode⟩

theorem Sound.legible {j : Journal} (h : j.Sound) : j.Legible := by
  refine ⟨fun e he => ?_, h.snapshot⟩
  obtain ⟨s, -, hs⟩ := h.row e he
  exact ⟨s, hs⟩

namespace Legible

variable {j : Journal}

theorem zero_le_lastSeq (h : j.Legible) {r : SnapshotRow} (hr : r ∈ j.snapshots) :
    0 ≤ r.lastSeq := by
  obtain ⟨s, hs, rfl⟩ := h.snapshot r hr
  exact zero_le_toInt64 hs

theorem zero_le_latestSeq (h : j.Legible) : 0 ≤ j.latestSeq.toInt64 := by
  rw [latestSeq, Int64.toInt64_toUInt64]
  have hk : 0 ≤ largest (j.snapshots.map SnapshotRow.lastSeq) := zero_le_largest fun k hk => by
    obtain ⟨r, hr, rfl⟩ := List.mem_map.1 hk
    exact h.zero_le_lastSeq hr
  exact Int64.le_trans hk (le_larger_right _ _)

theorem newest (h : j.Legible) : ∃ s, j.newest = .ok s ∧ s.lastSeq ≤ j.latestSeq := by
  have hlatest := toNat_lt_of_zero_le h.zero_le_latestSeq
  rw [Journal.newest, latestSnapshot?]
  cases hs : j.snapshots with
  | nil => exact ⟨⟨0, []⟩, rfl, UInt64.le_iff_toNat_le.2 (Nat.zero_le _)⟩
  | cons r rest =>
    have hr : r ∈ j.snapshots := hs ▸ List.mem_cons_self
    have hle := j.lastSeq_le_latestSeq hr
    obtain ⟨s, hn, rfl⟩ := h.snapshot r hr
    refine ⟨s, ?_, le_of_toInt64_le hle hn hlatest⟩
    simp only [Snapshot.decodeBytes?_encode, if_true]
    rfl

theorem loadAfter (h : j.Legible) (seq : UInt64) :
    ∃ tail, j.loadAfter seq = .ok tail ∧ tail.map Stored.row = j.rowsAfter seq.toInt64 :=
  mapM_readRow fun e he => h.row e (mem_rowsAfter.1 he).1

/-- **A legible journal can be replayed**, up to its highest number. -/
theorem replay (h : j.Legible) (b : Book) :
    (j.replay b).2 = .ok j.latestSeq ∧ j.latestSeq.toNat < 2 ^ 63 := by
  have hlatest := toNat_lt_of_zero_le h.zero_le_latestSeq
  obtain ⟨s, hs, hle⟩ := h.newest
  obtain ⟨tail, ht, hm⟩ := h.loadAfter s.lastSeq
  have hlast : lastOf s tail ≤ j.latestSeq := by
    rw [lastOf]
    cases hl : tail.getLast? with
    | none => exact hle
    | some t =>
      -- the number of the last row is above one that is small, so it is small itself
      have hrow := mem_rowsAfter.1 (hm ▸ List.mem_map.2 ⟨t, List.mem_of_getLast? hl, rfl⟩)
      have hkey := j.key_le_latestSeq (List.mem_map.2 ⟨_, hrow.1, rfl⟩)
      have hsmall : s.lastSeq.toNat < 2 ^ 63 :=
        Nat.lt_of_le_of_lt (UInt64.le_iff_toNat_le.1 hle) hlatest
      have hpos : 0 ≤ t.seq.toInt64 :=
        Int64.le_trans (zero_le_toInt64 hsmall) (Int64.le_of_lt hrow.2)
      exact le_of_toInt64_le hkey (toNat_lt_of_zero_le hpos) hlatest
  refine ⟨?_, hlatest⟩
  rw [replay_eq hs ht]
  exact congrArg _ (if_pos hlast)

end Legible

/-- **A journal that was written can be replayed**, up to its highest number. -/
theorem Written.replay {j : Journal} (h : j.Written) (b : Book) :
    (j.replay b).2 = .ok j.latestSeq ∧ j.latestSeq.toNat < 2 ^ 63 :=
  h.sound.legible.replay b

end Journal

end ContestExchange
