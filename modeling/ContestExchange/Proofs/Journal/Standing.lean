import Mathlib.Data.List.Nodup
import ContestExchange.Proofs.Journal.Replaying

/-!
# What stands in a journal

A journal is a map from numbers to observations.  It is used by `Journal.Call`s, and what
stands in it afterwards can be told from the calls alone (`standing`): a batch is added as a
whole if its numbers differ from each other and from all that stand (`Joins`), and otherwise
not at all; a compaction takes away what has a number up to its own.  The rows of the journal
are those of what stands, in the order in which it was appended (`Holds`), and that is kept by
each call (`Holds.call`).

What a journal answers is then said without its rows (`answers_standing`).  Numbers may be any;
they are compared as signed words, so that a number from 2 ^ 63 on stands below 0.
-/

namespace ContestExchange

namespace Stored

/-- The batch can be added to what stands: its numbers are pairwise distinct, and none of them
stands already. -/
def Joins (batch standing : List Stored) : Prop :=
  (batch.map seq).Nodup ∧ ∀ s ∈ batch, s.seq ∉ standing.map seq

instance (batch standing : List Stored) : Decidable (Joins batch standing) :=
  inferInstanceAs (Decidable (_ ∧ _))

theorem joins_nil (m : List Stored) : Joins [] m :=
  ⟨List.nodup_nil, fun _ hs => absurd hs List.not_mem_nil⟩

/-- The first of a batch is added, and then the others to it. -/
theorem joins_cons {s : Stored} {r m : List Stored} :
    Joins (s :: r) m ↔ s.seq ∉ m.map seq ∧ Joins r (m ++ [s]) := by
  simp only [Joins, List.map_cons, List.nodup_cons, List.forall_mem_cons, List.map_append,
    List.map_nil, List.mem_append, List.mem_singleton, not_or]
  constructor
  · rintro ⟨⟨hs, hr⟩, hm, hrm⟩
    refine ⟨hm, hr, fun t ht => ⟨hrm t ht, ?_⟩⟩
    intro he
    apply hs
    rw [← he]
    exact List.mem_map_of_mem ht
  · rintro ⟨hm, hr, hrm⟩
    refine ⟨⟨?_, hr⟩, hm, fun t ht => (hrm t ht).1⟩
    intro hs
    obtain ⟨t, ht, he⟩ := List.mem_map.1 hs
    exact (hrm t ht).2 he

theorem toInt64_inj {m n : UInt64} (h : m.toInt64 = n.toInt64) : m = n := by
  rw [← UInt64.toUInt64_toInt64 m, h, UInt64.toUInt64_toInt64]

theorem row_injective : Function.Injective row := by
  intro s t h
  have hread : Journal.readRow s.row = Journal.readRow t.row := congrArg _ h
  rw [row, row, Journal.readRow_of, Journal.readRow_of] at hread
  exact Except.ok.inj hread

end Stored

namespace Journal

open Stored (Joins)

variable {j : Journal} {m batch : List Stored} {s : Stored}

/-! ### Calls -/

/-- A use of a journal. -/
inductive Call where
  | append (batch : List Stored)
  | loadAfter (seq : UInt64)
  | latestSeq
  | compactThrough (seq : UInt64)

/-- What a journal answers to a call. -/
inductive Reply where
  | number (seq : UInt64)
  | found (l : List Stored)
  | dropped (count : Nat)
  | refused (e : JournalError)

/-- Carries out a call.  One that is refused leaves the journal as it was. -/
def call (j : Journal) : Call → Journal × Reply
  | .append batch =>
    match j.append batch with
    | .ok r => (r.1, .number r.2)
    | .error e => (j, .refused e)
  | .loadAfter seq =>
    match j.loadAfter seq with
    | .ok l => (j, .found l)
    | .error e => (j, .refused e)
  | .latestSeq => (j, .number j.latestSeq)
  | .compactThrough seq => ((j.compactThrough seq).1, .dropped (j.compactThrough seq).2)

/-- The journal after several calls. -/
def callAll (j : Journal) (l : List Call) : Journal :=
  l.foldl (fun j c => (j.call c).1) j

/-- What stands after a call, if `m` stood before. -/
def Call.leave (m : List Stored) : Call → List Stored
  | append batch => if Joins batch m then m ++ batch else m
  | compactThrough seq => m.filter fun s => decide (seq.toInt64 < s.seq.toInt64)
  | loadAfter _ => m
  | latestSeq => m

/-- What stands after calls to a fresh journal, in the order in which it was appended. -/
def standing (l : List Call) : List Stored :=
  l.foldl Call.leave []

/-! ### The rows of what stands -/

/-- The rows of the journal are those of `m`, and there is no snapshot. -/
structure Holds (j : Journal) (m : List Stored) : Prop where
  entries : j.rows.entries = m.map Stored.row
  snapshots : j.snapshots = []

namespace Holds

theorem keys (h : j.Holds m) : j.rows.keys = (m.map Stored.seq).map UInt64.toInt64 := by
  rw [Dictionary.keys, h.entries, List.map_map, List.map_map]
  rfl

theorem mem_keys_iff (h : j.Holds m) {n : UInt64} :
    n.toInt64 ∈ j.rows.keys ↔ n ∈ m.map Stored.seq := by
  rw [h.keys, List.mem_map_of_injective fun _ _ => Stored.toInt64_inj]

theorem nodup (h : j.Holds m) : (m.map Stored.seq).Nodup := by
  have hkeys : j.rows.keys.Nodup := j.rows.nodup
  rw [h.keys] at hkeys
  exact hkeys.of_map _

theorem legible (h : j.Holds m) : j.Legible := by
  refine ⟨fun e he => ?_, fun r hr => ?_⟩
  · rw [h.entries] at he
    obtain ⟨s, -, rfl⟩ := List.mem_map.1 he
    exact ⟨s, rfl⟩
  · rw [h.snapshots] at hr
    cases hr

/-! ### Appending -/

theorem insert (h : j.Holds m) (hs : s.seq ∉ m.map Stored.seq) :
    j.insert s = .ok (j.putRow s) ∧ (j.putRow s).Holds (m ++ [s]) := by
  have hnew : s.seq.toInt64 ∉ j.rows.keys := mt h.mem_keys_iff.1 hs
  refine ⟨insert_of_notMem hnew, ?_, h.snapshots⟩
  rw [putRow, Dictionary.entries_put_of_notMem _ hnew, h.entries, List.map_append]
  rfl

theorem insert_of_mem (h : j.Holds m) (hs : s.seq ∈ m.map Stored.seq) :
    j.insert s = .error .duplicateSeq := by
  have hkey := (Dictionary.mem_keys_iff _ _).1 (h.mem_keys_iff.2 hs)
  rw [Journal.insert, insertRow, Dictionary.contains, hkey]
  rfl

/-- **A batch is taken if it joins what stands**, and refused if it does not. -/
theorem foldlM_insert (h : j.Holds m) (batch : List Stored) :
    if Joins batch m then ∃ j', batch.foldlM Journal.insert j = .ok j' ∧ j'.Holds (m ++ batch)
    else batch.foldlM Journal.insert j = .error .duplicateSeq := by
  induction batch generalizing j m with
  | nil =>
    rw [if_pos (Stored.joins_nil m), List.append_nil]
    exact ⟨j, rfl, h⟩
  | cons s r ih =>
    rw [List.foldlM_cons]
    by_cases hs : s.seq ∈ m.map Stored.seq
    · rw [if_neg fun hjoins => (Stored.joins_cons.1 hjoins).1 hs, h.insert_of_mem hs]
      rfl
    · obtain ⟨hinsert, hholds⟩ := h.insert hs
      have hiff : Joins (s :: r) m ↔ Joins r (m ++ [s]) :=
        Stored.joins_cons.trans (and_iff_right hs)
      have htail := ih hholds
      rw [← List.append_cons] at htail
      simp only [hinsert, hiff]
      exact htail

theorem append (h : j.Holds m) (hb : Joins batch m) :
    ∃ j', j.append batch = .ok (j', (batch.getLast?.map Stored.seq).getD j.latestSeq) ∧
      j'.Holds (m ++ batch) := by
  have hall := h.foldlM_insert batch
  rw [if_pos hb] at hall
  obtain ⟨j', hj', hholds⟩ := hall
  refine ⟨j', ?_, hholds⟩
  rw [Journal.append]
  cases hlast : batch.getLast? with
  | none =>
    obtain rfl : batch = [] := List.getLast?_eq_none_iff.1 hlast
    obtain rfl : j = j' := Except.ok.inj hj'
    rfl
  | some last =>
    simp only [hj']
    rfl

theorem append_of_not_joins (h : j.Holds m) (hb : ¬Joins batch m) :
    j.append batch = .error .duplicateSeq := by
  have hall := h.foldlM_insert batch
  rw [if_neg hb] at hall
  rw [Journal.append]
  cases hlast : batch.getLast? with
  | none =>
    obtain rfl : batch = [] := List.getLast?_eq_none_iff.1 hlast
    exact absurd (Stored.joins_nil m) hb
  | some last =>
    simp only [hall]
    rfl

/-! ### Dropping and reading -/

theorem compactThrough (h : j.Holds m) (seq : UInt64) :
    (j.compactThrough seq).1.Holds
        (m.filter fun s => decide (seq.toInt64 < s.seq.toInt64)) ∧
      (j.compactThrough seq).2 =
        (m.filter fun s => decide (s.seq.toInt64 ≤ seq.toInt64)).length := by
  have hentries : (j.compactThrough seq).1.rows.entries =
      (m.filter fun s => decide (seq.toInt64 < s.seq.toInt64)).map Stored.row := by
    show (j.rows.entries.filter _) = _
    rw [h.entries, List.filter_map]
    rfl
  refine ⟨⟨hentries, h.snapshots⟩, ?_⟩
  -- what is dropped and what stays are counted together
  have hsplit := m.length_eq_length_filter_add fun s => decide (seq.toInt64 < s.seq.toInt64)
  have hnot : (fun s : Stored => !decide (seq.toInt64 < s.seq.toInt64)) =
      fun s => decide (s.seq.toInt64 ≤ seq.toInt64) := by
    funext s
    rw [← decide_not]
    exact decide_eq_decide.2 Int64.not_lt
  rw [hnot] at hsplit
  show j.rows.entries.length - (j.compactThrough seq).1.rows.entries.length = _
  rw [hentries, h.entries, List.length_map, List.length_map]
  omega

/-- **What stands above a number is found**, in ascending order. -/
theorem loadAfter (h : j.Holds m) (seq : UInt64) :
    ∃ l, j.loadAfter seq = .ok l ∧ l.Pairwise (fun s t => s.seq.toInt64 < t.seq.toInt64) ∧
      ∀ s, s ∈ l ↔ s ∈ m ∧ seq.toInt64 < s.seq.toInt64 := by
  obtain ⟨l, hl, hrows⟩ := h.legible.loadAfter seq
  refine ⟨l, hl, ?_, fun s => ?_⟩
  · have hascending := (j.rowsAbove_rowsAfter seq.toInt64).ascending
    rw [← hrows, List.pairwise_map] at hascending
    exact hascending
  · rw [← List.mem_map_of_injective Stored.row_injective, hrows, mem_rowsAfter, h.entries,
      List.mem_map_of_injective Stored.row_injective]
    rfl

/-- **The highest number is the larger of 0 and all that stand.** -/
theorem latestSeq (h : j.Holds m) :
    0 ≤ j.latestSeq.toInt64 ∧ (∀ s ∈ m, s.seq.toInt64 ≤ j.latestSeq.toInt64) ∧
      (j.latestSeq = 0 ∨ j.latestSeq ∈ m.map Stored.seq) := by
  refine ⟨h.legible.zero_le_latestSeq, fun s hs => ?_, ?_⟩
  · apply j.key_le_latestSeq
    rw [h.mem_keys_iff]
    exact List.mem_map_of_mem hs
  · rw [← h.mem_keys_iff, Journal.latestSeq, Int64.toInt64_toUInt64, h.snapshots]
    rcases larger_mem (largest j.rows.keys) 0 with he | he
    · show (larger (largest j.rows.keys) 0).toUInt64 = 0 ∨ larger (largest j.rows.keys) 0 ∈ _
      rw [he]
      cases hkeys : j.rows.keys with
      | nil => exact .inl rfl
      | cons k r => exact .inr (foldl_larger_mem k r)
    · left
      show (larger (largest j.rows.keys) 0).toUInt64 = 0
      rw [he]
      rfl

/-- **A call leaves what it should.** -/
theorem call (h : j.Holds m) (c : Call) : (j.call c).1.Holds (c.leave m) := by
  cases c with
  | append batch =>
    rw [Journal.call, Call.leave]
    by_cases hb : Joins batch m
    · obtain ⟨j', hj', hholds⟩ := h.append hb
      rw [if_pos hb, hj']
      exact hholds
    · rw [if_neg hb, h.append_of_not_joins hb]
      exact h
  | loadAfter seq =>
    obtain ⟨l, hl, -⟩ := h.loadAfter seq
    rw [Journal.call, hl]
    exact h
  | latestSeq => exact h
  | compactThrough seq => exact (h.compactThrough seq).1

theorem callAll (h : j.Holds m) (l : List Call) : (j.callAll l).Holds (l.foldl Call.leave m) := by
  induction l generalizing j m with
  | nil => exact h
  | cons c r ih => exact ih (h.call c)

end Holds

theorem holds_standing (l : List Call) : (empty.callAll l).Holds (standing l) :=
  (⟨rfl, rfl⟩ : empty.Holds []).callAll l

/-! ### Small numbers -/

theorem toInt64_lt_iff {a b : UInt64} (ha : a.toNat < 2 ^ 63) (hb : b.toNat < 2 ^ 63) :
    a.toInt64 < b.toInt64 ↔ a < b := by
  rw [Int64.lt_iff_toInt_lt, toInt_toInt64 ha, toInt_toInt64 hb, UInt64.lt_iff_toNat_lt]
  exact Int.ofNat_lt

/-- **A journal is a map keyed by number, and appends all or nothing.**  After any calls to a
fresh journal no number stands twice, and the next call is answered from what stands.  A batch is
taken if its numbers are pairwise distinct and none of them stands, and is refused otherwise; then
the journal is as it was.  Reading finds just what stands above a number, in ascending order, and
all that was appended of it.  A compaction drops what does not stand above its number, and counts
it.  The highest number is the largest of 0 and those that stand.  All this is by the order of
signed words, which for numbers below 2 ^ 63 is the plain one. -/
theorem answers_standing (l : List Call) :
    let j := empty.callAll l
    let m := standing l
    (m.map Stored.seq).Nodup ∧
      (∀ batch, if (batch.map Stored.seq).Nodup ∧ ∀ s ∈ batch, s.seq ∉ m.map Stored.seq
        then ∃ j', j.call (.append batch) =
            (j', .number ((batch.getLast?.map Stored.seq).getD j.latestSeq)) ∧
          standing (l ++ [.append batch]) = m ++ batch
        else j.call (.append batch) = (j, .refused .duplicateSeq) ∧
          standing (l ++ [.append batch]) = m) ∧
      (∀ n, ∃ found, j.call (.loadAfter n) = (j, .found found) ∧
        found.Pairwise (fun s t => s.seq.toInt64 < t.seq.toInt64) ∧
        ∀ s, s ∈ found ↔ s ∈ m ∧ n.toInt64 < s.seq.toInt64) ∧
      (∀ n, (j.call (.compactThrough n)).2 =
          .dropped (m.filter fun s => decide (s.seq.toInt64 ≤ n.toInt64)).length ∧
        ∀ s, s ∈ standing (l ++ [.compactThrough n]) ↔ s ∈ m ∧ ¬s.seq.toInt64 ≤ n.toInt64) ∧
      (∃ n, j.call .latestSeq = (j, .number n) ∧ 0 ≤ n.toInt64 ∧
        (∀ s ∈ m, s.seq.toInt64 ≤ n.toInt64) ∧ (n = 0 ∨ n ∈ m.map Stored.seq)) ∧
      ∀ a b : UInt64, a.toNat < 2 ^ 63 → b.toNat < 2 ^ 63 →
        (a.toInt64 < b.toInt64 ↔ a < b) ∧ (a.toInt64 ≤ b.toInt64 ↔ a ≤ b) := by
  intro j m
  have h : j.Holds m := holds_standing l
  have hlater : ∀ c, standing (l ++ [c]) = c.leave m := fun c => List.foldl_concat _ _ _ _
  refine ⟨h.nodup, fun batch => ?_, fun n => ?_, fun n => ?_, ?_, fun a b ha hb => ?_⟩
  · rw [hlater, call, Call.leave]
    split
    · rename_i hb
      obtain ⟨j', hj', -⟩ := h.append hb
      exact ⟨j', by rw [hj'], if_pos hb⟩
    · rename_i hb
      exact ⟨by rw [h.append_of_not_joins hb], if_neg hb⟩
  · obtain ⟨found, hfound, hordered, hmem⟩ := h.loadAfter n
    exact ⟨found, by rw [call, hfound], hordered, hmem⟩
  · refine ⟨congrArg Reply.dropped (h.compactThrough n).2, fun s => ?_⟩
    rw [hlater, Call.leave, List.mem_filter, decide_eq_true_iff, Int64.not_le]
  · exact ⟨j.latestSeq, rfl, h.latestSeq⟩
  · refine ⟨toInt64_lt_iff ha hb, ?_⟩
    rw [← Int64.not_lt, toInt64_lt_iff hb ha, UInt64.not_lt]

/-- The largest number is that of the signed word -1, so a compaction through 0 drops it.  The
second batch repeats a number and adds nothing. -/
example : standing [
    .append [⟨18446744073709551615, 0, ⟨"K1AR", "CQZONE", "5"⟩⟩, ⟨3, 0, ⟨"W1AW", "CQZONE", "5"⟩⟩],
    .append [⟨4, 0, ⟨"K1AR", "CQZONE", "4"⟩⟩, ⟨3, 0, ⟨"W1AW", "CQZONE", "4"⟩⟩],
    .compactThrough 0] = [⟨3, 0, ⟨"W1AW", "CQZONE", "5"⟩⟩] := by
  decide

end Journal

end ContestExchange
