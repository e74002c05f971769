import Mathlib.Data.List.Nodup
import ContestExchange.Guess.Book

/-!
# What was heard

Of all that stands in a guess book only the heard values outlive a session.
`Book.heard?` is the book with the guesses taken away; of several observations of a
key the last one stands in it (`heard?_restore`).  A `snapshot` lists what it holds:
two books with the same heard values have the same snapshot
(`snapshot_eq_of_heard?`), and a snapshot written into a fresh book gives the
heard values back (`heard?_restore_snapshot`).
-/

namespace ContestExchange

namespace Observation

/-! ### The order -/

theorem precedes_total (o p : Observation) : (o.precedes p || p.precedes o) = true := by
  rw [Bool.or_eq_true]
  by_cases hc : o.call = p.call
  · by_cases hf : o.field = p.field
    · rcases String.le_total o.value p.value with h | h
      · exact .inl (by simp [precedes, hc, hf, h])
      · exact .inr (by simp [precedes, hc, hf, h])
    · rcases String.le_total o.field p.field with h | h
      · exact .inl (by simp [precedes, hc, hf, h])
      · exact .inr (by simp [precedes, hc, Ne.symm hf, h])
  · rcases String.le_total o.call p.call with h | h
    · exact .inl (by simp [precedes, hc, h])
    · exact .inr (by simp [precedes, Ne.symm hc, h])

/-- The order compares three texts, the first that differ deciding. -/
theorem precedes_iff (o p : Observation) : o.precedes p = true ↔
    o.call ≤ p.call ∧ (o.call = p.call → o.field ≤ p.field ∧
      (o.field = p.field → o.value ≤ p.value)) := by
  unfold precedes
  split
  · rename_i hc
    split
    · rename_i hf
      simp [hc, hf]
    · rename_i hf
      simp [hc, hf]
  · rename_i hc
    simp [hc]

theorem precedes_antisymm {o p : Observation} (h : o.precedes p = true)
    (h' : p.precedes o = true) : o = p := by
  rw [precedes_iff] at h h'
  have hc := String.le_antisymm h.1 h'.1
  have hf := String.le_antisymm (h.2 hc).1 (h'.2 hc.symm).1
  have hv := String.le_antisymm ((h.2 hc).2 hf) ((h'.2 hc.symm).2 hf.symm)
  cases o; cases p
  simp_all

theorem precedes_trans (o p q : Observation) (h : o.precedes p = true)
    (h' : p.precedes q = true) : o.precedes q = true := by
  rw [precedes_iff] at h h' ⊢
  refine ⟨String.le_trans h.1 h'.1, fun hc => ?_⟩
  have hp : o.call = p.call := String.le_antisymm h.1 (hc ▸ h'.1)
  obtain ⟨hf, hv⟩ := h.2 hp
  obtain ⟨hf', hv'⟩ := h'.2 (hp ▸ hc)
  refine ⟨String.le_trans hf hf', fun he => ?_⟩
  have hpf : o.field = p.field := String.le_antisymm hf (he ▸ hf')
  exact String.le_trans (hv hpf) (hv' (hpf ▸ he))

theorem pairwise_sort (l : List Observation) :
    (sort l).Pairwise fun o p => o.precedes p = true :=
  List.pairwise_mergeSort precedes_trans precedes_total l

end Observation

namespace Book

/-! ### The heard values -/

/-- What a station was heard to send in a field. -/
def heard? (b : Book) (key : String × String) : Option String :=
  (b.notes.get? key).bind fun n => if n.isObserved then some n.value else none

theorem heard?_ofSources (s : Sources) (key : String × String) : (ofSources s).heard? key = none :=
  rfl

theorem get?_of_heard? {b : Book} {key : String × String} {v : String} (h : b.heard? key = some v) :
    b.notes.get? key = some ⟨v, true⟩ := by
  obtain ⟨⟨value, isObserved⟩, hg, hv⟩ := Option.bind_eq_some_iff.1 h
  cases isObserved with
  | false => cases hv
  | true =>
    obtain rfl : value = v := Option.some.inj hv
    exact hg

theorem sources_restore (b : Book) (l : List Observation) :
    (b.restore l).sources = b.sources := by
  induction l generalizing b with
  | nil => rfl
  | cons o r ih => exact ih (b.note o)

theorem heard?_note (b : Book) (o : Observation) (key : String × String) :
    (b.note o).heard? key = if key = o.key then some o.value else b.heard? key := by
  rw [heard?, note, Dictionary.get?_put]
  split <;> rfl

theorem mem_of_getLast?_filter {l : List Observation} {key : String × String} {p : Observation}
    (h : (l.filter fun o => o.key = key).getLast? = some p) : p ∈ l ∧ p.key = key := by
  simpa using List.mem_filter.1 (List.mem_of_getLast? h)

theorem exists_getLast?_filter {l : List Observation} {o : Observation} (h : o ∈ l) :
    ∃ p, (l.filter fun q => q.key = o.key).getLast? = some p := by
  have hne : (l.filter fun q => q.key = o.key) ≠ [] :=
    List.ne_nil_of_mem (List.mem_filter.2 ⟨h, by simp⟩)
  exact ⟨_, List.getLast?_eq_some_getLast hne⟩

/-- Of several observations of a key the last one stands in the book; other keys stay as they
were. -/
theorem get?_restore (b : Book) (l : List Observation) (key : String × String) :
    (b.restore l).notes.get? key =
      ((l.filter fun o => o.key = key).getLast?.map fun o => ⟨o.value, true⟩).or
        (b.notes.get? key) := by
  induction l generalizing b with
  | nil => rfl
  | cons o r ih =>
    refine (ih (b.note o)).trans ?_
    rw [note, Dictionary.get?_put, List.filter_cons]
    by_cases hk : o.key = key
    · rw [if_pos hk.symm, if_pos (decide_eq_true hk), List.getLast?_cons]
      cases (r.filter fun o => o.key = key).getLast? <;> rfl
    · rw [if_neg (Ne.symm hk), if_neg (by simpa using hk)]

/-- **Of several observations of a key the last one was heard.** -/
theorem heard?_restore (b : Book) (l : List Observation) (key : String × String) :
    (b.restore l).heard? key =
      ((l.filter fun o => o.key = key).getLast?.map Observation.value).or (b.heard? key) := by
  rw [heard?, get?_restore]
  cases (l.filter fun o => o.key = key).getLast? <;> rfl

theorem heard?_restore_congr {b b' : Book} (h : b.heard? = b'.heard?) (l : List Observation) :
    (b.restore l).heard? = (b'.restore l).heard? := by
  funext key
  rw [heard?_restore, heard?_restore, h]

theorem get?_restore_of_notMem (b : Book) {l : List Observation} {key : String × String}
    (h : key ∉ l.map Observation.key) : (b.restore l).notes.get? key = b.notes.get? key := by
  have hnil : (l.filter fun o => o.key = key) = [] := by
    refine List.filter_eq_nil_iff.2 fun o ho hk => h ?_
    rw [← of_decide_eq_true hk]
    exact List.mem_map_of_mem ho
  rw [get?_restore, hnil]
  rfl

theorem heard?_restore_of_notMem (b : Book) {l : List Observation} {key : String × String}
    (h : key ∉ l.map Observation.key) : (b.restore l).heard? key = b.heard? key := by
  rw [heard?, b.get?_restore_of_notMem h, heard?]

theorem heard?_restore_of_mem (b : Book) {l : List Observation}
    (hn : (l.map Observation.key).Nodup) {o : Observation} (ho : o ∈ l) :
    (b.restore l).heard? o.key = some o.value := by
  obtain ⟨p, hp⟩ := exists_getLast?_filter ho
  obtain ⟨hpl, hpk⟩ := mem_of_getLast?_filter hp
  obtain rfl : p = o := List.inj_on_of_nodup_map hn hpl ho hpk
  rw [heard?_restore, hp]
  rfl

/-! ### Snapshots -/

theorem observation?_eq_some {e : (String × String) × Noted} {o : Observation} :
    observation? e = some o ↔ e = (o.key, ⟨o.value, true⟩) := by
  obtain ⟨⟨call, field⟩, ⟨value, isObserved⟩⟩ := e
  obtain ⟨c, f, v⟩ := o
  cases isObserved with
  | false => simp [observation?, Observation.key]
  | true => simp [observation?, Observation.key, and_assoc]

theorem mem_snapshot_iff (b : Book) (o : Observation) :
    o ∈ b.snapshot ↔ b.heard? o.key = some o.value := by
  rw [snapshot, Observation.sort, List.mem_mergeSort, List.mem_filterMap]
  constructor
  · rintro ⟨e, he, hs⟩
    rw [observation?_eq_some.1 hs, Dictionary.mem_entries_iff] at he
    rw [heard?, he]; rfl
  · intro h
    exact ⟨_, (Dictionary.mem_entries_iff _ _ _).2 (get?_of_heard? h), observation?_eq_some.2 rfl⟩

theorem nodup_keys_snapshot (b : Book) : (b.snapshot.map Observation.key).Nodup := by
  have hk : (b.notes.entries.filterMap observation?).map Observation.key =
      (b.notes.entries.filter fun e => e.2.isObserved).map Prod.fst := by
    generalize b.notes.entries = l
    induction l with
    | nil => rfl
    | cons e r ih =>
      obtain ⟨⟨call, field⟩, ⟨value, isObserved⟩⟩ := e
      cases isObserved with
      | false => simpa [observation?] using ih
      | true => simpa [observation?, Observation.key] using ih
  rw [snapshot, Observation.sort, ((List.mergeSort_perm _ _).map Observation.key).nodup_iff, hk]
  exact b.notes.nodup.sublist (List.filter_sublist.map Prod.fst)

/-- **The heard values determine the snapshot.** -/
theorem snapshot_eq_of_heard? {b b' : Book} (h : b.heard? = b'.heard?) :
    b.snapshot = b'.snapshot := by
  have hn : ∀ b : Book, b.snapshot.Nodup := fun b =>
    List.Pairwise.of_map Observation.key (fun _ _ hk he => hk (congrArg _ he)) b.nodup_keys_snapshot
  have hp : b.snapshot.Perm b'.snapshot := by
    refine (List.perm_ext_iff_of_nodup (hn b) (hn b')).2 fun o => ?_
    rw [mem_snapshot_iff, mem_snapshot_iff, h]
  exact hp.eq_of_pairwise (fun o p _ _ => Observation.precedes_antisymm)
    (Observation.pairwise_sort _) (Observation.pairwise_sort _)

/-- **A snapshot holds all that was heard**: written into a fresh book it gives the heard
values back. -/
theorem heard?_restore_snapshot (s : Sources) (b : Book) :
    ((ofSources s).restore b.snapshot).heard? = b.heard? := by
  funext key
  cases hb : b.heard? key with
  | none =>
    refine (heard?_restore_of_notMem _ fun hk => ?_).trans (heard?_ofSources s key)
    obtain ⟨o, ho, rfl⟩ := List.mem_map.1 hk
    rw [(mem_snapshot_iff b o).1 ho] at hb
    cases hb
  | some v =>
    exact heard?_restore_of_mem _ b.nodup_keys_snapshot
      ((mem_snapshot_iff b ⟨key.1, key.2, v⟩).2 hb)

end Book

end ContestExchange
