import ContestExchange.Proofs.Journal.Written

/-!
# What a replay reads

A replay reads the newest snapshot and the rows above the number that it covers, in
ascending order, and nothing else (`replay_exact`).  The bytes of a row or a snapshot may be
anything: a row that is out of reach is not looked at, and one that is read has an
observation (`Row.observation?`) or makes the replay fail.  What was written into the book
by then is what the snapshot lists, or nothing.
-/

namespace ContestExchange

/-- The observation of a row, if its payload is one in the version that is read. -/
def Row.observation? (r : Row) : Option Observation :=
  (Json.decodeBytes? Envelope.decoder r.payload).bind fun e =>
    if e.version = Envelope.supported then some e.stored.observation else none

/-- The snapshot of a row, if its payload is one in the version that is read. -/
def SnapshotRow.snapshot? (r : SnapshotRow) : Option Snapshot :=
  (Json.decodeBytes? Snapshot.versionedDecoder r.payload).bind fun p =>
    if p.1 = Snapshot.supported then some p.2 else none

theorem Stored.observation?_row (s : Stored) : s.row.2.observation? = some s.observation := by
  rw [Row.observation?, Stored.row, Envelope.encode,
    (Envelope.of s).plain_toJson.decodeBytes?_write (Envelope.decoder_toJson _)]
  rfl

theorem SnapshotRow.snapshot?_encode (n : Int64) (s : Snapshot) :
    (⟨n, s.encode⟩ : SnapshotRow).snapshot? = some s := by
  rw [snapshot?, Snapshot.decodeBytes?_encode]
  rfl

namespace Journal

variable {j : Journal} {seq : Int64} {l l' : List (Int64 × Row)} {e : Int64 × Row}
  {o : Observation} {s : Snapshot}

/-! ### The rows above a number -/

/-- The rows with a number above `seq`, in ascending order. -/
structure RowsAbove (j : Journal) (seq : Int64) (l : List (Int64 × Row)) : Prop where
  mem_iff : ∀ e, e ∈ l ↔ j.rows.get? e.1 = some e.2 ∧ seq < e.1
  ascending : l.Pairwise fun a b => a.1 < b.1

theorem RowsAbove.eq (h : j.RowsAbove seq l) (h' : j.RowsAbove seq l') : l = l' := by
  have hnodup : ∀ {l : List (Int64 × Row)}, l.Pairwise (fun a b => a.1 < b.1) → l.Nodup := by
    intro l hl
    refine hl.imp fun {a b} hab he => ?_
    rw [he] at hab
    exact Int64.lt_irrefl hab
  have hperm : l.Perm l' := by
    refine (List.perm_ext_iff_of_nodup (hnodup h.ascending) (hnodup h'.ascending)).2 fun e => ?_
    rw [h.mem_iff, h'.mem_iff]
  refine hperm.eq_of_pairwise (fun a b _ _ hab hba => ?_) h.ascending h'.ascending
  exact absurd (Int64.lt_trans hab hba) Int64.lt_irrefl

theorem rowsAbove_rowsAfter (j : Journal) (seq : Int64) : j.RowsAbove seq (j.rowsAfter seq) := by
  refine ⟨fun e => ?_, ?_⟩
  · rw [mem_rowsAfter, ← Dictionary.mem_entries_iff]
  · have hkeys : ((j.rowsAfter seq).map Prod.fst).Nodup := by
      rw [((j.perm_rowsAfter seq).map Prod.fst).nodup_iff]
      exact j.rows.nodup.sublist (List.filter_sublist.map Prod.fst)
    refine ((j.pairwise_rowsAfter seq).and (List.pairwise_map.1 hkeys)).imp fun h => ?_
    exact Std.lt_of_le_of_ne h.1 h.2

theorem rowsAfter_congr {j' : Journal} (h : ∀ k, seq < k → j'.rows.get? k = j.rows.get? k) :
    j'.rowsAfter seq = j.rowsAfter seq := by
  refine (j'.rowsAbove_rowsAfter seq).eq ⟨fun e => ?_, (j.rowsAbove_rowsAfter seq).ascending⟩
  rw [(j.rowsAbove_rowsAfter seq).mem_iff]
  refine and_congr_left fun hk => ?_
  rw [h e.1 hk]

/-! ### Reading rows -/

theorem readRow_of_eq_some (h : e.2.observation? = some o) :
    readRow e = .ok ⟨e.1.toUInt64, e.2.time.toUInt64, o⟩ := by
  obtain ⟨env, hd, ho⟩ := Option.bind_eq_some_iff.1 h
  split at ho
  · rename_i hversion
    obtain rfl := Option.some.inj ho
    simp only [readRow, Stored.ofPayload, hd, hversion, if_true]
  · cases ho

theorem readRow_of_eq_none (h : e.2.observation? = none) : ∃ err, readRow e = .error err := by
  rw [Row.observation?] at h
  cases hd : Json.decodeBytes? Envelope.decoder e.2.payload with
  | none => exact ⟨_, by simp only [readRow, Stored.ofPayload, hd]; rfl⟩
  | some env =>
    rw [hd, Option.bind_some] at h
    split at h
    · cases h
    · rename_i hversion
      exact ⟨_, by simp only [readRow, Stored.ofPayload, hd, hversion, if_false]; rfl⟩

/-- **Rows that all have observations are read**, with their own numbers. -/
theorem mapM_readRow_of_ne_none (h : ∀ e ∈ l, e.2.observation? ≠ none) :
    ∃ tail, l.mapM readRow = .ok tail ∧
      tail.map Stored.observation = l.filterMap (fun e => e.2.observation?) ∧
      tail.map Stored.seq = l.map fun e => e.1.toUInt64 := by
  induction l with
  | nil => exact ⟨[], rfl, rfl, rfl⟩
  | cons e r ih =>
    obtain ⟨o, ho⟩ := Option.ne_none_iff_exists'.1 (h e List.mem_cons_self)
    obtain ⟨tail, ht, hobs, hseq⟩ := ih fun e' he => h e' (List.mem_cons_of_mem e he)
    refine ⟨⟨e.1.toUInt64, e.2.time.toUInt64, o⟩ :: tail, ?_, ?_, ?_⟩
    · rw [List.mapM_cons, readRow_of_eq_some ho, ht]
      rfl
    · simp only [List.map_cons, hobs, List.filterMap_cons, ho]
    · rw [List.map_cons, hseq, List.map_cons]

/-- **One row without an observation is enough to read none.** -/
theorem mapM_readRow_of_eq_none (he : e ∈ l) (h : e.2.observation? = none) :
    ∃ err, l.mapM readRow = .error err := by
  induction l with
  | nil => cases he
  | cons a r ih =>
    rw [List.mapM_cons]
    cases ha : readRow a with
    | error err => exact ⟨err, rfl⟩
    | ok stored =>
      rcases List.mem_cons.1 he with rfl | he
      · obtain ⟨err, herr⟩ := readRow_of_eq_none h
        rw [ha] at herr
        cases herr
      · obtain ⟨err, herr⟩ := ih he
        rw [herr]
        exact ⟨err, rfl⟩

/-! ### Where a replay starts -/

/-- A replay starts from the newest snapshot, and from an empty one if there is none. -/
def StartsFrom (j : Journal) (s : Snapshot) : Prop :=
  j.snapshots = [] ∧ s = ⟨0, []⟩ ∨
    ∃ r older, j.snapshots = r :: older ∧ r.snapshot? = some s

theorem StartsFrom.newest (h : j.StartsFrom s) : j.newest = .ok s := by
  rcases h with ⟨hnil, rfl⟩ | ⟨r, older, hcons, hr⟩
  · rw [Journal.newest, latestSnapshot?, hnil]
    rfl
  · obtain ⟨p, hd, hp⟩ := Option.bind_eq_some_iff.1 hr
    split at hp
    · rename_i hversion
      obtain rfl := Option.some.inj hp
      rw [Journal.newest, latestSnapshot?, hcons]
      simp only [hd, hversion, if_true]
      rfl
    · cases hp

theorem latestSnapshot?_of_eq_none {r : SnapshotRow} {older : List SnapshotRow}
    (hcons : j.snapshots = r :: older) (h : r.snapshot? = none) :
    ∃ err, j.latestSnapshot? = .error err := by
  rw [SnapshotRow.snapshot?] at h
  rw [latestSnapshot?, hcons]
  cases hd : Json.decodeBytes? Snapshot.versionedDecoder r.payload with
  | none => exact ⟨_, by simp only [hd]; rfl⟩
  | some p =>
    rw [hd, Option.bind_some] at h
    split at h
    · cases h
    · rename_i hversion
      exact ⟨_, by simp only [hd, hversion, if_false]; rfl⟩

theorem replay_of_loadAfter_error {err : JournalError} (hs : j.newest = .ok s)
    (ht : j.loadAfter s.lastSeq = .error err) (b : Book) :
    j.replay b = (b.restore s.observations, .error err) := by
  rw [replay_of_newest hs, ht]

/-! ### The replay -/

/-- The book and the errors of a replay are told by the snapshots and the rows above. -/
theorem replay_congr {j' : Journal} (hs : j.StartsFrom s) (hsnap : j'.snapshots = j.snapshots)
    (hrows : ∀ k, s.lastSeq.toInt64 < k → j'.rows.get? k = j.rows.get? k) (b : Book) :
    (j'.replay b).1 = (j.replay b).1 ∧
      ∀ err, (j'.replay b).2 = .error err ↔ (j.replay b).2 = .error err := by
  have hs' : j'.StartsFrom s := by
    rw [StartsFrom, hsnap]
    exact hs
  have hload : j'.loadAfter s.lastSeq = j.loadAfter s.lastSeq := by
    rw [loadAfter, loadAfter, rowsAfter_congr hrows]
  cases ht : j.loadAfter s.lastSeq with
  | error err =>
    rw [replay_of_loadAfter_error hs.newest ht,
      replay_of_loadAfter_error hs'.newest (hload.trans ht)]
    exact ⟨rfl, fun _ => Iff.rfl⟩
  | ok tail =>
    rw [replay_eq hs.newest ht, replay_eq hs'.newest (hload.trans ht)]
    refine ⟨rfl, fun err => ?_⟩
    constructor <;> intro h <;> cases h

end Journal

end ContestExchange
