import ContestExchange.Proofs.Guess.Snapshot
import ContestExchange.Proofs.Journal.Format
import ContestExchange.Proofs.Text.Words

/-!
# Restoring and setting

There are two ways for a heard value into a guess book: `Book.set` writes it under
the normal form of the callsign, and `Book.restore` writes an observation under its
callsign as it stands.  They agree on observations whose callsigns are in normal
form (`restore_eq_setAll`), and a logged exchange tells no others
(`recordLogged_eq_setAll`).

Observations that are decoded from a journal, or from any JSON, may have any
callsign.  Whoever asks a book asks for a normal form, so what is restored under
another callsign is never found (`cached?_restore`), and only the snapshot and the
size of the book show it.
-/

namespace ContestExchange

/-- Dictionaries that say the same of every key are of one size. -/
theorem Dictionary.size_eq_of_get? {κ ν : Type} [DecidableEq κ] {d d' : Dictionary κ ν}
    (h : ∀ k, d.get? k = d'.get? k) : d.size = d'.size := by
  have hnodup : ∀ d : Dictionary κ ν, d.entries.Nodup := fun d =>
    List.Pairwise.of_map Prod.fst (fun _ _ hk he => hk (congrArg _ he)) d.nodup
  refine List.Perm.length_eq ((List.perm_ext_iff_of_nodup (hnodup d) (hnodup d')).2 fun e => ?_)
  rw [mem_entries_iff, mem_entries_iff, h]

theorem Callsign.normalize_normalize (call : String) : normalize (normalize call) = normalize call := by
  rw [normalize, normalize, Text.trim_upper, Text.trim_trim, Text.upper_upper]

namespace Observation

/-- The callsign is in normal form. -/
def IsNormal (o : Observation) : Prop :=
  Callsign.normalize o.call = o.call

instance : DecidablePred IsNormal :=
  fun o => inferInstanceAs (Decidable (Callsign.normalize o.call = o.call))

/-- The observation under the normal form of its callsign. -/
def normal (o : Observation) : Observation :=
  .of o.call o.field o.value

theorem isNormal_normal (o : Observation) : o.normal.IsNormal :=
  Callsign.normalize_normalize o.call

theorem IsNormal.normal_eq {o : Observation} (h : o.IsNormal) : o.normal = o := by
  rw [normal, of, h]

end Observation

theorem Entry.isNormal_of_mem_observations {e : Entry} {call : String} {o : Observation}
    (hc : Callsign.normalize call = call) (h : o ∈ e.observations call) : o.IsNormal := by
  have hcall : o.call = call := by
    rw [Entry.observations] at h
    split at h
    · cases h
    · split at h
      · rw [List.mem_singleton.1 h]
      · rcases List.mem_pair.1 h with rfl | rfl <;> rfl
  rw [Observation.IsNormal, hcall]
  exact hc

theorem Exchange.isNormal_of_mem_observations {x : Exchange} {call : String} {o : Observation}
    (h : o ∈ x.observations call) : o.IsNormal := by
  rw [observations] at h
  split at h
  · obtain ⟨e, -, he⟩ := List.mem_flatMap.1 h
    exact e.isNormal_of_mem_observations (Callsign.normalize_normalize _) he
  · cases h

namespace Book

/-- Sets the values of observations one after another. -/
def setAll (b : Book) (l : List Observation) : Book :=
  l.foldl (fun b o => b.set o.call o.field o.value) b

/-- The books answer all lookups alike, list the same values and are of one size. -/
structure Alike (b b' : Book) : Prop where
  cached? : ∀ call field, b.cached? call field = b'.cached? call field
  snapshot : b.snapshot = b'.snapshot
  size : b.size = b'.size

theorem Alike.refl (b : Book) : b.Alike b :=
  ⟨fun _ _ => rfl, rfl, rfl⟩

theorem alike_of_get? {b b' : Book} (h : ∀ key, b.notes.get? key = b'.notes.get? key) :
    b.Alike b' := by
  refine ⟨fun call field => ?_, snapshot_eq_of_heard? (funext fun key => ?_),
    Dictionary.size_eq_of_get? h⟩
  · rw [cached?, cached?, h]
  · rw [heard?, heard?, h]

/-- All that stands in a fresh book after observations are written was heard. -/
theorem get?_restore_ofSources (s : Sources) (l : List Observation) (key : String × String) :
    ((ofSources s).restore l).notes.get? key =
      (((ofSources s).restore l).heard? key).map fun v => ⟨v, true⟩ := by
  rw [get?_restore, heard?_restore, heard?_ofSources]
  cases (l.filter fun o => o.key = key).getLast? <;> rfl

theorem get?_restore_congr {b b' : Book} {key : String × String}
    (h : b.notes.get? key = b'.notes.get? key) (l : List Observation) :
    (b.restore l).notes.get? key = (b'.restore l).notes.get? key := by
  rw [get?_restore, get?_restore, h]

/-- A book of observations is written anew from its snapshot. -/
theorem get?_restore_snapshot (s : Sources) (l : List Observation) (key : String × String) :
    ((ofSources s).restore ((ofSources s).restore l).snapshot).notes.get? key =
      ((ofSources s).restore l).notes.get? key := by
  rw [get?_restore_ofSources, heard?_restore_snapshot, ← get?_restore_ofSources]

theorem setAll_eq_restore (b : Book) (l : List Observation) :
    b.setAll l = b.restore (l.map Observation.normal) := by
  simp only [setAll, restore, List.foldl_map, set_eq_note, Observation.normal]

theorem restore_eq_setAll (b : Book) {l : List Observation} (h : ∀ o ∈ l, o.IsNormal) :
    b.restore l = b.setAll l := by
  rw [setAll_eq_restore, List.map_congr_left fun o ho => (h o ho).normal_eq, List.map_id']

/-- **Recording a logged exchange is setting what it tells.** -/
theorem recordLogged_eq_setAll (b : Book) (call : String) (x : Exchange) :
    b.recordLogged call x = b.setAll (x.observations call) :=
  b.restore_eq_setAll fun _ ho => Exchange.isNormal_of_mem_observations ho

/-! ### Callsigns that are not in normal form -/

theorem cached?_note (b : Book) (o : Observation) (call field : String) :
    (b.note o).cached? call field =
      if (Callsign.normalize call, field) = o.key then some o.value else b.cached? call field := by
  rw [cached?, note, Dictionary.get?_put]
  split <;> rfl

/-- What is written under a callsign that is not in normal form is never found. -/
theorem cached?_note_of_not_isNormal (b : Book) {o : Observation} (h : ¬o.IsNormal)
    (call field : String) : (b.note o).cached? call field = b.cached? call field := by
  rw [cached?_note, if_neg]
  intro hk
  have hc : Callsign.normalize call = o.call := (Prod.ext_iff.1 hk).1
  rw [Observation.IsNormal, ← hc] at h
  exact h (Callsign.normalize_normalize call)

/-- **Of what is restored, lookups find the observations under normal callsigns**, as if these
and no others had been set. -/
theorem cached?_restore (b : Book) (l : List Observation) :
    (b.restore l).cached? = (b.setAll (l.filter fun o => o.IsNormal)).cached? := by
  rw [← restore_eq_setAll _ fun o ho => by simpa using (List.mem_filter.1 ho).2]
  -- The two books differ in what lookups do not find, so the induction is on books that answer
  -- alike.
  suffices h : ∀ b b' : Book, b.cached? = b'.cached? →
      (b.restore l).cached? = (b'.restore (l.filter fun o => o.IsNormal)).cached? from h b b rfl
  induction l with
  | nil => exact fun b b' h => h
  | cons o r ih =>
    intro b b' h
    by_cases ho : o.IsNormal
    · rw [List.filter_cons_of_pos (by simpa using ho)]
      refine ih (b.note o) (b'.note o) (funext₂ fun call field => ?_)
      rw [cached?_note, cached?_note, h]
    · rw [List.filter_cons_of_neg (by simpa using ho)]
      refine ih (b.note o) b' (funext₂ fun call field => ?_)
      rw [cached?_note_of_not_isNormal b ho, h]

theorem mem_keys_snapshot_restore_iff (s : Sources) (l : List Observation) (key : String × String) :
    key ∈ ((ofSources s).restore l).snapshot.map Observation.key ↔ key ∈ l.map Observation.key := by
  have h := mem_keys_snapshot_uses_iff s [.restore l] key
  rwa [List.flatMap_singleton] at h

theorem isNormal_of_alike_setAll {s : Sources} {l : List Observation}
    (h : Alike ((ofSources s).restore l) ((ofSources s).setAll l)) : ∀ o ∈ l, o.IsNormal := by
  intro o ho
  have hk : o.key ∈ ((ofSources s).restore l).snapshot.map Observation.key :=
    (mem_keys_snapshot_restore_iff s l o.key).2 (List.mem_map_of_mem ho)
  rw [h.snapshot, setAll_eq_restore, mem_keys_snapshot_restore_iff] at hk
  obtain ⟨p, hp, hpk⟩ := List.mem_map.1 hk
  obtain ⟨q, -, rfl⟩ := List.mem_map.1 hp
  have hc : q.normal.call = o.call := (Prod.ext_iff.1 hpk).1
  rw [Observation.IsNormal, ← hc]
  exact q.isNormal_normal

/-- **Restoring is setting one value after another exactly for normal callsigns.**  Restoring counts
the observations.  Lookups then answer as if those under normal callsigns had been set, one after
another; and whatever the book, it is left as if all of them had been set if and only if all the
callsigns are in normal form. -/
theorem restoreCounting_alike_setAll (l : List Observation) :
    (∀ b : Book, (b.restoreCounting l).2 = l.length) ∧
      (∀ b : Book, (b.restoreCounting l).1.cached? =
        (b.setAll (l.filter fun o => o.IsNormal)).cached?) ∧
      ((∀ b : Book, Alike (b.restoreCounting l).1 (b.setAll l)) ↔ ∀ o ∈ l, o.IsNormal) := by
  simp only [restoreCounting_eq]
  refine ⟨fun _ => trivial, fun b => b.cached?_restore l, fun h => ?_, fun h b => ?_⟩
  · exact isNormal_of_alike_setAll (h (ofSources .empty))
  · rw [b.restore_eq_setAll h]
    exact .refl _

/-- An observation in small letters can be read from a journal; restored into an empty book it is
not found, and the snapshot lists it under another callsign than if it is set. -/
theorem not_alike_restoreCounting_small :
    let o : Observation := ⟨"k1ar", "ITUZONE", "8"⟩
    let b := ofSources .empty
    Stored.ofPayload (Envelope.of ⟨1, 0, o⟩).encode = .ok ⟨1, 0, o⟩ ∧
      (b.restoreCounting [o]).1.cached? "k1ar" "ITUZONE" = none ∧
      (b.setAll [o]).cached? "k1ar" "ITUZONE" = some "8" ∧
      ¬Alike (b.restoreCounting [o]).1 (b.setAll [o]) := by
  intro o b
  have hr : (b.restoreCounting [o]).1.cached? "k1ar" "ITUZONE" = none := by decide +kernel
  have hs : (b.setAll [o]).cached? "k1ar" "ITUZONE" = some "8" := by decide +kernel
  refine ⟨Stored.ofPayload_encode _, hr, hs, fun h => ?_⟩
  rw [h.cached?, hs] at hr
  cases hr

end Book

end ContestExchange
