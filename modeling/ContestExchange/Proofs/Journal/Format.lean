import ContestExchange.Journal.Basic
import ContestExchange.Proofs.Json.RoundTrip

/-!
# What a journal holds can be read back

Whatever the bytes of an observation or of a snapshot are written from is what
they are read as (`Stored.ofPayload_encode`, `Journal.latestSnapshot?_writeSnapshot`).
The JSON of either is plain, so only the decoders are left to look at, and on a
record that is written in the order of its fields they find one after the other.
-/

namespace ContestExchange

open Json

/-! ### Numbers -/

theorem Json.word64?_natural (n : UInt64) : word64? (.natural n.toNat) = some n := by
  rw [word64?, natBelow?, if_pos n.toNat_lt_size]
  simp

theorem Json.word16?_natural (n : UInt16) : word16? (.natural n.toNat) = some n := by
  rw [word16?, natBelow?, if_pos n.toNat_lt_size]
  simp

/-! ### Observations -/

theorem Observation.decoder_toJson (o : Observation) : Observation.decoder o.toJson = some o := rfl

theorem Observation.plain_toJson (o : Observation) : Plain o.toJson := by
  refine .record _ ?_
  simp only [List.forall_mem_cons]
  exact ⟨.text o.call, .text o.field, .text o.value, List.forall_mem_nil _⟩

theorem Stored.decoder_toJson (s : Stored) : Stored.decoder s.toJson = some s := by
  have h : Stored.decoder s.toJson = (do
      let seq ← word64? (.natural s.seq.toNat)
      let time ← word64? (.natural s.time.toNat)
      let observation ← Observation.decoder s.observation.toJson
      return ⟨seq, time, observation⟩) := rfl
  rw [h, word64?_natural, word64?_natural, Observation.decoder_toJson]
  rfl

theorem Stored.plain_toJson (s : Stored) : Plain s.toJson := by
  refine .record _ ?_
  simp only [List.forall_mem_cons]
  exact ⟨.natural s.seq.toNat, .natural s.time.toNat, s.observation.plain_toJson,
    List.forall_mem_nil _⟩

theorem Envelope.decoder_toJson (e : Envelope) : Envelope.decoder e.toJson = some e := by
  have h : Envelope.decoder e.toJson = (do
      let version ← word16? (.natural e.version.toNat)
      let stored ← Stored.decoder e.stored.toJson
      return ⟨version, stored⟩) := rfl
  rw [h, word16?_natural, Stored.decoder_toJson]
  rfl

theorem Envelope.plain_toJson (e : Envelope) : Plain e.toJson := by
  refine .record _ ?_
  simp only [List.forall_mem_cons]
  exact ⟨.natural e.version.toNat, e.stored.plain_toJson, List.forall_mem_nil _⟩

/-- **An observation is read back from its bytes.** -/
theorem Stored.ofPayload_encode (s : Stored) :
    Stored.ofPayload (Envelope.of s).encode = .ok s := by
  rw [Stored.ofPayload, Envelope.encode,
    (Envelope.of s).plain_toJson.decodeBytes?_write (Envelope.decoder_toJson _)]
  rfl

/-! ### Snapshots -/

theorem Snapshot.decoder_toJson (s : Snapshot) : Snapshot.decoder s.toJson = some s := by
  have h : Snapshot.decoder s.toJson = (do
      let lastSeq ← word64? (.natural s.lastSeq.toNat)
      let observations ←
        list? Observation.decoder (.array (s.observations.map Observation.toJson))
      return ⟨lastSeq, observations⟩) := rfl
  rw [h, word64?_natural, list?_map Observation.decoder_toJson]
  rfl

theorem Snapshot.plain_toJson (s : Snapshot) : Plain s.toJson := by
  refine .record _ ?_
  simp only [List.forall_mem_cons]
  exact ⟨.natural s.lastSeq.toNat, .list Observation.plain_toJson s.observations,
    List.forall_mem_nil _⟩

/-- A snapshot with a version of its format. -/
def Snapshot.versioned (version : UInt16) (s : Snapshot) : Json :=
  .record [("format_version", .natural version.toNat), ("snapshot", s.toJson)]

theorem Snapshot.plain_versioned (version : UInt16) (s : Snapshot) : Plain (s.versioned version) := by
  refine .record _ ?_
  simp only [List.forall_mem_cons]
  exact ⟨.natural version.toNat, s.plain_toJson, List.forall_mem_nil _⟩

theorem Snapshot.versionedDecoder_versioned (version : UInt16) (s : Snapshot) :
    Snapshot.versionedDecoder (s.versioned version) = some (version, s) := by
  have h : Snapshot.versionedDecoder (s.versioned version) = (do
      let version ← word16? (.natural version.toNat)
      let snapshot ← Snapshot.decoder s.toJson
      return (version, snapshot)) := rfl
  rw [h, word16?_natural, Snapshot.decoder_toJson]
  rfl

/-- **A snapshot is read back from its bytes**, with the version of this library. -/
theorem Snapshot.decodeBytes?_encode (s : Snapshot) :
    decodeBytes? Snapshot.versionedDecoder s.encode = some (Snapshot.supported, s) :=
  (s.plain_versioned supported).decodeBytes?_write (s.versionedDecoder_versioned supported)

namespace Journal

theorem latestSnapshot?_writeSnapshot (j : Journal) (s : Snapshot) :
    (j.writeSnapshot s).latestSnapshot? = .ok (some s) := by
  rw [latestSnapshot?, writeSnapshot, insertSnapshot]
  simp only [Snapshot.decodeBytes?_encode, if_true]

/-- The row of an observation is read as this observation, with its number and time. -/
theorem readRow_of (s : Stored) :
    readRow (s.seq.toInt64, ⟨s.time.toInt64, (Envelope.of s).encode⟩) = .ok s := by
  rw [readRow]
  simp only [Stored.ofPayload_encode]
  simp

end Journal

end ContestExchange
