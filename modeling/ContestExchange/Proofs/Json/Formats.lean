import ContestExchange.Proofs.Contest.Format
import ContestExchange.Proofs.Journal.Format

/-!
# Formats and their versions

What is stored and what is exchanged is read back as it was written
(`formats_read_back`).  Observations and snapshots name the version of their format
beside them, and whoever reads one looks at the version first.  What a text names as
its version is told without the rest of it being read (`claimedVersion?`), and unless
that is the natural number of this library's version the text is refused, be the
version another number, no number at all, missing or there twice.
-/

namespace ContestExchange

open Json

namespace Json

/-- What stands for the version in a text that should be a version and some part. -/
def claimedVersion? (part : String) (bytes : List UInt8) : Option Json := do
  let v ← parse bytes
  let f ← fields? ["format_version", part] v
  f.found.lookup "format_version"

theorem eq_natural_of_word16? {v : Json} {n : UInt16} (h : word16? v = some n) :
    v = .natural n.toNat := by
  obtain ⟨m, hm, rfl⟩ := Option.map_eq_some_iff.1 h
  cases v with
  | natural k =>
    rw [natBelow?] at hm
    split at hm
    · rename_i hk
      obtain rfl := Option.some.inj hm
      exact congrArg Json.natural (Nat.mod_eq_of_lt hk).symm
    · cases hm
  | _ => cases hm

theorem claimedVersion?_of_required {part : String} {bytes : List UInt8} {v : Json} {f : Fields}
    {version : UInt16} (hv : parse bytes = some v) (hf : fields? ["format_version", part] v = some f)
    (hn : f.required "format_version" word16? = some version) :
    claimedVersion? part bytes = some (.natural version.toNat) := by
  have hc : claimedVersion? part bytes = f.found.lookup "format_version" := by
    simp only [claimedVersion?, hv, hf, Option.bind_eq_bind, Option.bind_some]
  rw [Fields.required] at hn
  split at hn
  · cases hn
  · rename_i w hw
    rw [hc, hw, eq_natural_of_word16? hn]

end Json

/-! ### Observations -/

theorem Envelope.claimedVersion?_of_decoder {bytes : List UInt8} {e : Envelope}
    (h : decodeBytes? Envelope.decoder bytes = some e) :
    claimedVersion? "stored" bytes = some (.natural e.version.toNat) := by
  obtain ⟨v, hv, hd⟩ := Option.bind_eq_some_iff.1 h
  simp only [decoder, Option.bind_eq_bind, Option.bind_eq_some_iff] at hd
  obtain ⟨f, hf, version, hn, stored, -, he⟩ := hd
  obtain rfl := Option.some.inj he
  exact claimedVersion?_of_required hv hf hn

/-- **A payload of another version is refused.** -/
theorem Stored.ofPayload_of_claimedVersion? {bytes : List UInt8}
    (h : claimedVersion? "stored" bytes ≠ some (.natural Envelope.supported.toNat)) :
    ∃ cause, Stored.ofPayload bytes = .error cause := by
  rw [Stored.ofPayload]
  cases he : decodeBytes? Envelope.decoder bytes with
  | none => exact ⟨_, rfl⟩
  | some e =>
    have hv : e.version ≠ Envelope.supported := by
      intro hv
      rw [Envelope.claimedVersion?_of_decoder he, hv] at h
      exact h rfl
    exact ⟨_, if_neg hv⟩

theorem Stored.ofPayload_encode_of_ne {e : Envelope} (h : e.version ≠ Envelope.supported) :
    Stored.ofPayload e.encode = .error (.unsupportedVersion e.version) := by
  rw [Stored.ofPayload, Envelope.encode,
    e.plain_toJson.decodeBytes?_write (Envelope.decoder_toJson e)]
  exact if_neg h

/-! ### Snapshots -/

theorem Snapshot.claimedVersion?_of_versionedDecoder {bytes : List UInt8} {p : UInt16 × Snapshot}
    (h : decodeBytes? Snapshot.versionedDecoder bytes = some p) :
    claimedVersion? "snapshot" bytes = some (.natural p.1.toNat) := by
  obtain ⟨v, hv, hd⟩ := Option.bind_eq_some_iff.1 h
  simp only [versionedDecoder, Option.bind_eq_bind, Option.bind_eq_some_iff] at hd
  obtain ⟨f, hf, version, hn, snapshot, -, he⟩ := hd
  obtain rfl := Option.some.inj he
  exact claimedVersion?_of_required hv hf hn

namespace Journal

/-- **A snapshot of another version is refused.** -/
theorem latestSnapshot?_of_claimedVersion? (j : Journal) {r : SnapshotRow}
    (h : claimedVersion? "snapshot" r.payload ≠ some (.natural Snapshot.supported.toNat)) :
    ∃ e, (j.insertSnapshot r).latestSnapshot? = .error e := by
  rw [latestSnapshot?, insertSnapshot]
  simp only
  cases hp : decodeBytes? Snapshot.versionedDecoder r.payload with
  | none => exact ⟨_, rfl⟩
  | some p =>
    have hv : p.1 ≠ Snapshot.supported := by
      intro hv
      rw [Snapshot.claimedVersion?_of_versionedDecoder hp, hv] at h
      exact h rfl
    exact ⟨_, if_neg hv⟩

theorem latestSnapshot?_versioned_of_ne (j : Journal) (seq : Int64) (s : Snapshot)
    {version : UInt16} (h : version ≠ Snapshot.supported) :
    (j.insertSnapshot ⟨seq, write (s.versioned version)⟩).latestSnapshot? =
      .error (.snapshotVersion version) := by
  rw [latestSnapshot?, insertSnapshot]
  simp only [(s.plain_versioned version).decodeBytes?_write (s.versionedDecoder_versioned version),
    if_neg h]

end Journal

/-! ### All formats -/

/-- **What is written is read back as it was, and no other version is read.**  This holds of every
observation, whatever its texts and numbers; of every snapshot, which is the newest of the journal
once it is written; of every exchange; and of every contest whose values stand in order, as those of
every contest that was read do.  A payload or a snapshot whose version is not the number of this
library's version is refused, and if nothing else is wrong with it the refusal names the version. -/
theorem formats_read_back :
    (∀ s : Stored, Stored.ofPayload (Envelope.of s).encode = .ok s) ∧
      (∀ (j : Journal) (s : Snapshot), (j.writeSnapshot s).latestSnapshot? = .ok (some s)) ∧
      (∀ x : Exchange, decodeBytes? Exchange.decoder (write x.toJson) = some x) ∧
      (∀ c : Contest, c.IsOrdered → decodeBytes? Contest.decoder (write c.toJson) = some c) ∧
      (∀ bytes c, decodeBytes? Contest.decoder bytes = some c → c.IsOrdered) ∧
      (∀ bytes, claimedVersion? "stored" bytes ≠ some (.natural Envelope.supported.toNat) →
        ∃ cause, Stored.ofPayload bytes = .error cause) ∧
      (∀ e : Envelope, e.version ≠ Envelope.supported →
        Stored.ofPayload e.encode = .error (.unsupportedVersion e.version)) ∧
      (∀ (j : Journal) (r : SnapshotRow),
        claimedVersion? "snapshot" r.payload ≠ some (.natural Snapshot.supported.toNat) →
        ∃ e, (j.insertSnapshot r).latestSnapshot? = .error e) ∧
      ∀ (j : Journal) (seq : Int64) (s : Snapshot) (version : UInt16),
        version ≠ Snapshot.supported →
        (j.insertSnapshot ⟨seq, write (s.versioned version)⟩).latestSnapshot? =
          .error (.snapshotVersion version) := by
  refine ⟨Stored.ofPayload_encode, Journal.latestSnapshot?_writeSnapshot, fun x => ?_, fun c hc => ?_,
    fun bytes c h => ?_, fun bytes => Stored.ofPayload_of_claimedVersion?,
    fun e => Stored.ofPayload_encode_of_ne, fun j r => j.latestSnapshot?_of_claimedVersion?,
    fun j seq s version => j.latestSnapshot?_versioned_of_ne seq s⟩
  · exact x.plain_toJson.decodeBytes?_write x.decoder_toJson
  · exact c.plain_toJson.decodeBytes?_write (Contest.decoder_toJson hc)
  · obtain ⟨v, -, hv⟩ := Option.bind_eq_some_iff.1 h
    exact Contest.isOrdered_of_decoder hv

/-- A country has values, in ascending order. -/
def Contest.provinces : Contest :=
  { Contest.empty with countryValues := Dictionary.empty.put "VE" ["ON", "QC"] }

/-- An observation in a format to come. -/
def Envelope.later : Envelope :=
  ⟨2, ⟨1, 0, ⟨"K1AR", "ITUZONE", "8"⟩⟩⟩

/-- The contest is read back, and what has a format to come is refused. -/
theorem formats_read_back_provinces :
    let row : SnapshotRow := ⟨0, write (Snapshot.versioned 2 ⟨0, []⟩)⟩
    Contest.provinces.IsOrdered ∧
      decodeBytes? Contest.decoder (write Contest.provinces.toJson) = some Contest.provinces ∧
      claimedVersion? "stored" Envelope.later.encode ≠ some (.natural Envelope.supported.toNat) ∧
      (∃ cause, Stored.ofPayload Envelope.later.encode = .error cause) ∧
      Stored.ofPayload Envelope.later.encode = .error (.unsupportedVersion 2) ∧
      claimedVersion? "snapshot" row.payload ≠ some (.natural Snapshot.supported.toNat) ∧
      (∃ e, (Journal.empty.insertSnapshot row).latestSnapshot? = .error e) ∧
      (Journal.empty.insertSnapshot row).latestSnapshot? = .error (.snapshotVersion 2) := by
  intro row
  obtain ⟨-, -, -, hcontest, -, hstored, hversion, hsnapshot, hsnapshotVersion⟩ := formats_read_back
  have hc : Contest.provinces.IsOrdered := by
    intro e he
    rw [List.mem_singleton.1 he]
    decide
  have hne : Envelope.later.version ≠ Envelope.supported := by decide
  have hs : claimedVersion? "stored" Envelope.later.encode = some (.natural 2) :=
    Envelope.claimedVersion?_of_decoder
      (Envelope.later.plain_toJson.decodeBytes?_write Envelope.later.decoder_toJson)
  have hr : claimedVersion? "snapshot" row.payload = some (.natural 2) :=
    Snapshot.claimedVersion?_of_versionedDecoder
      ((Snapshot.plain_versioned 2 _).decodeBytes?_write (Snapshot.versionedDecoder_versioned 2 _))
  have hsn : claimedVersion? "stored" Envelope.later.encode ≠
      some (.natural Envelope.supported.toNat) := by
    rw [hs]
    intro he
    exact absurd (Json.natural.inj (Option.some.inj he)) (by decide)
  have hrn : claimedVersion? "snapshot" row.payload ≠
      some (.natural Snapshot.supported.toNat) := by
    rw [hr]
    intro he
    exact absurd (Json.natural.inj (Option.some.inj he)) (by decide)
  exact ⟨hc, hcontest _ hc, hsn, hstored _ hsn, hversion _ hne, hrn, hsnapshot .empty row hrn,
    hsnapshotVersion .empty 0 _ 2 (by decide)⟩

end ContestExchange
