import ContestExchange.Observation

/-!
# What journals hold

A journal holds observations with their numbers, and now and then a snapshot of
all that was observed.  Either is written as a JSON object together with the
version of its format, and only the version of this library is read back.
-/

namespace ContestExchange

open Json

/-- An observation as it stands in a journal. -/
structure Stored where
  seq : UInt64
  /-- When it was logged, in milliseconds. -/
  time : UInt64
  observation : Observation
deriving DecidableEq

namespace Stored

def decoder : Decoder Stored := fun v => do
  let f ← fields? ["seq", "ts_ms", "observation"] v
  let seq ← f.required "seq" word64?
  let time ← f.required "ts_ms" word64?
  let observation ← f.required "observation" Observation.decoder
  return ⟨seq, time, observation⟩

def toJson (s : Stored) : Json :=
  .record [
    ("seq", .natural s.seq.toNat),
    ("ts_ms", .natural s.time.toNat),
    ("observation", s.observation.toJson)]

end Stored

/-- An observation with the version of its format. -/
structure Envelope where
  version : UInt16
  stored : Stored
deriving DecidableEq

namespace Envelope

/-- The version that is written and read. -/
def supported : UInt16 :=
  1

def of (s : Stored) : Envelope :=
  ⟨supported, s⟩

/-- Reads an envelope of any version. -/
def decoder : Decoder Envelope := fun v => do
  let f ← fields? ["format_version", "stored"] v
  let version ← f.required "format_version" word16?
  let stored ← f.required "stored" Stored.decoder
  return ⟨version, stored⟩

def toJson (e : Envelope) : Json :=
  .record [("format_version", .natural e.version.toNat), ("stored", e.stored.toJson)]

def encode (e : Envelope) : List UInt8 :=
  write e.toJson

end Envelope

/-- Why the payload of a row is no observation. -/
inductive PayloadError where
  | malformed
  | unsupportedVersion (version : UInt16)
deriving DecidableEq

namespace PayloadError

/-- What is told of a row.  The reader of payloads does not say where it fails, so the text
for a malformed one ends in front of the colon that the reason would follow. -/
def message : PayloadError → String
  | malformed => "observation payload decode failed"
  | unsupportedVersion version =>
    let v := toString version.toNat
    s!"unsupported observation format version: {v}"

end PayloadError

namespace Stored

def ofPayload (bytes : List UInt8) : Except PayloadError Stored :=
  match decodeBytes? Envelope.decoder bytes with
  | none => .error .malformed
  | some e => if e.version = Envelope.supported then .ok e.stored
    else .error (.unsupportedVersion e.version)

end Stored

/-- All that was observed up to some number. -/
structure Snapshot where
  /-- The number of the last observation that is covered. -/
  lastSeq : UInt64
  observations : List Observation
deriving DecidableEq

namespace Snapshot

def supported : UInt16 :=
  1

def decoder : Decoder Snapshot := fun v => do
  let f ← fields? ["last_seq", "observations"] v
  let lastSeq ← f.required "last_seq" word64?
  let observations ← f.required "observations" (list? Observation.decoder)
  return ⟨lastSeq, observations⟩

def toJson (s : Snapshot) : Json :=
  .record [
    ("last_seq", .natural s.lastSeq.toNat),
    ("observations", .array (s.observations.map Observation.toJson))]

/-- The bytes of a snapshot with the version of its format. -/
def encode (s : Snapshot) : List UInt8 :=
  write (.record [("format_version", .natural supported.toNat), ("snapshot", s.toJson)])

def versionedDecoder : Decoder (UInt16 × Snapshot) := fun v => do
  let f ← fields? ["format_version", "snapshot"] v
  let version ← f.required "format_version" word16?
  let snapshot ← f.required "snapshot" decoder
  return (version, snapshot)

end Snapshot

end ContestExchange
