import ContestExchange.Journal.Format
import ContestExchange.Dictionary

/-!
# Journals

A journal keeps the observations of a station's contests: rows with the bytes of
an observation each, keyed by its number, and snapshots that cover the rows up to
some number.  Numbers have 64 bits; the journal keeps them as signed words, and
orders and compares them as such.

Appending is all or nothing: a batch with a number that stands already, in the
journal or in the batch itself, leaves the journal as it was.
-/

namespace ContestExchange

/-- Why something cannot be written to a journal, or read from it. -/
inductive JournalError where
  | duplicateSeq
  /-- The payload of a row, of the given length, is no observation. -/
  | badRow (length : Nat) (cause : PayloadError)
  | badSnapshot
  | snapshotVersion (version : UInt16)
  /-- The journal refuses, for a reason of its own. -/
  | refused (reason : String)
deriving DecidableEq

namespace JournalError

/-- What is told of an error.  The reader of snapshots does not say where it fails; the words
`no snapshot` stand in place of its reason. -/
def message : JournalError → String
  | duplicateSeq => "sqlite: UNIQUE constraint failed: observations.seq"
  | badRow length cause =>
    let n := toString length
    let m := cause.message
    s!"sqlite: Conversion error from type Blob at index: {n}, {m}"
  | badSnapshot => "payload: no snapshot"
  | snapshotVersion version =>
    let v := toString version.toNat
    s!"unsupported snapshot format version: {v}"
  | refused reason => reason

end JournalError

/-- A row of a journal. -/
structure Row where
  /-- When the observation was logged. -/
  time : Int64
  payload : List UInt8
deriving DecidableEq

structure SnapshotRow where
  /-- The number of the last observation that it covers. -/
  lastSeq : Int64
  payload : List UInt8
deriving DecidableEq

structure Journal where
  rows : Dictionary Int64 Row
  /-- The snapshots, the newest first. -/
  snapshots : List SnapshotRow

namespace Journal

def empty : Journal :=
  ⟨.empty, []⟩

instance : Inhabited Journal :=
  ⟨empty⟩

/-- The journal after it is closed and opened again, which only a journal in a
file outlives. -/
def reopen (j : Journal) (inFile : Bool) : Journal :=
  if inFile then j else empty

def larger (a b : Int64) : Int64 :=
  if a ≤ b then b else a

/-- The largest of some signed words, and 0 if there are none. -/
def largest : List Int64 → Int64
  | [] => 0
  | n :: l => l.foldl larger n

/-- The highest number that a row has or a snapshot covers.  Without rows, or
without snapshots, 0 stands for what is missing. -/
def latestSeq (j : Journal) : UInt64 :=
  (larger (largest j.rows.keys) (largest (j.snapshots.map SnapshotRow.lastSeq))).toUInt64

/-- Adds a row, unless its number stands already. -/
def insertRow (j : Journal) (seq : Int64) (r : Row) : Except JournalError Journal :=
  if j.rows.contains seq then .error .duplicateSeq
  else .ok { j with rows := j.rows.put seq r }

def insert (j : Journal) (s : Stored) : Except JournalError Journal :=
  j.insertRow s.seq.toInt64 ⟨s.time.toInt64, (Envelope.of s).encode⟩

/-- Adds the rows of a batch, or none of them; tells the number of the last one. -/
def append (j : Journal) (batch : List Stored) : Except JournalError (Journal × UInt64) :=
  match batch.getLast? with
  | none => .ok (j, j.latestSeq)
  | some last => (batch.foldlM insert j).map (·, last.seq)

/-- The rows with a number above `seq`, in ascending order. -/
def rowsAfter (j : Journal) (seq : Int64) : List (Int64 × Row) :=
  (j.rows.entries.filter fun e => decide (seq < e.1)).mergeSort fun a b => decide (a.1 ≤ b.1)

/-- The observation of a row; number and time are those of the row. -/
def readRow (e : Int64 × Row) : Except JournalError Stored :=
  match Stored.ofPayload e.2.payload with
  | .error cause => .error (.badRow e.2.payload.length cause)
  | .ok s => .ok ⟨e.1.toUInt64, e.2.time.toUInt64, s.observation⟩

/-- The observations with a number above `seq`, in ascending order. -/
def loadAfter (j : Journal) (seq : UInt64) : Except JournalError (List Stored) :=
  (j.rowsAfter seq.toInt64).mapM readRow

def insertSnapshot (j : Journal) (r : SnapshotRow) : Journal :=
  { j with snapshots := r :: j.snapshots }

def writeSnapshot (j : Journal) (s : Snapshot) : Journal :=
  j.insertSnapshot ⟨s.lastSeq.toInt64, s.encode⟩

def latestSnapshot? (j : Journal) : Except JournalError (Option Snapshot) :=
  match j.snapshots with
  | [] => .ok none
  | r :: _ =>
    match Json.decodeBytes? Snapshot.versionedDecoder r.payload with
    | none => .error .badSnapshot
    | some (version, s) =>
      if version = Snapshot.supported then .ok (some s) else .error (.snapshotVersion version)

/-- Drops the rows with a number up to `seq`; tells how many these are. -/
def compactThrough (j : Journal) (seq : UInt64) : Journal × Nat :=
  let kept := j.rows.restrict fun k => decide (seq.toInt64 < k)
  ({ j with rows := kept }, j.rows.size - kept.size)

end Journal

end ContestExchange
