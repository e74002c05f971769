import ContestExchange.Session.Basic
import ContestExchange.Session.Sink

/-!
# The writer

The sink is written to by a writer of its own, so that the operator never waits
for it.  The writer gets messages through a queue.  It gathers observations and
writes them in batches: when enough have come together, when somebody wants them
to be safe, or when they have waited long enough.

One piece of work of the writer is one operation of the sink, so whatever may
happen between two of them can happen between two calls of `Writer.work`.
-/

namespace ContestExchange

/-- What the writer is told. -/
inductive Message where
  | append (batch : List Stored)
  /-- Make all of them safe. -/
  | sync
  /-- Make all of them safe, take a snapshot, and perhaps drop what it covers. -/
  | checkpoint (s : Snapshot) (compact : Bool)
  /-- Make all of them safe, and end. -/
  | close
deriving DecidableEq

/-- On whose behalf the writer writes observations. -/
inductive Errand where
  /-- Nobody waits for it. -/
  | routine
  /-- Somebody wants all observations to be safe. -/
  | sync
  /-- A snapshot is to follow. -/
  | checkpoint (s : Snapshot) (compact : Bool)
  /-- It is the last time. -/
  | close
deriving DecidableEq

/-- The operation of the sink that the writer is about to do. -/
inductive Phase where
  | idle
  /-- Hand observations over, and flush afterwards or not. -/
  | appending (batch : List Stored) (sync : Bool) (errand : Errand)
  /-- Flush, after the observations up to a number were handed over, or after none
  were. -/
  | flushing (appended : Option UInt64) (errand : Errand)
  /-- Write a snapshot, and compact afterwards or not. -/
  | snapshotting (s : Snapshot) (compact : Bool)
  | compacting (seq : UInt64)
  /-- None any more. -/
  | closed
deriving DecidableEq

structure Writer where
  /-- What it is about to do. -/
  phase : Phase
  pending : List Stored
  /-- The number up to which observations are safe. -/
  durable : UInt64
deriving DecidableEq

/-- What the writer says to whoever waits for it: the number up to which
observations are safe, or what went wrong. -/
abbrev Reply :=
  Except JournalError UInt64

/-- What comes of a piece of work. -/
structure Worked where
  writer : Writer
  /-- What it says to whoever waits. -/
  reply : Option Reply
  /-- What it says about observations that were to be written. -/
  notice : Option Reply

namespace Writer

/-- The writer at the start, when the observations up to a number are safe. -/
def start (durable : UInt64) : Writer :=
  ⟨.idle, [], durable⟩

/-- Sets out to write the waiting observations, and to flush them if `sync`. -/
def setOut (w : Writer) (sync : Bool) (errand : Errand) : Writer :=
  if w.pending.isEmpty then
    if sync then { w with phase := .flushing none errand } else w
  else { w with phase := .appending w.pending sync errand, pending := [] }

def take (w : Writer) (settings : Settings) : Message → Writer
  | .append batch =>
    let w' := { w with pending := w.pending ++ batch }
    if settings.flushOnLog || settings.batchMaxOps ≤ w'.pending.length then
      w'.setOut true .routine
    else w'
  | .sync => w.setOut true .sync
  | .checkpoint s compact => w.setOut true (.checkpoint s compact)
  | .close => w.setOut true .close

/-- Goes on after the observations were written, or were not. -/
def goOn (w : Writer) (notice : Option Reply) (result : Except JournalError Unit) :
    Errand → Worked
  | .routine => ⟨{ w with phase := .idle }, none, notice⟩
  | .sync => ⟨{ w with phase := .idle }, some (result.map fun _ => w.durable), notice⟩
  | .checkpoint s compact =>
    match result with
    | .error e => ⟨{ w with phase := .idle }, some (.error e), notice⟩
    | .ok _ => ⟨{ w with phase := .snapshotting s compact }, none, notice⟩
  | .close => ⟨{ w with phase := .closed }, some (.ok w.durable), notice⟩

/-- Goes on after observations up to a number were written. -/
def succeed (w : Writer) (seq : UInt64) (errand : Errand) : Worked :=
  let w' := { w with durable := if w.durable ≤ seq then seq else w.durable }
  w'.goOn (some (.ok w'.durable)) (.ok ()) errand

def fail (w : Writer) (e : JournalError) (errand : Errand) : Worked :=
  w.goOn (some (.error e)) (.error e) errand

def endSnapshot (w : Writer) (result : Except JournalError Unit) : Worked :=
  ⟨{ w with phase := .idle }, some (result.map fun _ => w.durable), none⟩

/-- Does the operation of the sink that is next, if there is one. -/
def work {σ : Type} (k : Sink σ) (w : Writer) (s : σ) : Option (σ × Worked) :=
  match w.phase with
  | .idle => none
  | .appending batch sync errand =>
    let r := k.append s batch
    match r.2 with
    | .error e => some (r.1, w.fail e errand)
    | .ok seq =>
      if sync then some (r.1, ⟨{ w with phase := .flushing (some seq) errand }, none, none⟩)
      else some (r.1, w.succeed seq errand)
  | .flushing appended errand =>
    let r := k.flush s
    match r.2, appended with
    | .error e, some _ => some (r.1, w.fail e errand)
    | .error e, none => some (r.1, w.goOn none (.error e) errand)
    | .ok _, some seq => some (r.1, w.succeed seq errand)
    | .ok _, none => some (r.1, w.goOn none (.ok ()) errand)
  | .snapshotting snapshot compact =>
    let r := k.writeSnapshot s snapshot
    match r.2 with
    | .error e => some (r.1, w.endSnapshot (.error e))
    | .ok _ =>
      if compact then
        some (r.1, ⟨{ w with phase := .compacting snapshot.lastSeq }, none, none⟩)
      else some (r.1, w.endSnapshot (.ok ()))
  | .compacting seq =>
    let r := k.compactThrough s seq
    some (r.1, w.endSnapshot (r.2.map fun _ => ()))
  | .closed => none

end Writer

end ContestExchange
