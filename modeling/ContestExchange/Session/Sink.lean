import ContestExchange.Journal.Basic

/-!
# Sinks

What a session writes its observations to is a *sink*: a state and what can be
done to it.  Everything may fail.  A sink has to take observations; all else may
be left out, and then nothing is done and nothing fails.  A journal is a sink.
-/

namespace ContestExchange

/-- What can be done to something that keeps observations. -/
structure Sink (σ : Type) where
  /-- Takes observations, in the order of their numbers; tells the last number. -/
  append : σ → List Stored → σ × Except JournalError UInt64
  /-- The highest number that is kept. -/
  latestSeq : σ → Except JournalError UInt64 := fun _ => .ok 0
  /-- Makes sure that what was taken is safe. -/
  flush : σ → σ × Except JournalError Unit := fun s => (s, .ok ())
  writeSnapshot : σ → Snapshot → σ × Except JournalError Unit := fun s _ => (s, .ok ())
  /-- Drops the observations up to a number; tells how many these are. -/
  compactThrough : σ → UInt64 → σ × Except JournalError Nat := fun s _ => (s, .ok 0)

namespace Journal

def sink : Sink Journal where
  append j batch :=
    match j.append batch with
    | .ok r => (r.1, .ok r.2)
    | .error e => (j, .error e)
  latestSeq j := .ok j.latestSeq
  writeSnapshot j s := (j.writeSnapshot s, .ok ())
  compactThrough j seq := ((j.compactThrough seq).1, .ok (j.compactThrough seq).2)

end Journal

end ContestExchange
