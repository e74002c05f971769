import ContestExchange.Guess.Book
import ContestExchange.Session.Event

/-!
# Sessions

A session is what an operator works with while a contest is on: the fields, the
guess book, and the count of observations.  This module holds what a session
does by itself; whatever it does in one piece is one function here.

Logging is the one command that changes everything at once, and it changes
everything or nothing (`Session.log`): it is refused before any change if the
exchange is invalid or if the journal could not take what it brings.
-/

namespace ContestExchange

/-- How a session is run. -/
structure Settings where
  /-- Whether each logged exchange is written to the journal at once. -/
  flushOnLog : Bool
  /-- How many observations may wait to be written. -/
  batchMaxOps : Nat
  /-- How many messages may wait for the journal's writer. -/
  queueBound : Nat
  /-- After how many observations a snapshot is due; 0 for never. -/
  snapshotEveryOps : Nat
  compactAfterSnapshot : Bool
  /-- Whether the multipliers of logged exchanges become canonical values. -/
  learnMultValues : Bool
deriving DecidableEq

namespace Settings

def standard : Settings where
  flushOnLog := true
  batchMaxOps := 32
  queueBound := 64
  snapshotEveryOps := 2000
  compactAfterSnapshot := false
  learnMultValues := true

end Settings

/-- Whether the journal can take one more batch. -/
inductive Outlet where
  | absent
  | vacant
  | full
  /-- Its writer has ended. -/
  | closed
deriving DecidableEq

namespace Outlet

/-- Why nothing can be handed over, if so. -/
def refusal? : Outlet → Option SessionError
  | absent => none
  | vacant => none
  | full => some (.journal (.refused "journal queue: no available capacity"))
  | closed => some (.journal (.refused "journal queue: channel closed"))

end Outlet

structure Session where
  catalogue : Catalogue
  template? : String → Mode → Option Template
  book : Book
  /-- The number of the last observation. -/
  lastSeq : UInt64
  /-- How many observations were made since a snapshot last came due. -/
  sinceSnapshot : Nat

/-- What logging an exchange brings. -/
structure Logged where
  session : Session
  /-- What is told. -/
  events : List Event
  /-- The observations for the journal. -/
  batch : List Stored

namespace Stored

/-- Observations with their numbers, which go on from a number. -/
def number (time : UInt64) : UInt64 → List Observation → List Stored
  | _, [] => []
  | last, o :: r => ⟨last + 1, time, o⟩ :: number time (last + 1) r

theorem length_number (time last : UInt64) (l : List Observation) :
    (number time last l).length = l.length := by
  induction l generalizing last with
  | nil => rfl
  | cons o r ih => simp [number, ih]

theorem map_observation_number (time last : UInt64) (l : List Observation) :
    (number time last l).map Stored.observation = l := by
  induction l generalizing last with
  | nil => rfl
  | cons o r ih => simp [number, ih]

end Stored

namespace Session

def parse (s : Session) (text country : String) (mode : Mode) : Except SessionError Exchange :=
  match s.template? country mode with
  | none => .error (.unknownTemplate country mode)
  | some t => (s.catalogue.read t text).mapError .exchange

/-- What is told about a text that was read. -/
def parseEvents : Except SessionError Exchange → List Event
  | .ok x =>
    x.correction.toList.map .correctedCall ++
      (if x.isValid then [] else [.unparseable x.receivedText]) ++ [.parsed x.isValid]
  | .error (.exchange (.tooFewTokens expected found)) => [.tooFewTokens expected found]
  | .error _ => []

/-- Adds a canonical value to a field; tells whether it is new. -/
def learn (s : Session) (field value : String) : Session × Bool :=
  let r := s.catalogue.learn field value
  ({ s with catalogue := r.1 }, r.2)

def learnEvents (field value : String) (isNew : Bool) : List Event :=
  if isNew then [.learned field value] else []

def setMult (s : Session) (field : String) (b : Bool) : Session × Bool :=
  let r := s.catalogue.setMult field b
  ({ s with catalogue := r.1 }, r.2)

def multEvents (s : Session) (field : String) (b : Bool) : List Event :=
  if (s.catalogue.field? field).any (·.isMult != b) then [.multChanged field b] else []

def learnEntries (s : Session) : List Entry → Session × List Event
  | [] => (s, [])
  | e :: r =>
    let here := s.learn e.field e.value
    let rest := here.1.learnEntries r
    (rest.1, learnEvents e.field e.value here.2 ++ rest.2)

/-- Writes what an exchange tells into the guess book. -/
def observe (s : Session) (call : String) (x : Exchange) : Session :=
  { s with
    book := s.book.recordLogged call x
    lastSeq := s.lastSeq + (x.observations call).length.toUInt64
    sinceSnapshot := s.sinceSnapshot + (x.observations call).length }

def log (s : Session) (settings : Settings) (outlet : Outlet) (call : String) (x : Exchange)
    (time : UInt64) : Except SessionError Logged :=
  match x.validated with
  | .error e => .error (.exchange e)
  | .ok x =>
    match outlet.refusal? with
    | some e => .error e
    | none =>
      let learned := if settings.learnMultValues then s.learnEntries x.mults else (s, [])
      let batch := Stored.number time s.lastSeq (x.observations call)
      let after := learned.1.observe call x
      let told := if outlet = .absent && !batch.isEmpty then [.durable after.lastSeq] else []
      .ok ⟨after, learned.2 ++ told, batch⟩

def snapshotDue (s : Session) (settings : Settings) : Bool :=
  settings.snapshotEveryOps != 0 && settings.snapshotEveryOps ≤ s.sinceSnapshot

def snapshot (s : Session) : Snapshot :=
  ⟨s.lastSeq, s.book.snapshot⟩

def guess (s : Session) (call field : String) : Session × String :=
  let r := s.book.guess s.catalogue call field
  ({ s with book := r.1 }, r.2)

end Session

end ContestExchange
