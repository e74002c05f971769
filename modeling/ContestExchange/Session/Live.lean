import ContestExchange.Session.Writer

/-!
# Sessions with a journal

A live session is a session at work, together with the sink that it writes to.
Two parties work side by side.  The *desk* takes commands, one at a time, and
what it has for the sink goes into a queue; the *writer* takes it from there.
For a flush, for a snapshot and at the end the desk waits until the writer has
replied.  What the writer has to say about safe observations it leaves for the
desk, which passes it on when it has nothing else to do.

Nobody knows in which order the two take their turns, and the time that
observations may wait can run out at any moment.  So a live session is a machine
that makes one step for each `Turn`, and everything that is said about it is
said about all sequences of turns.  A turn that is not possible makes no step.
-/

namespace ContestExchange

/-- What the desk does with the reply that it waits for. -/
inductive Awaited where
  /-- Answers the number up to which observations are safe. -/
  | flush
  /-- Answers that the snapshot is written. -/
  | checkpoint
  /-- Answers the number of a logged observation, now that the snapshot that came
  due was tried. -/
  | logged (seq : UInt64)
  | shutdown
deriving DecidableEq

/-- What the desk is at. -/
inductive Desk where
  | ready
  /-- It has a message for the writer and then a reply to wait for. -/
  | sending (m : Message) (e : Awaited)
  | waiting (e : Awaited)
  | stopped
deriving DecidableEq

/-- The sink of a session and all that stands between them. -/
structure Link (σ : Type) where
  /-- The messages for the writer, the oldest first. -/
  queue : List Message
  writer : Writer
  sink : σ
  /-- The reply that the desk has not fetched yet. -/
  reply : Option Reply
  /-- What the writer said about safe observations, the oldest first. -/
  notices : List Reply

/-- A session at work. -/
structure Live (σ : Type) where
  session : Session
  desk : Desk
  link : Option (Link σ)

/-- What can be heard of a live session. -/
inductive Signal where
  | event (e : Event)
  | answer (a : Answer)
deriving DecidableEq

/-- Whose turn it is. -/
inductive Turn where
  | command (c : Command)
  /-- The desk goes on with what it is at, or passes on what the writer said. -/
  | desk
  | writer
  /-- Observations have waited long enough. -/
  | timer
  /-- Nobody will give commands any more. -/
  | leave
deriving DecidableEq

namespace Link

variable {σ : Type}

def start (k : Sink σ) (s : σ) : Link σ :=
  ⟨[], .start ((k.latestSeq s).toOption.getD 0), s, none, []⟩

/-- Whether one more batch can be handed over. -/
def outlet (l : Link σ) (settings : Settings) : Outlet :=
  if l.writer.phase = .closed then .closed
  else if l.queue.length < settings.queueBound then .vacant
  else .full

def send (l : Link σ) (m : Message) : Link σ :=
  { l with queue := l.queue ++ [m] }

/-- Takes what comes of a piece of work. -/
def worked (l : Link σ) (s : σ) (r : Worked) : Link σ :=
  { l with
    writer := r.writer
    sink := s
    reply := r.reply.or l.reply
    notices := l.notices ++ r.notice.toList }

/-- A turn of the writer: the next operation of the sink if there is one, or else
the next message; when nobody will send any more, it writes for the last time. -/
def turn? (l : Link σ) (settings : Settings) (k : Sink σ) (isLast : Bool) : Option (Link σ) :=
  match l.writer.phase, l.queue with
  | .idle, m :: queue => some { l with queue, writer := l.writer.take settings m }
  | .idle, [] => if isLast then some { l with writer := l.writer.setOut true .close } else none
  | _, _ => (l.writer.work k l.sink).map fun r => l.worked r.1 r.2

def timer? (l : Link σ) : Option (Link σ) :=
  if l.writer.phase = .idle && !l.writer.pending.isEmpty then
    some { l with writer := l.writer.setOut false .routine }
  else none

end Link

namespace Live

variable {σ : Type}

/-- A session that starts to work.  The numbers of its observations go on from the
highest one that the sink keeps. -/
def start (k : Sink σ) (s : Session) (sink : Option σ) : Live σ :=
  match sink with
  | none => ⟨{ s with lastSeq := 0, sinceSnapshot := 0 }, .ready, none⟩
  | some st =>
    let l := Link.start k st
    ⟨{ s with lastSeq := l.writer.durable, sinceSnapshot := 0 }, .ready, some l⟩

def outlet (v : Live σ) (settings : Settings) : Outlet :=
  match v.link with
  | none => .absent
  | some l => l.outlet settings

def checkpointMessage (s : Session) (settings : Settings) : Message :=
  .checkpoint s.snapshot settings.compactAfterSnapshot

/-- The desk does something that needs the sink, or answers at once if there is
none. -/
def request (v : Live σ) (m : Message) (e : Awaited) (otherwise : Answer) :
    Live σ × List Signal :=
  match v.link with
  | none => (v, [.answer otherwise])
  | some _ => ({ v with desk := .sending m e }, [])

/-- The desk has logged an exchange: hands the observations over and asks for a
snapshot if one is due. -/
def logged (v : Live σ) (settings : Settings) (g : Logged) : Live σ × List Signal :=
  let told := g.events.map Signal.event
  let answer := Signal.answer (.seq g.session.lastSeq)
  match v.link with
  | none => ({ v with session := g.session }, told ++ [answer])
  | some l =>
    let l' := if g.batch.isEmpty then l else l.send (.append g.batch)
    if g.session.snapshotDue settings then
      (⟨g.session, .sending (checkpointMessage g.session settings) (.logged g.session.lastSeq),
        some l'⟩, told)
    else (⟨g.session, v.desk, some l'⟩, told ++ [answer])

def carryOut (v : Live σ) (settings : Settings) : Command → Live σ × List Signal
  | .parse text country mode =>
    let r := v.session.parse text country mode
    let answer := match r with
      | .ok x => .exchange x
      | .error e => .failed e
    (v, (Session.parseEvents r).map Signal.event ++ [.answer answer])
  | .log call x time =>
    match v.session.log settings (v.outlet settings) call x time with
    | .error e => (v, [.answer (.failed e)])
    | .ok g => v.logged settings g
  | .learn field value =>
    let r := v.session.learn field value
    ({ v with session := r.1 },
      (Session.learnEvents field value r.2).map Signal.event ++ [.answer (.flag r.2)])
  | .setMult field b =>
    let r := v.session.setMult field b
    ({ v with session := r.1 },
      (v.session.multEvents field b).map Signal.event ++ [.answer (.flag r.2)])
  | .flush => v.request .sync .flush (.seq v.session.lastSeq)
  | .checkpoint => v.request (checkpointMessage v.session settings) .checkpoint .done
  | .shutdown =>
    match v.link with
    | none => ({ v with desk := .stopped }, [.answer .done])
    | some _ => ({ v with desk := .sending .close .shutdown }, [])

/-- The answer to a flush or a snapshot. -/
def answerOf (done : UInt64 → Answer) : Reply → Answer
  | .ok n => done n
  | .error e => .failed (.journal e)

/-- The desk has the reply that it waited for. -/
def replied (v : Live σ) (r : Reply) : Awaited → Live σ × List Signal
  | .flush => ({ v with desk := .ready }, [.answer (answerOf .seq r)])
  | .checkpoint => ({ v with desk := .ready }, [.answer (answerOf (fun _ => .done) r)])
  | .logged seq =>
    let since := match r with
      | .ok _ => 0
      | .error _ => v.session.sinceSnapshot
    (⟨{ v.session with sinceSnapshot := since }, .ready, v.link⟩, [.answer (.seq seq)])
  | .shutdown => ({ v with desk := .stopped }, [.answer .done])

/-- The desk finds that the writer has ended. -/
def unanswered (v : Live σ) : Awaited → Live σ × List Signal
  | .logged seq => ({ v with desk := .ready }, [.answer (.seq seq)])
  | .shutdown => ({ v with desk := .stopped }, [.answer (.failed .notRunning)])
  | _ => ({ v with desk := .ready }, [.answer (.failed .notRunning)])

/-- What is told about what the writer said. -/
def passOn : Reply → List Signal
  | .ok n => [.event (.durable n)]
  | .error _ => []

def deskTurn? (v : Live σ) (settings : Settings) (l : Link σ) : Option (Live σ × List Signal) :=
  match v.desk with
  | .ready =>
    match l.notices with
    | [] => none
    | r :: notices => some ({ v with link := some { l with notices } }, passOn r)
  | .sending m e =>
    match l.outlet settings with
    | .closed => some (v.unanswered e)
    | .full => none
    | _ => some ({ v with desk := .waiting e, link := some (l.send m) }, [])
  | .waiting e =>
    match l.reply with
    | none => none
    | some r => some ({ v with link := some { l with reply := none } }.replied r e)
  | .stopped => none

/-- One step, with what can be heard of it. -/
def step (settings : Settings) (k : Sink σ) (v : Live σ) : Turn → Option (Live σ × List Signal)
  | .command c =>
    match v.desk with
    | .ready => some (v.carryOut settings c)
    | .stopped => some (v, [.answer (.failed .notRunning)])
    | _ => none
  | .desk => v.link.bind (v.deskTurn? settings)
  | .writer =>
    (v.link.bind fun l => l.turn? settings k (v.desk == .stopped)).map
      fun l => ({ v with link := some l }, [])
  | .timer => (v.link.bind Link.timer?).map fun l => ({ v with link := some l }, [])
  | .leave => if v.desk = .ready then some ({ v with desk := .stopped }, []) else none

def run (settings : Settings) (k : Sink σ) (v : Live σ) : List Turn → Option (Live σ × List Signal)
  | [] => some (v, [])
  | t :: ts =>
    (v.step settings k t).bind fun r =>
      (run settings k r.1 ts).map fun q => (q.1, r.2 ++ q.2)

theorem run_append (settings : Settings) (k : Sink σ) (v : Live σ) (ts us : List Turn) :
    v.run settings k (ts ++ us) =
      (v.run settings k ts).bind fun r =>
        (r.1.run settings k us).map fun q => (q.1, r.2 ++ q.2) := by
  induction ts generalizing v with
  | nil => cases h : v.run settings k us <;> simp [run, h]
  | cons t ts ih =>
    rw [List.cons_append, run, run]
    cases v.step settings k t with
    | none => rfl
    | some r =>
      simp only [Option.bind_some, ih]
      cases r.1.run settings k ts with
      | none => rfl
      | some q => cases h : q.1.run settings k us <;> simp [h]

end Live

end ContestExchange
