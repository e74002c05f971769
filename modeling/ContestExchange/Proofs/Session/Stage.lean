import ContestExchange.Proofs.Session.Writing

/-!
# The stages of a request

Between two requests the desk only sends batches, and the writer works on
nobody's behalf (`Link.Calm`).  A request goes through four stages: it waits to
be sent, stands last in the queue, is worked on, and is answered.  While it is
worked on nothing else is on its way, and this is what makes the answer true: no
observation can be left behind (`Stage`).

Nothing of this fails, since the journal does not.
-/

namespace ContestExchange

/-! ### Work -/

/-- The phases in which the writer works on nobody's behalf. -/
inductive Phase.Routine : Phase → Prop
  | idle : Routine .idle
  | appending (batch : List Stored) (sync : Bool) : Routine (.appending batch sync .routine)
  | flushing (appended : Option UInt64) : Routine (.flushing appended .routine)

/-- The phases of the work on a message that somebody waits for.  Rows are dropped only
under the snapshot that was just written. -/
inductive Phase.Serves (m : Message) (j : Journal) : Phase → Prop
  | appending (batch : List Stored) : Serves m j (.appending batch true m.errand)
  | flushing (appended : Option UInt64) : Serves m j (.flushing appended m.errand)
  | snapshotting {s : Snapshot} {compact : Bool} (hm : m = .checkpoint s compact) :
    Serves m j (.snapshotting s compact)
  | compacting (before : Journal) {s : Snapshot} {compact : Bool}
    (hm : m = .checkpoint s compact) (hj : j = before.writeSnapshot s) :
    Serves m j (.compacting s.lastSeq)

/-- The phase in which the writer is once it has replied to a message. -/
def Message.end : Message → Phase
  | .close => .closed
  | _ => .idle

theorem Phase.Routine.works {p p' : Phase} {j j' : Journal} {b : Bool} (h : p.Routine)
    (hw : p.Works j j' p' b) : p'.Routine ∧ b = false := by
  cases h with
  | idle => cases hw
  | appending batch sync =>
    cases hw with
    | append => exact ⟨.flushing _, rfl⟩
    | hand => exact ⟨.idle, rfl⟩
  | flushing appended => cases hw; exact ⟨.idle, rfl⟩

theorem Phase.Serves.next {m : Message} (hm : m.batch? = none) (j : Journal) :
    m.errand.next.Serves m j ∧ m.errand.replies = false ∨
      m.errand.next = m.end ∧ m.errand.replies = true := by
  cases m with
  | append batch => cases hm
  | sync => exact .inr ⟨rfl, rfl⟩
  | checkpoint s compact => exact .inl ⟨.snapshotting rfl, rfl⟩
  | close => exact .inr ⟨rfl, rfl⟩

theorem Phase.Serves.works {m : Message} (hm : m.batch? = none) {p p' : Phase} {j j' : Journal}
    {b : Bool} (h : p.Serves m j) (hw : p.Works j j' p' b) :
    p'.Serves m j' ∧ b = false ∨ p' = m.end ∧ b = true := by
  cases h with
  | appending batch => cases hw; exact .inl ⟨.flushing _, rfl⟩
  | flushing appended => cases hw; exact Phase.Serves.next hm _
  | snapshotting hc =>
    subst hc
    cases hw with
    | snapshot s => exact .inr ⟨rfl, rfl⟩
    | cover s => exact .inl ⟨.compacting j rfl rfl, rfl⟩
  | compacting before hc =>
    subst hc
    cases hw
    exact .inr ⟨rfl, rfl⟩

/-! ### Requests -/

/-- What the desk sends and waits for; a snapshot is the one of the session. -/
inductive Request (snap : Snapshot) : Message → Awaited → Prop
  | flush : Request snap .sync .flush
  | checkpoint (compact : Bool) : Request snap (.checkpoint snap compact) .checkpoint
  | logged (compact : Bool) (seq : UInt64) : Request snap (.checkpoint snap compact) (.logged seq)
  | shutdown : Request snap .close .shutdown

variable {snap : Snapshot} {m : Message} {e : Awaited}

theorem Request.batch? (h : Request snap m e) : m.batch? = none := by
  cases h <;> rfl

theorem Request.eq_snap (h : Request snap m e) {s : Snapshot} {compact : Bool}
    (hm : m = .checkpoint s compact) : s = snap := by
  cases h <;> cases hm <;> rfl

/-- Nobody waits: the queue holds batches only. -/
structure Link.Calm (l : Link Journal) : Prop where
  queue : ∀ m ∈ l.queue, m.batch?.isSome = true
  phase : l.writer.phase.Routine
  reply : l.reply = none

/-- Nothing waits to be written. -/
structure Link.Empty (l : Link Journal) : Prop where
  queue : l.queue = []
  pending : l.writer.pending = []

/-- How far the desk and the writer are with a request.  The snapshot `snap` is the one of
the session. -/
inductive Stage (snap : Snapshot) (l : Link Journal) : Desk → Prop
  /-- There is none. -/
  | ready (h : l.Calm) : Stage snap l .ready
  /-- It is to be sent. -/
  | sending {m : Message} {e : Awaited} (h : l.Calm) (hm : Request snap m e) :
    Stage snap l (.sending m e)
  /-- It stands last in the queue. -/
  | asked {queue : List Message} {m : Message} {e : Awaited} (hq : l.queue = queue ++ [m])
    (hb : ∀ m' ∈ queue, m'.batch?.isSome = true) (hp : l.writer.phase.Routine)
    (hr : l.reply = none) (hm : Request snap m e) : Stage snap l (.waiting e)
  /-- It is worked on. -/
  | served {m : Message} {e : Awaited} (h : l.Empty) (hs : l.writer.phase.Serves m l.sink)
    (hr : l.reply = none) (hm : Request snap m e) : Stage snap l (.waiting e)
  /-- It is answered. -/
  | answered {m : Message} {e : Awaited} (h : l.Empty) (hp : l.writer.phase = m.end)
    (hm : Request snap m e) : Stage snap l (.waiting e)
  /-- There will be no more. -/
  | left (h : l.Calm) : Stage snap l .stopped
  /-- The writer works for the last time. -/
  | closing (h : l.Empty) (hs : l.writer.phase.Serves .close l.sink) : Stage snap l .stopped
  /-- The writer has ended. -/
  | closed (h : l.Empty) (hp : l.writer.phase = .closed) : Stage snap l .stopped

/-! ### Turns of the writer -/

variable {l l' : Link Journal} {desk : Desk}

theorem Phase.Routine.take {w : Writer} (hi : w.phase = .idle) (settings : Settings) {m : Message}
    (hm : m.batch?.isSome = true) : (w.take settings m).phase.Routine := by
  obtain ⟨batch, rfl⟩ : ∃ batch, m = .append batch := by
    cases m with
    | append batch => exact ⟨batch, rfl⟩
    | sync | checkpoint | close => cases hm
  rcases w.take_append settings batch with he | he
  · rw [he]
    exact hi ▸ .idle
  · rw [he]
    rcases (Writer.setOut_true { w with pending := w.pending ++ batch } .routine).2.2 with hp | hp
    · exact hp ▸ .flushing none
    · exact hp ▸ .appending _ true

theorem Phase.Serves.setOut (w : Writer) (m : Message) (j : Journal) :
    (w.setOut true m.errand).phase.Serves m j := by
  rcases (w.setOut_true m.errand).2.2 with hp | hp
  · exact hp ▸ .flushing none
  · exact hp ▸ .appending _

theorem Phase.Routine.ne_closed {p : Phase} (h : p.Routine) : p ≠ .closed := by
  cases h <;> exact Phase.noConfusion

theorem Phase.Serves.ne_idle {p : Phase} {j : Journal} (h : p.Serves m j) : p ≠ .idle := by
  cases h <;> exact Phase.noConfusion

theorem Phase.Serves.ne_closed {p : Phase} {j : Journal} (h : p.Serves m j) : p ≠ .closed := by
  cases h <;> exact Phase.noConfusion

theorem Link.Calm.take (h : l.Calm) (hi : l.writer.phase = .idle) {queue : List Message}
    (hq : l.queue = m :: queue) (settings : Settings) :
    Link.Calm { l with queue, writer := l.writer.take settings m } := by
  have hall := h.queue
  rw [hq] at hall
  exact ⟨fun m' hm' => hall m' (List.mem_cons_of_mem m hm'),
    .take hi settings (hall m List.mem_cons_self), h.reply⟩

theorem Stage.take (h : Stage snap l desk) (hi : l.writer.phase = .idle) {queue : List Message}
    (hq : l.queue = m :: queue) (settings : Settings) :
    Stage snap { l with queue, writer := l.writer.take settings m } desk := by
  cases h with
  | ready h => exact .ready (h.take hi hq settings)
  | sending h hm => exact .sending (h.take hi hq settings) hm
  | left h => exact .left (h.take hi hq settings)
  | @asked before m' e hq' hb hp hr hm =>
    rw [hq] at hq'
    cases before with
    | nil =>
      obtain ⟨rfl, rfl⟩ := List.cons.inj hq'
      rw [l.writer.take_request settings hm.batch?]
      exact .served ⟨rfl, (l.writer.setOut_true _).1⟩ (.setOut _ m _) hr hm
    | cons first before =>
      obtain ⟨rfl, rfl⟩ := List.cons.inj hq'
      exact .asked rfl (fun m'' h'' => hb m'' (List.mem_cons_of_mem m h''))
        (.take hi settings (hb m List.mem_cons_self)) hr hm
  | served h => rw [h.queue] at hq; cases hq
  | answered h => rw [h.queue] at hq; cases hq
  | closing h => rw [h.queue] at hq; cases hq
  | closed h => rw [h.queue] at hq; cases hq

theorem Stage.last (h : Stage snap l .stopped) (hi : l.writer.phase = .idle)
    (hq : l.queue = []) :
    Stage snap { l with writer := l.writer.setOut true .close } .stopped := by
  cases h with
  | left h => exact .closing ⟨hq, (l.writer.setOut_true .close).1⟩ (.setOut _ .close _)
  | closing h hs => exact absurd hi hs.ne_idle
  | closed h hp => rw [hi] at hp; cases hp

theorem Link.Calm.timer (h : l.Calm) (ht : l.timer? = some l') : l'.Calm := by
  obtain ⟨-, -, rfl⟩ := Link.timer?_eq_some ht
  exact ⟨h.queue, .appending _ false, h.reply⟩

theorem Stage.timer (h : Stage snap l desk) (ht : l.timer? = some l') : Stage snap l' desk := by
  obtain ⟨hi, hne, he⟩ := Link.timer?_eq_some ht
  cases h with
  | ready h => exact .ready (h.timer ht)
  | sending h hm => exact .sending (h.timer ht) hm
  | left h => exact .left (h.timer ht)
  | asked hq hb hp hr hm =>
    subst he
    exact .asked hq hb (.appending _ false) hr hm
  | served h hs => exact absurd hi hs.ne_idle
  | answered h => exact absurd h.pending hne
  | closing h => exact absurd h.pending hne
  | closed h => exact absurd h.pending hne

/-- What a piece of work does to the link: the queue and what waits are left alone. -/
structure Link.Works (l : Link Journal) (b : Bool) (l' : Link Journal) : Prop where
  work : l.writer.phase.Works l.sink l'.sink l'.writer.phase b
  queue : l'.queue = l.queue
  pending : l'.writer.pending = l.writer.pending
  reply : b = false → l'.reply = l.reply

/-- **A piece of work on a link**, if what is handed over is taken. -/
theorem Link.works_of_work {j : Journal} {r : Worked}
    (h : l.writer.work Journal.sink l.sink = some (j, r))
    (hok : ∀ {batch sync e}, l.writer.phase = .appending batch sync e →
      ∃ q, l.sink.append batch = .ok q) : l.Works r.reply.isSome (l.worked j r) := by
  obtain ⟨hworks, hpend⟩ := Writer.works_of_work h hok
  refine ⟨hworks, rfl, hpend, fun hb => ?_⟩
  rw [Option.isSome_eq_false_iff, Option.isNone_iff_eq_none] at hb
  rw [Link.worked, hb]
  rfl

theorem Link.Calm.works {b : Bool} (h : l.Calm) (hw : l.Works b l') : l'.Calm := by
  obtain ⟨hp, hb⟩ := h.phase.works hw.work
  exact ⟨hw.queue ▸ h.queue, hp, (hw.reply hb).trans h.reply⟩

theorem Link.Empty.works {b : Bool} (h : l.Empty) (hw : l.Works b l') : l'.Empty :=
  ⟨hw.queue.trans h.queue, hw.pending.trans h.pending⟩

theorem Stage.works {b : Bool} (h : Stage snap l desk) (hw : l.Works b l') :
    Stage snap l' desk := by
  have hwork := hw.work
  cases h with
  | ready h => exact .ready (h.works hw)
  | sending h hm => exact .sending (h.works hw) hm
  | left h => exact .left (h.works hw)
  | asked hq hb hp hr hm =>
    obtain ⟨hp', hb'⟩ := hp.works hwork
    exact .asked (hw.queue.trans hq) hb hp' ((hw.reply hb').trans hr) hm
  | served h hs hr hm =>
    rcases hs.works hm.batch? hwork with ⟨hs', hb'⟩ | ⟨hp', -⟩
    · exact .served (h.works hw) hs' ((hw.reply hb').trans hr) hm
    · exact .answered (h.works hw) hp' hm
  | @answered m e h hp hm =>
    rw [hp] at hwork
    cases hm <;> cases hwork
  | closing h hs =>
    rcases hs.works rfl hwork with ⟨hs', -⟩ | ⟨hp', -⟩
    · exact .closing (h.works hw) hs'
    · exact .closed (h.works hw) hp'
  | closed h hp => rw [hp] at hwork; cases hwork

/-! ### Turns of the desk -/

/-- What the desk is at when it has its reply. -/
def Awaited.next : Awaited → Desk
  | shutdown => .stopped
  | _ => .ready

theorem Link.Calm.outlet_ne_closed (h : l.Calm) (settings : Settings) :
    l.outlet settings ≠ .closed :=
  fun ho => h.phase.ne_closed (Link.phase_of_closed ho)

theorem Link.Calm.handOver (h : l.Calm) (batch : List Stored) :
    Link.Calm (if batch.isEmpty then l else l.send (.append batch)) := by
  split
  · exact h
  · refine ⟨fun m hm => ?_, h.phase, h.reply⟩
    rcases List.mem_append.1 hm with hm | hm
    · exact h.queue m hm
    · rw [List.mem_singleton.1 hm]
      rfl

/-! ### What the stages say -/

/-- A writer that works on somebody's behalf, or has ended, has nothing else on its way, and
a snapshot that it was sent is the session's. -/
theorem Stage.of_not_routine (h : Stage snap l desk) (hp : ¬l.writer.phase.Routine) :
    l.Empty ∧ ((∃ m, l.writer.phase.Serves m l.sink ∧
      ∀ {s compact}, m = .checkpoint s compact → s = snap) ∨ l.writer.phase = .closed) := by
  cases h with
  | ready h => exact absurd h.phase hp
  | sending h => exact absurd h.phase hp
  | left h => exact absurd h.phase hp
  | asked hq hb hr => exact absurd hr hp
  | @served m e h hs hr hm => exact ⟨h, .inl ⟨m, hs, hm.eq_snap⟩⟩
  | answered h he hm =>
    rw [he] at hp ⊢
    cases hm with
    | flush | checkpoint | logged => exact absurd .idle hp
    | shutdown => exact ⟨h, .inr rfl⟩
  | closing h hs => exact ⟨h, .inl ⟨.close, hs, Message.noConfusion⟩⟩
  | closed h he => exact ⟨h, .inr he⟩

theorem Stage.of_snapshotting (h : Stage snap l desk) {s : Snapshot} {compact : Bool}
    (hp : l.writer.phase = .snapshotting s compact) : s = snap ∧ l.Empty := by
  have hbusy : ¬l.writer.phase.Routine := by
    rw [hp]
    exact nofun
  obtain ⟨he, ⟨m, hs, hsnap⟩ | hc⟩ := h.of_not_routine hbusy
  · rw [hp] at hs
    cases hs with
    | snapshotting hm => exact ⟨hsnap hm, he⟩
  · rw [hp] at hc
    cases hc

theorem Stage.of_compacting (h : Stage snap l desk) {seq : UInt64}
    (hp : l.writer.phase = .compacting seq) :
    (∃ j : Journal, l.sink = j.writeSnapshot snap ∧ seq = snap.lastSeq) ∧ l.Empty := by
  have hbusy : ¬l.writer.phase.Routine := by
    rw [hp]
    exact nofun
  obtain ⟨he, ⟨m, hs, hsnap⟩ | hc⟩ := h.of_not_routine hbusy
  · rw [hp] at hs
    cases hs with
    | compacting before hm hj =>
      obtain rfl := hsnap hm
      exact ⟨⟨before, hj, rfl⟩, he⟩
  · rw [hp] at hc
    cases hc

theorem Stage.of_closed (h : Stage snap l desk) (hp : l.writer.phase = .closed) : l.Empty := by
  have hbusy : ¬l.writer.phase.Routine := by
    rw [hp]
    exact nofun
  exact (h.of_not_routine hbusy).1

/-- **When the desk has its reply nothing is on its way**, and the writer has ended if this
was what the desk asked for. -/
theorem Stage.of_reply (h : Stage snap l (.waiting e)) {r : Reply} (hr : l.reply = some r) :
    l.Empty ∧ l.writer.phase = if e = .shutdown then .closed else .idle := by
  cases h with
  | asked hq hb hp hn => rw [hn] at hr; cases hr
  | served h hs hn => rw [hn] at hr; cases hr
  | answered h hp hm =>
    refine ⟨h, ?_⟩
    rw [hp]
    cases hm <;> rfl

theorem Stage.replied (h : Stage snap l (.waiting e)) {r : Reply} (hr : l.reply = some r)
    (snap' : Snapshot) : Stage snap' { l with reply := none } e.next := by
  obtain ⟨he, hp⟩ := h.of_reply hr
  have hready : e ≠ .shutdown → Stage snap' { l with reply := none } .ready := by
    intro hne
    rw [if_neg hne] at hp
    refine .ready ⟨fun m hm => ?_, ?_, rfl⟩
    · rw [show l.queue = [] from he.queue] at hm
      cases hm
    · show l.writer.phase.Routine
      rw [hp]
      exact .idle
  cases e with
  | flush | checkpoint | logged seq => exact hready (by simp)
  | shutdown => exact .closed ⟨he.queue, he.pending⟩ hp

end ContestExchange
