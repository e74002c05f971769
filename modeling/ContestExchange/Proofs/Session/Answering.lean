import ContestExchange.Proofs.Session.Acknowledging
import ContestExchange.Session.Settling

/-!
# What the desk hears of the journal

A journal that takes whatever it is handed lets the desk down in nothing.  The number
that the writer says to be safe is the last one that it has handed over, or will be
when the flush is done that it is about to do (`Writer.Marks`).  The desk that waits
for a reply gets it, and the reply is that number (`Link.Hears`).

Since nothing is on its way when the desk has its reply, the number is the last one
that the session knows (`Attends.reply_eq`), and a desk that waits can always go on
(`Attends.not_waiting`).
-/

namespace ContestExchange

variable {n : UInt64} {k : Sink Journal} {settings : Settings}

/-! ### The mark of the writer -/

/-- The writer knows the observations up to a number to be safe, or will after the flush that
comes next. -/
def Writer.Marks (w : Writer) (n : UInt64) : Prop :=
  match w.phase with
  | .flushing (some m) _ => m = n ∧ w.durable ≤ n
  | _ => w.durable = n

namespace Writer

variable {w : Writer} {j j' : Journal} {r : Worked}

theorem marks_of_durable (hd : w.durable = n) (hp : ∀ m e, w.phase ≠ .flushing (some m) e) :
    w.Marks n := by
  rw [Marks]
  split
  · rename_i m e he
    exact absurd he (hp m e)
  · exact hd

theorem Marks.durable_eq (h : w.Marks n) (hp : ∀ m e, w.phase ≠ .flushing (some m) e) :
    w.durable = n := by
  rw [Marks] at h
  split at h
  · rename_i m e he
    exact absurd he (hp m e)
  · exact h

/-- The mark does not change as long as nothing is handed over. -/
theorem Marks.of_idle {w' : Writer} (h : w.Marks n) (hi : w.phase = .idle)
    (hd : w'.durable = w.durable)
    (hp : ∀ m e, w'.phase = .flushing (some m) e → w.phase = .flushing (some m) e) :
    w'.Marks n := by
  refine marks_of_durable (hd.trans (h.durable_eq (by simp [hi]))) fun m e he => ?_
  rw [hi] at hp
  cases hp m e he

/-- What is said after observations were written is what is marked. -/
theorem marks_goOn (w : Writer) (notice : Option Reply) (e : Errand) :
    (w.goOn notice (.ok ()) e).writer.Marks w.durable ∧
      ∀ q, (w.goOn notice (.ok ()) e).reply = some q → q = .ok w.durable := by
  cases e with
  | routine => exact ⟨rfl, fun q hq => by cases hq⟩
  | sync => exact ⟨rfl, fun q hq => (Option.some.inj hq).symm⟩
  | checkpoint s compact => exact ⟨rfl, fun q hq => by cases hq⟩
  | close => exact ⟨rfl, fun q hq => (Option.some.inj hq).symm⟩

theorem marks_succeed (h : w.durable ≤ n) (e : Errand) :
    (w.succeed n e).writer.Marks n ∧ ∀ q, (w.succeed n e).reply = some q → q = .ok n := by
  have hgo := marks_goOn { w with durable := n } (some (.ok n)) e
  rw [succeed, if_pos h]
  exact hgo

theorem marks_endSnapshot (h : w.durable = n) :
    (w.endSnapshot (.ok ())).writer.Marks n ∧
      ∀ q, (w.endSnapshot (.ok ())).reply = some q → q = .ok n := by
  refine ⟨h, fun q hq => ?_⟩
  rw [← h]
  exact (Option.some.inj hq).symm

end Writer

namespace Journal

variable {j : Journal} {batch : List Stored} {q : Journal × UInt64}

theorem seq_getLast_of_append (h : j.append batch = .ok q) (hne : batch ≠ []) :
    q.2 = (batch.getLast hne).seq := by
  rw [append, List.getLast?_eq_some_getLast hne] at h
  simp only at h
  cases hj : batch.foldlM insert j with
  | error e =>
    rw [hj] at h
    cases h
  | ok j' =>
    rw [hj] at h
    obtain rfl := Except.ok.inj h
    rfl

theorem last_of_append (h : j.append batch = .ok q) (hne : batch ≠ [])
    (hf : Stored.Follows n batch) : q.2 = n + batch.length.toUInt64 := by
  rw [seq_getLast_of_append h hne, ← hf.getLast?_seq, List.getLast?_eq_some_getLast hne]
  rfl

theorem sink_tellsLast : sink.TellsLast := by
  intro j batch m hne ha
  cases hj : j.append batch with
  | error e =>
    simp only [sink, hj] at ha
    cases ha
  | ok q =>
    simp only [sink, hj] at ha
    obtain rfl := Except.ok.inj ha
    refine ⟨batch.getLast hne, List.getLast_mem hne, ?_⟩
    rw [seq_getLast_of_append hj hne]
    exact UInt64.le_refl _

end Journal

theorem Phase.append_ok {p : Phase} {j : Journal}
    (h : ∀ batch, .append batch false ∉ p.deeds Journal.sink j) {batch : List Stored} {sync : Bool}
    {e : Errand} (hp : p = .appending batch sync e) : ∃ q, j.append batch = .ok q := by
  subst hp
  cases hj : j.append batch with
  | ok q => exact ⟨q, rfl⟩
  | error err =>
    refine absurd ?_ (h batch)
    have hfail : (Journal.sink.append j batch).2.isOk = false := by
      simp only [Journal.sink, hj]
      rfl
    rw [deeds, hfail]
    exact List.mem_cons_self

namespace Writer

variable {w : Writer} {j j' : Journal} {r : Worked}

/-- **A piece of work moves the mark** behind what it hands over, and what is said is marked. -/
theorem marks_of_work (h : w.work Journal.sink j = some (j', r)) (hm : w.Marks n)
    (hok : ∀ batch, .append batch false ∉ w.phase.deeds Journal.sink j)
    (hload : w.phase.Loaded) (hf : Stored.Follows n w.phase.batch)
    (hsmall : n.toNat + w.phase.batch.length < 2 ^ 64) :
    r.writer.Marks (n + w.phase.batch.length.toUInt64) ∧
      ∀ q, r.reply = some q → q = .ok (n + w.phase.batch.length.toUInt64) := by
  have hstay : w.phase.batch = [] → n + w.phase.batch.length.toUInt64 = n := by
    intro hb
    rw [hb, Stored.add_length_nil]
  rw [work] at h
  split at h
  · cases h
  · rename_i batch sync e hp
    obtain ⟨q, hq⟩ := Phase.append_ok hok hp
    rw [hp] at hf hsmall hstay ⊢
    have hlast := Journal.last_of_append hq (hload batch sync e hp) hf
    have hle : w.durable ≤ q.2 := by
      rw [hm.durable_eq (by simp [hp]), hlast]
      exact Stored.le_add_length hsmall
    simp only [Journal.sink, hq] at h
    rw [Phase.batch, ← hlast]
    cases sync with
    | true =>
      obtain ⟨-, rfl⟩ := Prod.mk.inj (Option.some.inj h)
      exact ⟨⟨rfl, hle⟩, fun q' hq' => by cases hq'⟩
    | false =>
      obtain ⟨-, rfl⟩ := Prod.mk.inj (Option.some.inj h)
      exact marks_succeed hle e
  · rename_i appended e hp
    rw [hstay (by rw [hp]; rfl)]
    rw [Marks, hp] at hm
    cases appended with
    | none =>
      obtain ⟨-, rfl⟩ := Prod.mk.inj (Option.some.inj h)
      obtain rfl : w.durable = n := hm
      exact marks_goOn w none e
    | some seq =>
      obtain ⟨-, rfl⟩ := Prod.mk.inj (Option.some.inj h)
      obtain ⟨rfl, hle⟩ : seq = n ∧ w.durable ≤ n := hm
      exact marks_succeed hle e
  · rename_i s compact hp
    rw [hstay (by rw [hp]; rfl)]
    have hd := hm.durable_eq (by simp [hp])
    cases compact with
    | true =>
      obtain ⟨-, rfl⟩ := Prod.mk.inj (Option.some.inj h)
      exact ⟨hd, fun q hq => by cases hq⟩
    | false =>
      obtain ⟨-, rfl⟩ := Prod.mk.inj (Option.some.inj h)
      exact marks_endSnapshot hd
  · rename_i seq hp
    rw [hstay (by rw [hp]; rfl)]
    obtain ⟨-, rfl⟩ := Prod.mk.inj (Option.some.inj h)
    exact marks_endSnapshot (hm.durable_eq (by simp [hp]))
  · cases h

theorem exists_work (k : Sink Journal) (j : Journal) (hi : w.phase ≠ .idle)
    (hc : w.phase ≠ .closed) : ∃ q, w.work k j = some q := by
  rw [work]
  split
  · rename_i hp
    exact absurd hp hi
  · rename_i batch sync e hp
    simp only
    split
    · exact ⟨_, rfl⟩
    · split <;> exact ⟨_, rfl⟩
  · simp only
    split <;> exact ⟨_, rfl⟩
  · simp only
    split
    · exact ⟨_, rfl⟩
    · split <;> exact ⟨_, rfl⟩
  · exact ⟨_, rfl⟩
  · rename_i hp
    exact absurd hp hc

end Writer

/-! ### The reply -/

/-- The reply is there, with this number, or there is still something to do for it. -/
def Link.Hears (l : Link Journal) (n : UInt64) : Prop :=
  l.reply = some (.ok n) ∨
    l.reply = none ∧ (l.queue ≠ [] ∨ l.writer.phase ≠ .idle ∧ l.writer.phase ≠ .closed)

/-- The writer serves the desk; the observations up to a number were handed over. -/
structure Attends (n : UInt64) (v : Live Journal) (l : Link Journal) : Prop where
  link : v.link = some l
  stage : Stage v.session.snapshot l v.desk
  marks : l.writer.Marks n
  hears : ∀ e, v.desk = .waiting e → l.Hears n

namespace Attends

variable {v w : Live Journal} {l l' : Link Journal} {t : Turn} {sig : List Signal}

theorem of_not_waiting {s : Session} {desk : Desk} (hs : Stage s.snapshot l desk)
    (hm : l.writer.Marks n) (hd : ∀ e, desk ≠ .waiting e) : Attends n ⟨s, desk, some l⟩ l :=
  ⟨rfl, hs, hm, fun e he => absurd he (hd e)⟩

theorem of_reply {e : Awaited} (h : Attends n v l) (hd : v.desk = .waiting e) {r : Reply}
    (hr : l.reply = some r) :
    r = .ok n ∧ l.Empty ∧ (l.writer.phase = .idle ∨ l.writer.phase = .closed) := by
  have hs := h.stage
  rw [hd] at hs
  obtain ⟨he, hp⟩ := hs.of_reply hr
  refine ⟨?_, he, ?_⟩
  · rcases h.hears e hd with hn | ⟨hn, -⟩
    · exact Option.some.inj (hr.symm.trans hn)
    · rw [hn] at hr
      cases hr
  · rw [hp]
    split
    · exact .inr rfl
    · exact .inl rfl

theorem reply_eq_none {e : Awaited} (h : Attends n v l) (hd : v.desk = .waiting e)
    (hbusy : ¬(l.Empty ∧ (l.writer.phase = .idle ∨ l.writer.phase = .closed))) :
    l.reply = none := by
  cases hr : l.reply with
  | none => rfl
  | some r => exact absurd (h.of_reply hd hr).2 hbusy

/-! ### Turns of the writer -/

theorem take (h : Attends n v l) (hi : l.writer.phase = .idle) {m : Message}
    {queue : List Message} (hq : l.queue = m :: queue) (settings : Settings) :
    Attends n { v with link := some { l with queue, writer := l.writer.take settings m } }
      { l with queue, writer := l.writer.take settings m } := by
  have hload : l.writer.phase.Loaded := by simp [hi, Phase.Loaded]
  obtain ⟨hdurable, -, hflush⟩ := l.writer.take_frame settings m hload
  refine ⟨rfl, h.stage.take hi hq settings, h.marks.of_idle hi hdurable hflush, fun e hd => ?_⟩
  have hreply : l.reply = none := h.reply_eq_none hd fun hc => by
    rw [hc.1.queue] at hq
    cases hq
  refine .inr ⟨hreply, ?_⟩
  have hs := h.stage
  rw [show v.desk = .waiting e from hd] at hs
  cases hs with
  | @asked before m' _ hq' hb hp hr hm =>
    rw [hq] at hq'
    cases before with
    | nil =>
      obtain ⟨rfl, rfl⟩ := List.cons.inj hq'
      have hserves := Phase.Serves.setOut l.writer m l.sink
      rw [← l.writer.take_request settings hm.batch?] at hserves
      exact .inr ⟨hserves.ne_idle, hserves.ne_closed⟩
    | cons first before =>
      obtain ⟨rfl, rfl⟩ := List.cons.inj hq'
      exact .inl (by simp)
  | served h => rw [h.queue] at hq; cases hq
  | answered h => rw [h.queue] at hq; cases hq

theorem work (h : Attends n v l) {j : Journal} {r : Worked}
    (hw : l.writer.work Journal.sink l.sink = some (j, r))
    (hok : ∀ batch, .append batch false ∉ l.writer.phase.deeds Journal.sink l.sink)
    (hload : l.writer.phase.Loaded) (hf : Stored.Follows n l.writer.phase.batch)
    (hsmall : n.toNat + l.writer.phase.batch.length < 2 ^ 64) :
    Attends (n + l.writer.phase.batch.length.toUInt64) { v with link := some (l.worked j r) }
      (l.worked j r) := by
  have hlink := Link.works_of_work hw fun hp => Phase.append_ok hok hp
  have hworks : l.writer.phase.Works l.sink j r.writer.phase r.reply.isSome := hlink.work
  obtain ⟨hmarks, hsaid⟩ := Writer.marks_of_work hw h.marks hok hload hf hsmall
  refine ⟨rfl, h.stage.works hlink, hmarks, fun e hd => ?_⟩
  have hreply : l.reply = none := h.reply_eq_none hd fun hc => by
    rcases hc.2 with hp | hp <;> rw [hp] at hworks <;> cases hworks
  cases hr : r.reply with
  | some q =>
    refine .inl ?_
    rw [Link.worked, hr, hsaid q hr]
    rfl
  | none =>
    have hnone : (l.worked j r).reply = none := by
      rw [Link.worked, hr]
      exact hreply
    refine .inr ⟨hnone, ?_⟩
    have hs := h.stage
    rw [show v.desk = .waiting e from hd] at hs
    rw [hr] at hworks
    cases hs with
    | asked hq => exact .inl (by rw [Link.worked, hq]; simp)
    | served he hserves _ hm =>
      rcases hserves.works hm.batch? hworks with ⟨hserves', -⟩ | ⟨-, hb⟩
      · exact .inr ⟨hserves'.ne_idle, hserves'.ne_closed⟩
      · cases hb
    | answered he hp hm =>
      rw [hp] at hworks
      cases hm <;> cases hworks

theorem turn (h : Attends n v l)
    (ht : l.turn? settings Journal.sink (v.desk == .stopped) = some l')
    (hok : ∀ batch, .append batch false ∉ l.writer.phase.deeds Journal.sink l.sink)
    (hload : l.writer.phase.Loaded) (hf : Stored.Follows n l.writer.phase.batch)
    (hsmall : n.toNat + l.writer.phase.batch.length < 2 ^ 64) :
    Attends (n + l.writer.phase.batch.length.toUInt64) { v with link := some l' } l' := by
  have hstay : l.writer.phase = .idle → n + l.writer.phase.batch.length.toUInt64 = n := by
    intro hi
    rw [hi]
    exact UInt64.add_zero n
  rcases Link.turn?_cases ht with ⟨m, queue, hp, hq, rfl⟩ | ⟨hp, hq, hlast, rfl⟩ | ⟨j, r, hw, rfl⟩
  · rw [hstay hp]
    exact h.take hp hq settings
  · have hd : v.desk = .stopped := beq_iff_eq.1 hlast
    have hs := h.stage
    rw [hd] at hs
    obtain ⟨hdurable, -, hflush⟩ := l.writer.setOut_frame true .close hload
    rw [hstay hp]
    refine ⟨rfl, ?_, h.marks.of_idle hp hdurable hflush, fun e he => ?_⟩
    · show Stage v.session.snapshot _ v.desk
      rw [hd]
      exact hs.last hp hq
    · cases hd.symm.trans he
  · exact h.work hw hok hload hf hsmall

theorem timer (h : Attends n v l) (ht : l.timer? = some l') :
    Attends n { v with link := some l' } l' := by
  have hstage := h.stage.timer ht
  obtain ⟨hi, hpend, rfl⟩ := Link.timer?_eq_some ht
  refine ⟨rfl, hstage, h.marks.of_idle hi rfl (by simp), fun e hd => .inr ⟨?_, .inr (by simp)⟩⟩
  exact h.reply_eq_none hd fun hc => hpend hc.1.pending

/-! ### Turns of the desk -/

theorem replied (h : Attends n v l) {e : Awaited} (hd : v.desk = .waiting e) {r : Reply}
    (hr : l.reply = some r) :
    Attends n (Live.replied { v with link := some { l with reply := none } } r e).1
      { l with reply := none } := by
  have hs := h.stage
  rw [hd] at hs
  cases e with
  | flush | checkpoint | logged seq | shutdown =>
    exact .of_not_waiting (hs.replied hr _) h.marks (by simp)

theorem deskTurn (h : Attends n v l) (ht : Live.DeskTurns settings v l w sig) :
    ∃ l', Attends n w l' := by
  have hs := h.stage
  cases ht with
  | @passed r notices hd hr =>
    rw [hd] at hs
    cases hs with
    | ready hcalm =>
      have hstage : Stage v.session.snapshot { l with notices } v.desk := by
        rw [hd]
        exact .ready ⟨hcalm.queue, hcalm.phase, hcalm.reply⟩
      exact ⟨{ l with notices }, .of_not_waiting hstage h.marks (by simp [hd])⟩
  | deserted hd ho =>
    rw [hd] at hs
    cases hs with
    | sending hcalm hm => exact absurd ho (hcalm.outlet_ne_closed settings)
  | @sent m e hd ho hfull =>
    rw [hd] at hs
    cases hs with
    | sending hcalm hm =>
      refine ⟨l.send m, rfl, .asked rfl hcalm.queue hcalm.phase hcalm.reply hm, h.marks,
        fun e' _ => .inr ⟨hcalm.reply, .inl ?_⟩⟩
      simp [Link.send]
  | heard hd hr => exact ⟨_, h.replied hd hr⟩

/-! ### Commands -/

theorem logged (h : Attends n v l) (hd : v.desk = .ready) (g : Logged) :
    ∃ l', Attends n (v.logged settings g).1 l' := by
  have hs := h.stage
  rw [hd] at hs
  cases hs with
  | ready hcalm =>
    have hcalm' := hcalm.handOver g.batch
    have hmarks : (if g.batch.isEmpty then l else l.send (.append g.batch)).writer.Marks n := by
      split <;> exact h.marks
    rw [Live.logged, h.link]
    simp only
    by_cases hdue : g.session.snapshotDue settings = true
    · rw [if_pos hdue]
      exact ⟨_, .of_not_waiting (.sending hcalm' (.logged _ _)) hmarks (by simp)⟩
    · rw [if_neg hdue, hd]
      exact ⟨_, .of_not_waiting (.ready hcalm') hmarks (by simp)⟩

theorem carryOut (h : Attends n v l) (settings : Settings) (hd : v.desk = .ready) (c : Command) :
    ∃ l', Attends n (v.carryOut settings c).1 l' := by
  have hs := h.stage
  rw [hd] at hs
  cases hs with
  | ready hcalm =>
    have hask : ∀ {m e}, Request v.session.snapshot m e →
        ∃ l', Attends n ⟨v.session, .sending m e, some l⟩ l' := fun hm =>
      ⟨l, .of_not_waiting (.sending hcalm hm) h.marks (by simp)⟩
    have hkeep : ∀ s : Session, ∃ l', Attends n ⟨s, v.desk, v.link⟩ l' := by
      intro s
      rw [hd, h.link]
      exact ⟨l, .of_not_waiting (.ready hcalm) h.marks (by simp)⟩
    cases c with
    | log call x time =>
      rw [Live.carryOut]
      cases v.session.log settings (v.outlet settings) call x time with
      | error e => exact ⟨l, h⟩
      | ok g => exact h.logged hd g
    | parse text country mode => exact ⟨l, h⟩
    | learn field value => exact hkeep _
    | setMult field b => exact hkeep _
    | flush =>
      rw [Live.carryOut, Live.request, h.link]
      exact hask .flush
    | checkpoint =>
      rw [Live.carryOut, Live.request, h.link]
      exact hask (.checkpoint _)
    | shutdown =>
      rw [Live.carryOut, h.link]
      exact hask .shutdown

/-- **A step** moves the mark behind what it hands over, and no reply is wrong. -/
theorem step (h : Attends n v l) (hs : v.step settings Journal.sink t = some (w, sig))
    (hok : ∀ batch, .append batch false ∉ v.deeds Journal.sink t)
    (hload : l.writer.phase.Loaded) (hf : Stored.Follows n l.writer.phase.batch)
    (hsmall : n.toNat + l.writer.phase.batch.length < 2 ^ 64) :
    ∃ l', Attends (n + ((v.deeds Journal.sink t).flatMap Deed.batch).length.toUInt64) w l' := by
  have hquiet : t ≠ .writer → (∃ l', Attends n w l') →
      ∃ l', Attends (n + ((v.deeds Journal.sink t).flatMap Deed.batch).length.toUInt64) w l' := by
    intro ht hw
    rw [v.deeds_of_ne_writer Journal.sink ht, List.flatMap_nil, Stored.add_length_nil]
    exact hw
  cases Live.turns_of_step hs with
  | carriedOut hd c => exact hquiet (by simp) (h.carryOut settings hd c)
  | refused hd c => exact hquiet (by simp) ⟨l, h⟩
  | desk hl hdesk =>
    cases h.link.symm.trans hl
    exact hquiet (by simp) (h.deskTurn hdesk)
  | writer hl hturn =>
    cases h.link.symm.trans hl
    simp only [Live.deeds, h.link] at hok ⊢
    rw [Phase.flatMap_deeds]
    exact ⟨_, h.turn hturn hok hload hf hsmall⟩
  | timer hl htimer =>
    cases h.link.symm.trans hl
    exact hquiet (by simp) ⟨_, h.timer htimer⟩
  | left hd =>
    have hstage := h.stage
    rw [hd] at hstage
    cases hstage with
    | ready hcalm =>
      refine hquiet (by simp) ?_
      rw [h.link]
      exact ⟨l, .of_not_waiting (.left hcalm) h.marks (by simp)⟩

/-! ### Nobody waits for ever -/

theorem exists_turn (k : Sink Journal) (settings : Settings) (isLast : Bool)
    (hdo : l.queue ≠ [] ∨ l.writer.phase ≠ .idle) (hc : l.writer.phase ≠ .closed) :
    ∃ l', l.turn? settings k isLast = some l' := by
  rw [Link.turn?.eq_def]
  split
  · exact ⟨_, rfl⟩
  · rename_i hi hq
    rcases hdo with hdo | hdo
    · exact absurd hq hdo
    · exact absurd hi hdo
  · rename_i hnot₁ hnot₂
    have hi : l.writer.phase ≠ .idle := by
      intro hi
      cases hq : l.queue with
      | nil => exact hnot₂ hi hq
      | cons m queue => exact hnot₁ m queue hi hq
    obtain ⟨q, hq⟩ := Writer.exists_work k l.sink hi hc
    rw [hq]
    exact ⟨_, rfl⟩

/-- **Whoever waits can go on**: if neither desk nor writer can, the desk waits for nothing. -/
theorem not_waiting (h : Attends n v l) (hfull : v.outlet settings ≠ .full)
    (hstuck : v.goOn? settings Journal.sink false = none) :
    v.desk = .ready ∨ v.desk = .stopped := by
  rw [Live.goOn?] at hstuck
  split at hstuck
  · cases hstuck
  · rename_i hdesk
    simp only [Bool.false_and, Bool.false_eq_true, if_false, Live.step, h.link, Option.bind_some,
      Option.map_eq_none_iff] at hdesk hstuck
    have hs := h.stage
    rw [Live.deskTurn?] at hdesk
    cases hd : v.desk with
    | ready => exact .inl rfl
    | stopped => exact .inr rfl
    | sending m e =>
      rw [hd] at hs
      simp only [hd] at hdesk
      rw [Live.outlet, h.link] at hfull
      split at hdesk
      · cases hdesk
      · rename_i ho
        exact absurd ho hfull
      · cases hdesk
    | waiting e =>
      simp only [hd] at hdesk
      rcases h.hears e hd with hr | ⟨-, hdo⟩
      · rw [hr] at hdesk
        cases hdesk
      · have hc : l.writer.phase ≠ .closed := by
          intro hc
          rcases hdo with hq | ⟨-, hp⟩
          · exact hq (hs.of_closed hc).queue
          · exact hp hc
        obtain ⟨l', hl'⟩ := exists_turn Journal.sink settings (v.desk == .stopped)
          (hdo.imp_right And.left) hc
        rw [hl'] at hstuck
        cases hstuck

end Attends

end ContestExchange
