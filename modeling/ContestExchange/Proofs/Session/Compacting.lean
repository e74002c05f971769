import ContestExchange.Proofs.Session.Numbering

/-!
# Dropping rows bounds the journal

If what a snapshot covers is dropped, and a snapshot comes due after so many
observations, the journal stays small: as long as no answer to a logged exchange is
outstanding it has fewer rows, those that are still on their way included
(`Live.size_lt_of_run`).

The session counts the observations since a snapshot last came due, and there are never
more rows and observations on their way than it has counted (`Swept.load`).  A snapshot
that somebody asks for drops rows and leaves the count alone.  One that came due sets the
count to 0 when the desk has the reply, and by then every row has been dropped
(`Swept.cleared`): nothing was on its way when the rows were, and no row has a number above
the snapshot's.
-/

namespace ContestExchange

variable {settings : Settings}

/-! ### How many rows there are -/

theorem Dictionary.size_put_le {κ ν : Type} [DecidableEq κ] (d : Dictionary κ ν) (k : κ) (v : ν) :
    (d.put k v).size ≤ d.size + 1 := by
  have hsize : ∀ d : Dictionary κ ν, d.size = d.keys.length := fun d => (List.length_map _).symm
  rw [hsize, hsize, keys_put]
  split
  · exact Nat.le_succ _
  · rw [List.length_append]
    exact Nat.le_refl _

namespace Journal

variable {j j' : Journal}

theorem size_foldlM_insert {batch : List Stored} (h : batch.foldlM insert j = .ok j') :
    j'.rows.size ≤ j.rows.size + batch.length := by
  induction batch generalizing j with
  | nil =>
    obtain rfl := Except.ok.inj h
    exact Nat.le_refl _
  | cons s r ih =>
    rw [List.foldlM_cons] at h
    cases hs : j.insert s with
    | error e =>
      rw [hs] at h
      cases h
    | ok j₁ =>
      rw [hs] at h
      have hrest := ih h
      have hfirst : j₁.rows.size ≤ j.rows.size + 1 := by
        rw [(insert_eq_ok hs).2]
        exact j.rows.size_put_le _ _
      rw [List.length_cons]
      omega

theorem size_append {batch : List Stored} {r : Journal × UInt64} (h : j.append batch = .ok r) :
    r.1.rows.size ≤ j.rows.size + batch.length := by
  rw [append] at h
  split at h
  · obtain rfl := Except.ok.inj h
    exact Nat.le_add_right _ _
  · cases hf : batch.foldlM insert j with
    | error e =>
      rw [hf] at h
      cases h
    | ok j₁ =>
      rw [hf] at h
      obtain rfl := Except.ok.inj h
      exact size_foldlM_insert hf

theorem size_compactThrough (j : Journal) (seq : UInt64) :
    (j.compactThrough seq).1.rows.size ≤ j.rows.size :=
  List.length_filter_le _ _

/-- **Under the highest number every row is dropped.** -/
theorem Tops.size_compactThrough {n : UInt64} (h : j.Tops n) :
    (j.compactThrough n).1.rows.size = 0 := by
  have hnil : (j.rows.restrict fun k => decide (n.toInt64 < k)).entries = [] := by
    refine List.filter_eq_nil_iff.2 fun e he hlt => ?_
    exact Int64.not_le.2 (of_decide_eq_true hlt) (h.key_le (List.mem_map_of_mem he))
  exact congrArg List.length hnil

end Journal

/-- **A piece of work adds no more rows than it hands over.** -/
theorem Phase.Works.size_le {p p' : Phase} {j j' : Journal} {b : Bool} (h : p.Works j j' p' b) :
    j'.rows.size ≤ j.rows.size + p.batch.length := by
  cases h with
  | append ha e => exact Journal.size_append ha
  | hand ha e => exact Journal.size_append ha
  | flush appended e => exact Nat.le_refl _
  | snapshot s => exact Nat.le_refl _
  | cover s => exact Nat.le_refl _
  | compact seq => exact Journal.size_compactThrough j seq

/-! ### Which snapshots drop rows -/

/-- A snapshot drops rows if the settings say so. -/
def Errand.Obeys (settings : Settings) : Errand → Prop
  | .checkpoint _ compact => compact = settings.compactAfterSnapshot
  | _ => True

def Phase.Obeys (settings : Settings) : Phase → Prop
  | .appending _ _ e => e.Obeys settings
  | .flushing _ e => e.Obeys settings
  | .snapshotting _ compact => compact = settings.compactAfterSnapshot
  | _ => True

def Desk.Obeys (settings : Settings) : Desk → Prop
  | .sending m _ => m.errand.Obeys settings
  | _ => True

/-- Every snapshot on its way drops rows if the settings say so. -/
structure Link.Obeys {σ : Type} (settings : Settings) (l : Link σ) : Prop where
  queue : ∀ m ∈ l.queue, m.errand.Obeys settings
  phase : l.writer.phase.Obeys settings

theorem Errand.Obeys.next {e : Errand} (h : e.Obeys settings) : e.next.Obeys settings := by
  cases e with
  | checkpoint s compact => exact h
  | routine | sync | close => trivial

theorem Phase.Obeys.works {p p' : Phase} {j j' : Journal} {b : Bool} (h : p.Obeys settings)
    (hw : p.Works j j' p' b) : p'.Obeys settings := by
  cases hw with
  | append ha e => exact h
  | hand ha e => exact Errand.Obeys.next h
  | flush appended e => exact Errand.Obeys.next h
  | snapshot s => trivial
  | cover s => trivial
  | compact seq => trivial

theorem Writer.obeys_setOut {w : Writer} (h : w.phase.Obeys settings) (sync : Bool) {e : Errand}
    (he : e.Obeys settings) : (w.setOut sync e).phase.Obeys settings := by
  rw [setOut]
  split
  · split
    · exact he
    · exact h
  · exact he

theorem Writer.obeys_take {w : Writer} (h : w.phase.Obeys settings) {m : Message}
    (hm : m.errand.Obeys settings) : (w.take settings m).phase.Obeys settings := by
  cases hb : m.batch? with
  | none =>
    rw [w.take_request settings hb]
    exact obeys_setOut h true hm
  | some batch =>
    obtain rfl : m = .append batch := by
      cases m with
      | append b => rw [Option.some.inj hb]
      | sync | checkpoint | close => cases hb
    rcases w.take_append settings batch with he | he
    · rw [he]
      exact h
    · rw [he]
      exact obeys_setOut (w := { w with pending := w.pending ++ batch }) h true hm

namespace Link.Obeys

variable {σ : Type} {l l' : Link σ}

theorem send (h : l.Obeys settings) {m : Message} (hm : m.errand.Obeys settings) :
    (l.send m).Obeys settings := by
  refine ⟨fun m' hm' => ?_, h.phase⟩
  rcases List.mem_append.1 hm' with hm' | hm'
  · exact h.queue m' hm'
  · rw [List.mem_singleton.1 hm']
    exact hm

theorem timer (h : l.Obeys settings) (ht : l.timer? = some l') : l'.Obeys settings := by
  obtain ⟨-, -, rfl⟩ := timer?_eq_some ht
  exact ⟨h.queue, trivial⟩

end Link.Obeys

/-! ### What a step does to the count -/

namespace Live

variable {σ : Type} {k : Sink σ} {v w : Live σ} {l : Link σ} {t : Turn} {sig : List Signal}

/-- What a step does to the desk and to the count of observations. -/
inductive Tallies (settings : Settings) (v : Live σ) (l : Link σ) : Turn → Live σ → Prop
  /-- The desk stays at what it is at. -/
  | stays {t : Turn} {w : Live σ} (hb : v.brought settings t = [])
    (hn : w.session.sinceSnapshot = v.session.sinceSnapshot) (hd : w.desk = v.desk) :
    Tallies settings v l t w
  /-- The desk turns to a request, or stops. -/
  | turns {t : Turn} {w : Live σ} (hd : v.desk = .ready) (hb : v.brought settings t = [])
    (hn : w.session.sinceSnapshot = v.session.sinceSnapshot)
    (hw : w.desk = .stopped ∨ ∃ m e, w.desk = .sending m e ∧ m.errand.Obeys settings) :
    Tallies settings v l t w
  /-- An exchange is logged. -/
  | logs {call : String} {x : Exchange} {time : UInt64} {g : Logged} (hd : v.desk = .ready)
    (hg : v.session.log settings (v.outlet settings) call x time = .ok g) :
    Tallies settings v l (.command (.log call x time)) (v.logged settings g).1
  /-- The desk sends its message and waits from then on. -/
  | sends {m : Message} {e : Awaited} {w : Live σ} (hd : v.desk = .sending m e)
    (hn : w.session.sinceSnapshot = v.session.sinceSnapshot) (hw : w.desk = .waiting e) :
    Tallies settings v l .desk w
  /-- The desk has the reply that it waited for. -/
  | hears {r : Reply} {e : Awaited} (hd : v.desk = .waiting e) (hr : l.reply = some r) :
    Tallies settings v l .desk
      (replied ⟨v.session, .waiting e, some { l with reply := none }⟩ r e).1
  /-- The desk finds that the writer has ended. -/
  | deserted {m : Message} {e : Awaited} {w : Live σ} (hd : v.desk = .sending m e)
    (ho : l.outlet settings = .closed) : Tallies settings v l .desk w

theorem tallies_carryOut (hl : v.link = some l) (hd : v.desk = .ready) (c : Command) :
    Tallies settings v l (.command c) (v.carryOut settings c).1 := by
  cases c with
  | log call x time =>
    rw [carryOut]
    cases hg : v.session.log settings (v.outlet settings) call x time with
    | ok g => exact .logs hd hg
    | error e =>
      refine .stays ?_ rfl rfl
      rw [brought, if_pos hd, hg]
  | parse text country mode => exact .stays rfl rfl rfl
  | learn field value => exact .stays rfl rfl rfl
  | setMult field b => exact .stays rfl rfl rfl
  | flush =>
    rw [carryOut, request, hl]
    exact .turns hd rfl rfl (.inr ⟨_, _, rfl, trivial⟩)
  | checkpoint =>
    rw [carryOut, request, hl]
    exact .turns hd rfl rfl (.inr ⟨_, _, rfl, rfl⟩)
  | shutdown =>
    rw [carryOut, hl]
    exact .turns hd rfl rfl (.inr ⟨_, _, rfl, trivial⟩)

theorem tallies_deskTurn (h : DeskTurns settings v l w sig) : Tallies settings v l .desk w := by
  cases h with
  | passed hd => exact .stays rfl rfl rfl
  | deserted hd ho => exact .deserted hd ho
  | sent hd => exact .sends hd rfl rfl
  | heard hd hr =>
    rw [hd]
    exact .hears hd hr

/-- **What a step does to the count.** -/
theorem tallies_of_step (hl : v.link = some l) (h : v.step settings k t = some (w, sig)) :
    Tallies settings v l t w := by
  cases turns_of_step h with
  | carriedOut hd c => exact tallies_carryOut hl hd c
  | refused hd c => exact .stays (brought_of_not_ready settings (by simp [hd]) _) rfl rfl
  | desk hl' hdesk =>
    cases hl.symm.trans hl'
    exact tallies_deskTurn hdesk
  | writer | timer => exact .stays rfl rfl rfl
  | left hd => exact .turns hd rfl rfl (.inl rfl)

theorem flatten_brought_of_log (hd : v.desk = .ready) {call : String} {x : Exchange}
    {time : UInt64} {g : Logged}
    (hg : v.session.log settings (v.outlet settings) call x time = .ok g) :
    (v.brought settings (.command (.log call x time))).flatten = g.batch := by
  rw [brought, if_pos hd, hg]
  simp only
  split
  · rename_i hb
    exact (List.isEmpty_iff.1 hb).symm
  · exact List.flatten_singleton

/-- After an exchange is logged the answer is outstanding, or no snapshot is due. -/
theorem desk_logged (hl : v.link = some l) (settings : Settings) (g : Logged) :
    (v.logged settings g).1.desk =
        .sending (checkpointMessage g.session settings) (.logged g.session.lastSeq) ∨
      (v.logged settings g).1.desk = v.desk ∧ g.session.snapshotDue settings = false := by
  rw [logged, hl]
  simp only
  split
  · exact .inl rfl
  · rename_i hdue
    exact .inr ⟨rfl, by simpa using hdue⟩

end Live

/-! ### What is on its way -/

/-- The observations that have not reached the sink: about to be handed over, waiting, and in
the queue. -/
def Link.underway {σ : Type} (l : Link σ) : List Stored :=
  l.writer.phase.batch ++ l.writer.pending ++ (l.queue.filterMap Message.batch?).flatten

theorem Link.Carries.flatten_eq {σ : Type} {l : Link σ} {rest : List (List Stored)}
    (h : l.Carries rest) : rest.flatten = l.underway := by
  obtain ⟨handed, waiting, rfl, hh, hw⟩ := h
  rw [List.flatten_append, List.flatten_append, hh, hw]
  rfl

section
variable {base : UInt64} {done rest : List (List Stored)} {v w : Live Journal}
  {l l' : Link Journal} {t : Turn} {ts : List Turn} {sig : List Signal}

namespace Counts

theorem seq_of_compacting (h : Counts base done rest v l) {seq : UInt64}
    (hp : l.writer.phase = .compacting seq) : seq = base + done.flatten.length.toUInt64 := by
  obtain ⟨⟨before, -, rfl⟩, he⟩ := h.truthful.attends.stage.of_compacting hp
  exact h.lastSeq_eq he (by rw [hp]; rfl)

theorem calm_of_sending (h : Counts base done rest v l) {m : Message} {e : Awaited}
    (hd : v.desk = .sending m e) : l.Calm := by
  have hs := h.truthful.attends.stage
  rw [hd] at hs
  cases hs with
  | sending hcalm => exact hcalm

theorem outlet_ne_closed (h : Counts base done rest v l) {m : Message} {e : Awaited}
    (hd : v.desk = .sending m e) : l.outlet settings ≠ .closed :=
  (h.calm_of_sending hd).outlet_ne_closed settings

theorem size_step (h : Counts base done rest v l)
    (hs : v.step settings Journal.sink t = some (w, sig)) (hl : w.link = some l')
    (hn : base.toNat + (done ++ rest).flatten.length < 2 ^ 63) :
    l'.sink.rows.size ≤
      l.sink.rows.size + ((v.deeds Journal.sink t).flatMap Deed.batch).length := by
  by_cases ht : t = .writer
  · subst ht
    obtain ⟨l'', hturn, rfl⟩ := Live.turn_of_step h.truthful.hands.link hs
    cases hl
    rw [Live.deeds, h.truthful.hands.link]
    simp only [Phase.flatMap_deeds]
    rcases Link.turn?_cases hturn with ⟨m, queue, -, -, rfl⟩ | ⟨-, -, -, rfl⟩ | ⟨j, r, hw, rfl⟩
    · exact Nat.le_add_right _ _
    · exact Nat.le_add_right _ _
    · exact (h.works hw hn).work.size_le
  · rw [Live.sink_of_step h.truthful.hands.link hs ht hl]
    exact Nat.le_add_right _ _

end Counts

theorem Phase.Serves.compacts {p p' : Phase} {j j' : Journal} {snap : Snapshot} {compact : Bool}
    (h : p.Serves (.checkpoint snap compact) j) (ho : p.Obeys settings)
    (hc : settings.compactAfterSnapshot = true) (hw : p.Works j j' p' true) :
    ∃ seq, p = .compacting seq ∧ j' = (j.compactThrough seq).1 := by
  cases h with
  | appending batch => cases hw
  | flushing appended => cases hw
  | snapshotting hm =>
    obtain rfl := Eq.trans ho hc
    cases hw
  | compacting before hm hj =>
    cases hw
    exact ⟨_, rfl, rfl⟩

/-! ### One life -/

/-- A session with a journal that is small: what it holds and what is on its way was counted, and
when a snapshot that came due is answered nothing is left. -/
structure Swept (settings : Settings) (base : UInt64) (done rest : List (List Stored))
    (v : Live Journal) (l : Link Journal) : Prop where
  counts : Counts base done rest v l
  load : l.sink.rows.size + rest.flatten.length ≤ v.session.sinceSnapshot
  due : (∀ n, ¬v.Owes n) → v.session.sinceSnapshot < settings.snapshotEveryOps
  desk : v.desk.Obeys settings
  link : l.Obeys settings
  cleared : ∀ n, v.desk = .waiting (.logged n) → l.reply.isSome = true → l.sink.rows.size = 0

namespace Swept

/-! ### The snapshots on their way -/

theorem obeys_turn (h : Swept settings base done rest v l) {isLast : Bool}
    (ht : l.turn? settings Journal.sink isLast = some l')
    (hn : base.toNat + (done ++ rest).flatten.length < 2 ^ 63) : l'.Obeys settings := by
  have hqueue := h.link.queue
  rcases Link.turn?_cases ht with ⟨m, queue, -, hq, rfl⟩ | ⟨-, -, -, rfl⟩ | ⟨j, r, hw, rfl⟩
  · rw [hq] at hqueue
    exact ⟨fun m' hm' => hqueue m' (List.mem_cons_of_mem m hm'),
      Writer.obeys_take h.link.phase (hqueue m List.mem_cons_self)⟩
  · exact ⟨hqueue, Writer.obeys_setOut h.link.phase true trivial⟩
  · exact ⟨hqueue, h.link.phase.works (h.counts.works hw hn).work⟩

theorem obeys_step (h : Swept settings base done rest v l)
    (hs : v.step settings Journal.sink t = some (w, sig)) (hl : w.link = some l')
    (hn : base.toNat + (done ++ rest).flatten.length < 2 ^ 63) : l'.Obeys settings := by
  cases Live.steps_of_step h.counts.truthful.hands.link hs with
  | aside =>
    cases hl
    exact h.link
  | logged =>
    cases hl
    split
    · exact h.link
    · exact h.link.send trivial
  | passed | replied =>
    cases hl
    exact ⟨h.link.queue, h.link.phase⟩
  | sent hd =>
    cases hl
    have hm := h.desk
    rw [hd] at hm
    exact h.link.send hm
  | worked hturn =>
    cases hl
    exact h.obeys_turn hturn hn
  | waited htimer =>
    cases hl
    exact h.link.timer htimer

theorem desk_step (h : Swept settings base done rest v l)
    (hs : v.step settings Journal.sink t = some (w, sig)) : w.desk.Obeys settings := by
  have hl := h.counts.truthful.hands.link
  cases Live.tallies_of_step hl hs with
  | stays hb hn hd =>
    rw [hd]
    exact h.desk
  | turns hd hb hn hw =>
    rcases hw with hw | ⟨m, e, hw, hm⟩
    · rw [hw]
      trivial
    · rw [hw]
      exact hm
  | @logs call x time g hd hg =>
    rcases Live.desk_logged hl settings g with hw | ⟨hw, -⟩
    · rw [hw]
      rfl
    · rw [hw]
      exact h.desk
  | sends hd hn hw =>
    rw [hw]
    trivial
  | @hears r e hd hr => cases e <;> trivial
  | deserted hd ho => exact absurd ho (h.counts.outlet_ne_closed hd)

/-! ### The rows -/

/-- The reply to a snapshot that came due comes when the rows have been dropped. -/
theorem cleared_turn (h : Swept settings base done rest v l)
    (hc : settings.compactAfterSnapshot = true) {isLast : Bool} {n : UInt64}
    (ht : l.turn? settings Journal.sink isLast = some l') (hd : v.desk = .waiting (.logged n))
    (hr : l'.reply.isSome = true)
    (hn : base.toNat + (done ++ rest).flatten.length < 2 ^ 63) : l'.sink.rows.size = 0 := by
  rcases Link.turn?_cases ht with ⟨m, queue, -, -, rfl⟩ | ⟨-, -, -, rfl⟩ | ⟨j, r, hw, rfl⟩
  · exact h.cleared n hd hr
  · exact h.cleared n hd hr
  · have hworks := h.counts.works hw hn
    have hsome : ∀ {b}, l.reply = none → l.Works b (l.worked j r) → b = true := by
      intro b hnone hworks
      cases b with
      | true => rfl
      | false => rw [hworks.reply rfl, hnone] at hr; cases hr
    have hs := h.counts.truthful.attends.stage
    rw [hd] at hs
    cases hs with
    | asked hq hb hp hnone hm =>
      have hquiet := (hp.works hworks.work).2
      rw [hsome hnone hworks] at hquiet
      cases hquiet
    | answered he hp hm =>
      have hwork := hworks.work
      rw [hp] at hwork
      cases hm
      cases hwork
    | served he hserves hnone hm =>
      have hwork := hworks.work
      rw [hsome hnone hworks] at hwork
      cases hm with
      | logged compact =>
        obtain ⟨seq, hp, hj⟩ := hserves.compacts h.link.phase hc hwork
        rw [hj, h.counts.seq_of_compacting hp]
        exact h.counts.tops.size_compactThrough

theorem cleared_waiting (h : Swept settings base done rest v l)
    (hc : settings.compactAfterSnapshot = true)
    (hs : v.step settings Journal.sink t = some (w, sig)) (hl : w.link = some l') {n : UInt64}
    (hd : v.desk = .waiting (.logged n)) (hr : l'.reply.isSome = true)
    (hn : base.toNat + (done ++ rest).flatten.length < 2 ^ 63) : l'.sink.rows.size = 0 := by
  cases Live.steps_of_step h.counts.truthful.hands.link hs with
  | aside ht hb hnot => exact absurd hd (hnot _)
  | logged hother | passed hother | sent hother =>
    rw [hother] at hd
    cases hd
  | replied =>
    cases hl
    cases hr
  | worked hturn =>
    cases hl
    exact h.cleared_turn hc hturn hd hr hn
  | waited htimer =>
    cases hl
    obtain ⟨-, -, rfl⟩ := Link.timer?_eq_some htimer
    exact h.cleared n hd hr

/-- When a snapshot that came due is answered every row has been dropped. -/
theorem cleared_step (h : Swept settings base done rest v l)
    (hc : settings.compactAfterSnapshot = true)
    (hs : v.step settings Journal.sink t = some (w, sig)) (hl : w.link = some l')
    (hn : base.toNat + (done ++ rest).flatten.length < 2 ^ 63) (n : UInt64)
    (hd : w.desk = .waiting (.logged n)) (hr : l'.reply.isSome = true) :
    l'.sink.rows.size = 0 := by
  have hlink := h.counts.truthful.hands.link
  cases Live.tallies_of_step hlink hs with
  | stays hb hsame hdesk => exact h.cleared_waiting hc hs hl (hdesk.symm.trans hd) hr hn
  | turns hready hb hsame hw =>
    rw [hd] at hw
    rcases hw with hw | ⟨m, e, hw, -⟩ <;> cases hw
  | @logs call x time g hready hg =>
    rcases Live.desk_logged hlink settings g with hw | ⟨hw, -⟩
    · rw [hw] at hd
      cases hd
    · rw [hw, hready] at hd
      cases hd
  | sends hsend =>
    -- the reply cannot be there before the message is sent
    have hnone := (h.counts.calm_of_sending hsend).reply
    cases Live.steps_of_step hlink hs with
    | aside =>
      cases hl
      rw [hnone] at hr
      cases hr
    | passed hready =>
      rw [hsend] at hready
      cases hready
    | sent =>
      cases hl
      rw [show (l.send _).reply = none from hnone] at hr
      cases hr
    | replied =>
      cases hl
      cases hr
  | @hears r e hwait hreply => cases e <;> cases hd
  | deserted hsend ho => exact absurd ho (h.counts.outlet_ne_closed hsend)

/-! ### The count -/

theorem of_reply (h : Swept settings base done rest v l) {e : Awaited} (hd : v.desk = .waiting e)
    {r : Reply} (hr : l.reply = some r) : (∃ n, r = .ok n) ∧ rest.flatten = [] := by
  obtain ⟨hok, hempty, hp⟩ := h.counts.truthful.attends.of_reply hd hr
  refine ⟨⟨_, hok⟩, h.counts.truthful.flatten_eq_nil hempty ?_⟩
  rcases hp with hp | hp <;> rw [hp] <;> rfl

theorem load_step (h : Swept settings base done rest v l)
    (hs : v.step settings Journal.sink t = some (w, sig)) :
    l.sink.rows.size + (rest ++ v.brought settings t).flatten.length ≤ w.session.sinceSnapshot := by
  have hload := h.load
  cases Live.tallies_of_step h.counts.truthful.hands.link hs with
  | stays hb hsame | turns hd hb hsame =>
    rw [hb, List.append_nil, hsame]
    exact hload
  | @logs call x time g hd hg =>
    have hcount := (Session.counted_of_log hg).2.2
    rw [Live.session_logged, List.flatten_append, Live.flatten_brought_of_log hd hg,
      List.length_append]
    omega
  | sends hd hsame =>
    rw [show v.brought settings .desk = [] from rfl, List.append_nil, hsame]
    exact hload
  | @hears r e hd hr =>
    rw [show v.brought settings .desk = [] from rfl, List.append_nil]
    cases e with
    | flush | checkpoint | shutdown => exact hload
    | logged n =>
      obtain ⟨⟨n', rfl⟩, hnil⟩ := h.of_reply hd hr
      have hrows := h.cleared n hd (by rw [hr]; rfl)
      rw [hnil, hrows]
      exact Nat.le_refl 0
  | deserted hd ho => exact absurd ho (h.counts.outlet_ne_closed hd)

/-- No more is counted than may be, unless the answer to a logged exchange is outstanding. -/
theorem due_step (h : Swept settings base done rest v l) (hN : 1 ≤ settings.snapshotEveryOps)
    (hs : v.step settings Journal.sink t = some (w, sig)) (hw : ∀ n, ¬w.Owes n) :
    w.session.sinceSnapshot < settings.snapshotEveryOps := by
  have hl := h.counts.truthful.hands.link
  cases Live.tallies_of_step hl hs with
  | stays hb hsame hd =>
    rw [hsame]
    refine h.due fun n ho => hw n ?_
    rw [Live.Owes, hd]
    exact ho
  | turns hd hb hsame =>
    rw [hsame]
    exact h.due fun n ho => ho.ne_ready hd
  | @logs call x time g hd hg =>
    rcases Live.desk_logged hl settings g with hdesk | ⟨-, hdue⟩
    · exact absurd (.inl ⟨_, hdesk⟩) (hw g.session.lastSeq)
    · rw [Live.session_logged]
      rw [Session.snapshotDue] at hdue
      simp only [Bool.and_eq_false_iff, bne_eq_false_iff_eq, decide_eq_false_iff_not] at hdue
      omega
  | @sends m e w hd hsame hdesk =>
    rw [hsame]
    refine h.due fun n ho => hw n ?_
    rcases ho with ⟨m', ho⟩ | ho
    · obtain ⟨-, rfl⟩ := Desk.sending.inj (hd.symm.trans ho)
      exact .inr hdesk
    · rw [hd] at ho
      cases ho
  | @hears r e hd hr =>
    have hother : (∀ n, e ≠ .logged n) → v.session.sinceSnapshot < settings.snapshotEveryOps := by
      intro hne
      refine h.due fun n ho => ?_
      rcases ho with ⟨m, ho⟩ | ho
      · rw [hd] at ho
        cases ho
      · exact hne n (Desk.waiting.inj (hd.symm.trans ho))
    cases e with
    | flush | checkpoint | shutdown => exact hother (by simp)
    | logged n =>
      obtain ⟨⟨n', rfl⟩, -⟩ := h.of_reply hd hr
      exact hN
  | deserted hd ho => exact absurd ho (h.counts.outlet_ne_closed hd)

/-- **A step leaves the journal small.** -/
theorem step (h : Swept settings base done rest v l) (hc : settings.compactAfterSnapshot = true)
    (hN : 1 ≤ settings.snapshotEveryOps) (hs : v.step settings Journal.sink t = some (w, sig))
    (hn : base.toNat + (done ++ (rest ++ v.brought settings t)).flatten.length < 2 ^ 63) :
    ∃ moved rest' l', rest ++ v.brought settings t = moved ++ rest' ∧
      moved.flatten = (v.deeds Journal.sink t).flatMap Deed.batch ∧
      Swept settings base (done ++ moved) rest' w l' := by
  have hfirst : base.toNat + (done ++ rest).flatten.length < 2 ^ 63 := by
    simp only [List.flatten_append, List.length_append] at hn ⊢
    omega
  obtain ⟨-, moved, rest', l', he, hmoved, hcounts⟩ := h.counts.step hs hn
  have hl := hcounts.truthful.hands.link
  refine ⟨moved, rest', l', he, hmoved, hcounts, ?_, h.due_step hN hs, h.desk_step hs,
    h.obeys_step hs hl hfirst, h.cleared_step hc hs hl hfirst⟩
  have hsize := h.counts.size_step hs hl hfirst
  have hload := h.load_step hs
  rw [he, List.flatten_append, List.length_append] at hload
  rw [← hmoved] at hsize
  omega

/-- **A run leaves the journal small.** -/
theorem run (h : Swept settings base done rest v l) (hc : settings.compactAfterSnapshot = true)
    (hN : 1 ≤ settings.snapshotEveryOps) (hr : v.run settings Journal.sink ts = some (w, sig))
    (hn : base.toNat +
      (done ++ (rest ++ v.broughtBy settings Journal.sink ts)).flatten.length < 2 ^ 63) :
    ∃ done' rest' l', Swept settings base done' rest' w l' := by
  have hall := Live.run_of_step (P := fun done rest v => ∃ l, Swept settings base done rest v l)
    (D := fun _ => True) ?_ ⟨l, h⟩ hr hn
  · obtain ⟨-, moved, rest', -, -, l', h'⟩ := hall
    exact ⟨done ++ moved, rest', l', h'⟩
  · rintro done rest v w t sig ⟨l, h⟩ hs hn
    obtain ⟨moved, rest', l', he, hmoved, h'⟩ := h.step hc hN hs hn
    exact ⟨fun _ _ => trivial, moved, rest', he, hmoved, l', h'⟩

theorem start (s : Session) {j : Journal} (hj : j.rows.entries = [])
    (hN : 1 ≤ settings.snapshotEveryOps) (hn : j.latestSeq.toNat < 2 ^ 63) :
    Swept settings j.latestSeq [] [] (Live.resume s j) (Link.start Journal.sink j) where
  counts := .start s hn
  load := Nat.le_of_eq (congrArg List.length hj)
  due _ := hN
  desk := trivial
  link := ⟨fun _ hm => absurd hm List.not_mem_nil, trivial⟩
  cleared _ hd := Desk.noConfusion hd

end Swept

end

/-! ### The bound -/

/-- **Dropping rows bounds the journal.**  A session that started with a journal without rows, that
drops what a snapshot covers and takes one after so many observations, has fewer rows and
observations on their way, as long as no answer to a logged exchange is outstanding.  The numbers
have to stay small, since the journal tells by signed words which rows a snapshot covers. -/
theorem Live.size_lt_of_run (s : Session) {j : Journal} {ts : List Turn} {v : Live Journal}
    {sig : List Signal} (hc : settings.compactAfterSnapshot = true)
    (hN : 1 ≤ settings.snapshotEveryOps) (hj : j.rows.entries = [])
    (hr : (Live.resume s j).run settings Journal.sink ts = some (v, sig))
    (hn : j.latestSeq.toNat +
      ((Live.resume s j).broughtBy settings Journal.sink ts).flatten.length < 2 ^ 63) :
    ∃ l, v.link = some l ∧ ((∀ n, ¬v.Owes n) →
      l.sink.rows.size + l.underway.length < settings.snapshotEveryOps) := by
  have hsmall : j.latestSeq.toNat < 2 ^ 63 := Nat.lt_of_le_of_lt (Nat.le_add_right _ _) hn
  obtain ⟨done, rest, l, h⟩ := (Swept.start s hj hN hsmall).run hc hN hr hn
  refine ⟨l, h.counts.truthful.hands.link, fun howes => ?_⟩
  rw [← h.counts.truthful.hands.carries.flatten_eq]
  exact Nat.lt_of_le_of_lt h.load (h.due howes)

/-- A snapshot is taken after every second observation, and what it covers is dropped. -/
def Settings.frugal : Settings :=
  { Settings.tidy with snapshotEveryOps := 2 }

/-- Two exchanges are logged, and the snapshot that comes due is answered; a third one stays in the
queue. -/
def Turn.trimming : List Turn :=
  [.command (.log "K1AR" .zone 0), .writer, .writer, .writer, .command (.log "K2AR" .zone 0),
    .writer, .writer, .writer, .desk, .writer, .writer, .writer, .writer, .desk,
    .command (.log "K3AR" .zone 0)]

theorem Live.run_trimming : ∃ v sig,
    (Live.resume .bare .empty).run .frugal Journal.sink Turn.trimming = some (v, sig) ∧
      v.desk = .ready :=
  ⟨_, _, rfl, rfl⟩

/-- Of the three observations at most one is left. -/
theorem Live.size_lt_of_trimming :
    Settings.frugal.compactAfterSnapshot = true ∧ 1 ≤ Settings.frugal.snapshotEveryOps ∧
    Journal.empty.rows.entries = [] ∧
    Journal.empty.latestSeq.toNat + ((Live.resume .bare .empty).broughtBy .frugal Journal.sink
      Turn.trimming).flatten.length < 2 ^ 63 ∧
    ∃ v sig l, (Live.resume .bare .empty).run .frugal Journal.sink Turn.trimming = some (v, sig) ∧
      v.link = some l ∧ l.sink.rows.size + l.underway.length < 2 := by
  obtain ⟨v, sig, hr, hd⟩ := run_trimming
  have hn : Journal.empty.latestSeq.toNat + ((Live.resume .bare .empty).broughtBy .frugal
      Journal.sink Turn.trimming).flatten.length < 2 ^ 63 := by
    decide +kernel
  obtain ⟨l, hl, hsize⟩ := Live.size_lt_of_run .bare rfl (by decide) rfl hr hn
  exact ⟨rfl, by decide, rfl, hn, v, sig, l, hr, hl, hsize fun n ho => ho.ne_ready hd⟩

end ContestExchange
