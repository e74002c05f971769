import ContestExchange.Proofs.Session.Tracking

/-!
# The steps of a session with a sink

Whatever a session writes to, and whether that fails or not, it makes steps of
seven kinds only (`Live.Steps`, `Live.steps_of_step`).  Each kind says what becomes
of the link, of the last number and of the desk, and what is told about safe
observations; whoever reasons about sessions takes these apart and does not look
into the functions of the desk.
-/

namespace ContestExchange

/-- The batch that the desk is about to send, if it is about to send one. -/
def Desk.batch? : Desk → Option (List Stored)
  | .sending m _ => m.batch?
  | _ => none

/-! ### What is told -/

/-- Nothing is told about safe observations. -/
def Discreet (sig : List Signal) : Prop :=
  ∀ n, Signal.event (.durable n) ∉ sig

theorem discreet_events {events : List Event} (h : ∀ n, .durable n ∉ events) {tail : List Signal}
    (ht : Discreet tail) : Discreet (events.map Signal.event ++ tail) := by
  intro n hn
  rcases List.mem_append.1 hn with hn | hn
  · obtain ⟨e, he, heq⟩ := List.mem_map.1 hn
    cases heq
    exact h n he
  · exact ht n hn

theorem discreet_answer (a : Answer) : Discreet [.answer a] := by
  intro n hn
  cases List.mem_singleton.1 hn

namespace Session

theorem durable_notMem_parseEvents (r : Except SessionError Exchange) (n : UInt64) :
    .durable n ∉ parseEvents r := by
  intro h
  cases r with
  | ok x =>
    simp only [parseEvents, List.append_assoc, List.mem_append, List.mem_map, List.mem_singleton,
      reduceCtorEq, and_false, exists_false, or_false, false_or] at h
    split at h
    · cases h
    · cases List.mem_singleton.1 h
  | error e =>
    rw [parseEvents.eq_def] at h
    split at h
    · contradiction
    · cases List.mem_singleton.1 h
    · cases h

theorem durable_notMem_learnEvents (field value : String) (b : Bool) (n : UInt64) :
    .durable n ∉ learnEvents field value b := by
  cases b with
  | false => exact List.not_mem_nil
  | true =>
    intro h
    cases List.mem_singleton.1 h

theorem durable_notMem_multEvents (s : Session) (field : String) (b : Bool) (n : UInt64) :
    .durable n ∉ s.multEvents field b := by
  rw [multEvents]
  split
  · intro h
    cases List.mem_singleton.1 h
  · exact List.not_mem_nil

theorem durable_notMem_learnEntries (s : Session) (l : List Entry) (n : UInt64) :
    .durable n ∉ (s.learnEntries l).2 := by
  induction l generalizing s with
  | nil => exact List.not_mem_nil
  | cons e r ih =>
    intro h
    rcases List.mem_append.1 h with h | h
    · exact durable_notMem_learnEvents _ _ _ n h
    · exact ih _ h

theorem durable_notMem_log {s : Session} {settings : Settings} {outlet : Outlet} {call : String}
    {x : Exchange} {time : UInt64} {g : Logged} (h : s.log settings outlet call x time = .ok g)
    (ho : outlet ≠ .absent) (n : UInt64) : .durable n ∉ g.events := by
  rw [log] at h
  split at h
  · cases h
  · split at h
    · cases h
    · obtain rfl := Except.ok.inj h
      intro hn
      rcases List.mem_append.1 hn with hn | hn
      · split at hn
        · exact durable_notMem_learnEntries _ _ n hn
        · cases hn
      · simp [ho] at hn

end Session

theorem Link.outlet_ne_absent {σ : Type} (l : Link σ) (settings : Settings) :
    l.outlet settings ≠ .absent := by
  rw [outlet]
  split
  · simp
  · split <;> simp

/-! ### Steps -/

namespace Live

variable {σ : Type} {k : Sink σ} {settings : Settings} {v w : Live σ} {l : Link σ} {t : Turn}
  {sig : List Signal}

/-- What a step comes to, and what is told. -/
inductive Steps (settings : Settings) (k : Sink σ) (v : Live σ) (l : Link σ) :
    Turn → Live σ → List Signal → Prop
  /-- The desk does what concerns neither the sink nor the numbers. -/
  | aside {t : Turn} {s : Session} {desk : Desk} {sig : List Signal} (ht : t ≠ .writer)
    (hb : v.brought settings t = []) (hd : ∀ e, v.desk ≠ .waiting e)
    (hn : s.lastSeq = v.session.lastSeq) (hm : desk.batch? = none) (hs : Discreet sig) :
    Steps settings k v l t ⟨s, desk, some l⟩ sig
  /-- An exchange is logged, and perhaps a snapshot asked for. -/
  | logged {call : String} {x : Exchange} {time : UInt64} {g : Logged} {desk : Desk}
    {sig : List Signal} (hd : v.desk = .ready)
    (hg : v.session.log settings (v.outlet settings) call x time = .ok g)
    (hm : desk.batch? = none) (hs : Discreet sig) :
    Steps settings k v l (.command (.log call x time))
      ⟨g.session, desk, some (if g.batch.isEmpty then l else l.send (.append g.batch))⟩ sig
  /-- The desk passes on what the writer said. -/
  | passed {r : Reply} {notices : List Reply} (hd : v.desk = .ready)
    (hr : l.notices = r :: notices) :
    Steps settings k v l .desk { v with link := some { l with notices } } (passOn r)
  /-- The desk sends what it has for the writer. -/
  | sent {m : Message} {e : Awaited} (hd : v.desk = .sending m e) :
    Steps settings k v l .desk ⟨v.session, .waiting e, some (l.send m)⟩ []
  /-- The desk has the reply that it waited for. -/
  | replied {r : Reply} {e : Awaited} {s : Session} {desk : Desk} {a : Answer}
    (hd : v.desk = .waiting e) (hr : l.reply = some r) (hn : s.lastSeq = v.session.lastSeq)
    (hm : desk.batch? = none) (ha : e = .flush → a = answerOf .seq r) :
    Steps settings k v l .desk ⟨s, desk, some { l with reply := none }⟩ [.answer a]
  /-- The writer takes its turn. -/
  | worked {l' : Link σ} (h : l.turn? settings k (v.desk == .stopped) = some l') :
    Steps settings k v l .writer { v with link := some l' } []
  /-- Observations have waited long enough. -/
  | waited {l' : Link σ} (h : l.timer? = some l') :
    Steps settings k v l .timer { v with link := some l' } []

theorem steps_logged (hl : v.link = some l) (hd : v.desk = .ready) {call : String} {x : Exchange}
    {time : UInt64} {g : Logged}
    (hg : v.session.log settings (v.outlet settings) call x time = .ok g) :
    Steps settings k v l (.command (.log call x time)) (v.logged settings g).1
      (v.logged settings g).2 := by
  have hout : v.outlet settings ≠ .absent := by
    rw [outlet, hl]
    exact l.outlet_ne_absent settings
  have htold : ∀ {tail}, Discreet tail → Discreet (g.events.map Signal.event ++ tail) :=
    discreet_events (Session.durable_notMem_log hg hout)
  rw [Live.logged, hl]
  simp only
  by_cases hdue : g.session.snapshotDue settings = true
  · rw [if_pos hdue]
    have hsig : Discreet (g.events.map Signal.event ++ []) := htold fun _ => List.not_mem_nil
    rw [List.append_nil] at hsig
    exact .logged hd hg rfl hsig
  · rw [if_neg hdue, hd]
    exact .logged hd hg rfl (htold (discreet_answer _))

theorem steps_carryOut (hl : v.link = some l) (hd : v.desk = .ready) (c : Command) :
    Steps settings k v l (.command c) (v.carryOut settings c).1 (v.carryOut settings c).2 := by
  have hnot : ∀ e, v.desk ≠ .waiting e := by simp [hd]
  have hkeep : ∀ {s : Session} {sig}, v.brought settings (.command c) = [] →
      s.lastSeq = v.session.lastSeq → Discreet sig →
        Steps settings k v l (.command c) ⟨s, v.desk, v.link⟩ sig := by
    intro s sig hb hn hs
    rw [hl, hd]
    exact .aside (by simp) hb hnot hn rfl hs
  have hask : ∀ {m e}, v.brought settings (.command c) = [] → m.batch? = none →
      Steps settings k v l (.command c) ⟨v.session, .sending m e, some l⟩ [] := by
    intro m e hb hm
    exact .aside (by simp) hb hnot rfl hm fun _ => List.not_mem_nil
  cases c with
  | log call x time =>
    rw [Live.carryOut]
    cases hg : v.session.log settings (v.outlet settings) call x time with
    | ok g => exact steps_logged hl hd hg
    | error e =>
      refine hkeep ?_ rfl (discreet_answer _)
      rw [brought, if_pos hd, hg]
  | parse text country mode =>
    exact hkeep rfl rfl (discreet_events (Session.durable_notMem_parseEvents _) (discreet_answer _))
  | learn field value =>
    exact hkeep rfl rfl (discreet_events (Session.durable_notMem_learnEvents _ _ _)
      (discreet_answer _))
  | setMult field b =>
    exact hkeep rfl rfl (discreet_events (Session.durable_notMem_multEvents _ _ _)
      (discreet_answer _))
  | flush =>
    rw [Live.carryOut, Live.request, hl]
    exact hask rfl rfl
  | checkpoint =>
    rw [Live.carryOut, Live.request, hl]
    exact hask rfl rfl
  | shutdown =>
    rw [Live.carryOut, hl]
    exact hask rfl rfl

theorem steps_deskTurn (hl : v.link = some l) (h : DeskTurns settings v l w sig) :
    Steps settings k v l .desk w sig := by
  cases h with
  | passed hd hr => exact .passed hd hr
  | @deserted m e hd ho =>
    have hnot : ∀ e, v.desk ≠ .waiting e := by simp [hd]
    have hleave : ∀ {desk a}, desk.batch? = none →
        Steps settings k v l .desk ⟨v.session, desk, v.link⟩ [.answer a] := by
      intro desk a hm
      rw [hl]
      exact .aside (by simp) rfl hnot rfl hm (discreet_answer a)
    cases e <;> exact hleave rfl
  | sent hd => exact .sent hd
  | @heard e r hd hr =>
    have hreply : ∀ {s desk a}, s.lastSeq = v.session.lastSeq → desk.batch? = none →
        (e = .flush → a = answerOf .seq r) →
          Steps settings k v l .desk ⟨s, desk, some { l with reply := none }⟩ [.answer a] :=
      fun hn hm ha => .replied hd hr hn hm ha
    cases e with
    | flush => exact hreply rfl rfl fun _ => rfl
    | checkpoint | logged seq | shutdown => exact hreply rfl rfl (by simp)

/-- **What a step comes to.** -/
theorem steps_of_step (hl : v.link = some l) (h : v.step settings k t = some (w, sig)) :
    Steps settings k v l t w sig := by
  cases turns_of_step h with
  | carriedOut hd c => exact steps_carryOut hl hd c
  | refused hd c =>
    have hb : v.brought settings (.command c) = [] :=
      brought_of_not_ready settings (by simp [hd]) _
    have hstay : Steps settings k v l (.command c) ⟨v.session, v.desk, some l⟩
        [.answer (.failed .notRunning)] :=
      .aside (by simp) hb (by simp [hd]) rfl (by rw [hd]; rfl) (discreet_answer _)
    rw [← hl] at hstay
    exact hstay
  | desk hl' hdesk =>
    cases hl.symm.trans hl'
    exact steps_deskTurn hl hdesk
  | writer hl' hturn =>
    cases hl.symm.trans hl'
    exact .worked hturn
  | timer hl' htimer =>
    cases hl.symm.trans hl'
    exact .waited htimer
  | left hd =>
    rw [hl]
    exact .aside (by simp) rfl (by simp [hd]) rfl rfl fun _ => List.not_mem_nil

theorem sink_of_step {l' : Link σ} (hl : v.link = some l) (h : v.step settings k t = some (w, sig))
    (ht : t ≠ .writer) (hl' : w.link = some l') : l'.sink = l.sink := by
  cases steps_of_step hl h with
  | aside | passed | sent | replied =>
    cases hl'
    rfl
  | logged =>
    cases hl'
    split <;> rfl
  | worked => exact absurd rfl ht
  | waited htimer =>
    cases hl'
    obtain ⟨-, -, rfl⟩ := Link.timer?_eq_some htimer
    rfl

theorem turn_of_step (hl : v.link = some l) (h : v.step settings k .writer = some (w, sig)) :
    ∃ l', l.turn? settings k (v.desk == .stopped) = some l' ∧ w = { v with link := some l' } := by
  cases steps_of_step hl h with
  | aside ht => exact absurd rfl ht
  | worked hturn => exact ⟨_, hturn, rfl⟩

end Live

end ContestExchange
