import ContestExchange.Proofs.Session.Answering

/-!
# A journal cannot be told from none

Of two sessions that start alike, one may write to a journal and the other to
nothing.  As long as the journal takes what it is handed and there is room in the
queue, nobody can tell the two apart who is deaf to what is told about safe
observations (`Live.journal_unnoticed`): they answer the same, tell the same, and end
up with the same fields and the same book.

The session without a sink answers every command at once, and the one with the
journal may have an answer outstanding (`Live.owed`).  What it is follows from the
command that is carried out and from the last number, if only the sink lets the desk
down in nothing (`Live.Served`).  So the session without a sink is at the same point,
with the outstanding answer given (`Live.alone`), and every step keeps it there
(`Live.alone_step`).
-/

namespace ContestExchange

variable {σ τ : Type} {settings settings' : Settings}

/-! ### What can be told apart -/

namespace Signal

/-- Whether it is told about safe observations. -/
def isDurable : Signal → Bool
  | event (.durable _) => true
  | _ => false

end Signal

/-- What is heard but for what is told about safe observations. -/
def muted (sig : List Signal) : List Signal :=
  sig.filter fun s => !s.isDurable

theorem muted_append (sig sig' : List Signal) : muted (sig ++ sig') = muted sig ++ muted sig' :=
  List.filter_append _ _

theorem muted_answer (a : Answer) : muted [.answer a] = [.answer a] := rfl

theorem muted_passOn (r : Reply) : muted (Live.passOn r) = [] := by
  cases r <;> rfl

namespace Turn

/-- Whether it comes from outside, and not from the desk, the writer or the clock. -/
def isOuter : Turn → Bool
  | command _ => true
  | leave => true
  | _ => false

end Turn

/-! ### The session without a sink -/

namespace Awaited

/-- The answer to what was asked, when all goes well and a number is the last one. -/
def answer (n : UInt64) : Awaited → Answer
  | flush => .seq n
  | checkpoint => .done
  | logged m => .seq m
  | shutdown => .done

end Awaited

namespace Desk

/-- The answer that is outstanding, if one is. -/
def owed (n : UInt64) : Desk → List Signal
  | ready => []
  | sending _ e => [.answer (e.answer n)]
  | waiting e => [.answer (e.answer n)]
  | stopped => []

/-- What the desk is at when no answer is outstanding any more. -/
def settled : Desk → Desk
  | ready => .ready
  | sending _ e => e.next
  | waiting e => e.next
  | stopped => .stopped

end Desk

namespace Live

/-- The answer that is outstanding, if one is. -/
def owed (v : Live σ) : List Signal :=
  v.desk.owed v.session.lastSeq

/-- The session without a sink that is at the same point and has given all answers. -/
def alone (v : Live σ) (n : Nat) : Live τ :=
  ⟨{ v.session with sinceSnapshot := n }, v.desk.settled, none⟩

/-- The sink lets the desk down in nothing: there is room when exchanges may be logged, a request
can be sent, and the reply to it is the last number. -/
structure Served (settings : Settings) (v : Live σ) : Prop where
  room : v.desk = .ready → ∃ l, v.link = some l ∧ v.outlet settings = .vacant
  takes : ∀ m e, v.desk = .sending m e → v.outlet settings ≠ .closed
  tells : ∀ e l r, v.desk = .waiting e → v.link = some l → l.reply = some r →
    r = .ok v.session.lastSeq

end Live

namespace Session

theorem learnEntries_count (s : Session) (n : Nat) (l : List Entry) :
    ({ s with sinceSnapshot := n } : Session).learnEntries l =
      ({ (s.learnEntries l).1 with sinceSnapshot := n }, (s.learnEntries l).2) := by
  induction l generalizing s with
  | nil => rfl
  | cons e r ih =>
    rw [learnEntries]
    have hfirst : ({ s with sinceSnapshot := n } : Session).learn e.field e.value =
        ({ (s.learn e.field e.value).1 with sinceSnapshot := n },
          (s.learn e.field e.value).2) := rfl
    rw [hfirst]
    simp only [ih]
    rfl

variable {s : Session} {call : String} {x : Exchange} {time : UInt64}

theorem log_absent_error {e : SessionError} (h : s.log settings .vacant call x time = .error e)
    (n : Nat) :
    ({ s with sinceSnapshot := n } : Session).log settings' .absent call x time = .error e := by
  rw [log] at h ⊢
  split at h
  · exact h
  · cases h

/-- Without a sink an exchange brings the same, and besides it is told that all is safe. -/
theorem log_absent_ok (hl : settings'.learnMultValues = settings.learnMultValues) {g : Logged}
    (h : s.log settings .vacant call x time = .ok g) (n : Nat) :
    ∃ g' m, ({ s with sinceSnapshot := n } : Session).log settings' .absent call x time = .ok g' ∧
      g'.session = { g.session with sinceSnapshot := m } ∧
      muted (g'.events.map Signal.event) = muted (g.events.map Signal.event) := by
  rw [log] at h ⊢
  split at h
  · cases h
  · rename_i x' _
    obtain rfl := Except.ok.inj h
    have hlearn : (if settings.learnMultValues then
        ({ s with sinceSnapshot := n } : Session).learnEntries x'.mults
          else ({ s with sinceSnapshot := n }, [])) =
        ({ (if settings.learnMultValues then s.learnEntries x'.mults else (s, [])).1 with
          sinceSnapshot := n },
          (if settings.learnMultValues then s.learnEntries x'.mults else (s, [])).2) := by
      split
      · exact s.learnEntries_count n x'.mults
      · rfl
    simp only [Outlet.refusal?, hl, hlearn]
    refine ⟨_, _, rfl, rfl, ?_⟩
    rw [List.map_append, List.map_append, muted_append, muted_append]
    refine congrArg (muted _ ++ ·) ?_
    split <;> split <;> rfl

end Session

namespace Live

variable {k : Sink σ} {k' : Sink τ} {v w : Live σ} {t : Turn} {sig : List Signal}

theorem alone_logged (τ : Type) (hl : settings'.learnMultValues = settings.learnMultValues)
    (hd : v.desk = .ready) {l : Link σ} (hv : v.link = some l) {call : String} {x : Exchange}
    {time : UInt64} {g : Logged} (hg : v.session.log settings .vacant call x time = .ok g)
    (n : Nat) :
    ∃ m sig₀, (v.alone n : Live τ).carryOut settings' (.log call x time) =
        ((v.logged settings g).1.alone m, sig₀) ∧
      muted (v.logged settings g).2 ++ (v.logged settings g).1.owed = muted sig₀ := by
  obtain ⟨g', m, hg', hsession, hevents⟩ := Session.log_absent_ok hl hg n
  refine ⟨m, g'.events.map Signal.event ++ [.answer (.seq g'.session.lastSeq)], ?_, ?_⟩
  · rw [carryOut]
    have hsame : (v.alone n : Live τ).session.log settings' ((v.alone n : Live τ).outlet settings')
        call x time = .ok g' := hg'
    rw [hsame]
    simp only [logged, alone, hv, hsession]
    split <;> simp [hd, Desk.settled, Awaited.next]
  · rw [muted_append, hevents, hsession, muted_answer, logged, hv]
    simp only
    split
    · rfl
    · rw [muted_append, muted_answer, owed, hd]
      simp [Desk.owed]

/-- **A command** is answered alike, or the answer is outstanding. -/
theorem alone_carryOut (τ : Type) (hl : settings'.learnMultValues = settings.learnMultValues)
    (h : v.Served settings) (hd : v.desk = .ready) (c : Command) (n : Nat) :
    ∃ m sig₀,
      (v.alone n : Live τ).carryOut settings' c = ((v.carryOut settings c).1.alone m, sig₀) ∧
      muted (v.carryOut settings c).2 ++ (v.carryOut settings c).1.owed = muted sig₀ := by
  obtain ⟨l, hv, ho⟩ := h.room hd
  have hnone : ∀ s : Session, (⟨s, v.desk, v.link⟩ : Live σ).owed = [] := by
    intro s
    rw [owed, hd]
    rfl
  cases c with
  | log call x time =>
    cases hg : v.session.log settings .vacant call x time with
    | ok g =>
      have hcarry : v.carryOut settings (.log call x time) = v.logged settings g := by
        simp only [carryOut, ho, hg]
      rw [hcarry]
      exact alone_logged τ hl hd hv hg n
    | error e =>
      have hcarry : v.carryOut settings (.log call x time) = (v, [.answer (.failed e)]) := by
        simp only [carryOut, ho, hg]
      have hsame : (v.alone n : Live τ).session.log settings'
          ((v.alone n : Live τ).outlet settings') call x time = .error e :=
        Session.log_absent_error hg n
      refine ⟨n, [.answer (.failed e)], ?_, ?_⟩
      · rw [carryOut, hsame, hcarry]
      · rw [hcarry, hnone]
        rfl
  | parse text country mode => exact ⟨n, _, rfl, by rw [carryOut, hnone, List.append_nil]; rfl⟩
  | learn field value => exact ⟨n, _, rfl, by rw [carryOut, hnone, List.append_nil]; rfl⟩
  | setMult field b => exact ⟨n, _, rfl, by rw [carryOut, hnone, List.append_nil]; rfl⟩
  | flush =>
    refine ⟨n, [.answer (.seq v.session.lastSeq)], ?_, ?_⟩
    · simp only [carryOut, request, hv, alone, hd, Desk.settled, Awaited.next]
    · simp only [carryOut, request, hv]
      rfl
  | checkpoint =>
    refine ⟨n, [.answer .done], ?_, ?_⟩
    · simp only [carryOut, request, hv, alone, hd, Desk.settled, Awaited.next]
    · simp only [carryOut, request, hv]
      rfl
  | shutdown =>
    refine ⟨n, [.answer .done], ?_, ?_⟩
    · simp only [carryOut, hv, alone, Desk.settled, Awaited.next]
    · simp only [carryOut, hv]
      rfl

/-- **A turn of the desk** gives the answer that is outstanding, or tells nothing. -/
theorem alone_deskTurn (τ : Type) {l : Link σ} (h : v.Served settings) (hv : v.link = some l)
    (hs : DeskTurns settings v l w sig) (n : Nat) :
    (w.alone n : Live τ) = v.alone n ∧ muted sig ++ w.owed = v.owed := by
  cases hs with
  | @passed r notices hd hr =>
    rw [muted_passOn, List.nil_append]
    exact ⟨rfl, rfl⟩
  | @deserted m e hd ho =>
    have hopen := h.takes m e hd
    simp only [outlet, hv] at hopen
    exact absurd ho hopen
  | sent hd =>
    refine ⟨?_, ?_⟩
    · simp only [alone, hd, Desk.settled]
    · simp only [owed, hd, Desk.owed]
      rfl
  | @heard e r hd hr =>
    obtain rfl := h.tells e l r hd hv hr
    cases e with
    | flush | checkpoint | logged seq | shutdown =>
      refine ⟨?_, ?_⟩
      · simp only [replied, alone, hd, Desk.settled, Awaited.next]
      · simp only [replied, owed, hd]
        rfl

/-- **Every step keeps the session without a sink at the same point.**  It takes the turns that
come from outside, and none of the others. -/
theorem alone_step (k' : Sink τ) (hl : settings'.learnMultValues = settings.learnMultValues)
    (h : v.Served settings) (hs : v.step settings k t = some (w, sig)) (n : Nat) :
    ∃ m sig₀, (v.alone n : Live τ).run settings' k' ([t].filter Turn.isOuter) =
        some (w.alone m, sig₀) ∧
      muted sig ++ w.owed = v.owed ++ muted sig₀ := by
  have houter : t.isOuter = true → (∃ m sig₀, (v.alone n : Live τ).step settings' k' t =
      some (w.alone m, sig₀) ∧ muted sig ++ w.owed = v.owed ++ muted sig₀) →
        ∃ m sig₀, (v.alone n : Live τ).run settings' k' ([t].filter Turn.isOuter) =
            some (w.alone m, sig₀) ∧
          muted sig ++ w.owed = v.owed ++ muted sig₀ := by
    rintro ht ⟨m, sig₀, hstep, hsig⟩
    refine ⟨m, sig₀, ?_, hsig⟩
    rw [List.filter_cons_of_pos ht, List.filter_nil, run, hstep, Option.bind_some, run,
      Option.map_some, List.append_nil]
  have hinner : t.isOuter = false → (w.alone n : Live τ) = v.alone n →
      muted sig ++ w.owed = v.owed →
        ∃ m sig₀, (v.alone n : Live τ).run settings' k' ([t].filter Turn.isOuter) =
            some (w.alone m, sig₀) ∧
          muted sig ++ w.owed = v.owed ++ muted sig₀ := by
    intro ht hw hsig
    refine ⟨n, [], ?_, by rw [hsig]; exact (List.append_nil _).symm⟩
    rw [List.filter_cons_of_neg (by rw [ht]; exact Bool.false_ne_true), List.filter_nil, run, hw]
  cases turns_of_step hs with
  | carriedOut hd c =>
    obtain ⟨m, sig₀, hrun, hsig⟩ := alone_carryOut τ hl h hd c n
    refine houter rfl ⟨m, sig₀, ?_, ?_⟩
    · rw [step]
      simp only [alone, hd, Desk.settled] at hrun ⊢
      rw [hrun]
    · rw [hsig, owed, hd]
      rfl
  | refused hd c =>
    refine houter rfl ⟨n, [.answer (.failed .notRunning)], ?_, ?_⟩
    · simp only [step, alone, hd, Desk.settled]
    · rw [owed, hd]
      rfl
  | desk hv hdesk =>
    obtain ⟨hw, hsig⟩ := alone_deskTurn τ h hv hdesk n
    exact hinner rfl hw hsig
  | writer | timer => exact hinner rfl rfl rfl
  | left hd =>
    refine houter rfl ⟨n, [], ?_, ?_⟩
    · simp only [step, alone, hd, Desk.settled, if_true]
    · simp only [owed, hd]
      rfl

end Live

/-! ### Sessions with a journal -/

/-- A session with a journal that has taken whatever it was handed: the batches `done`.  The
batches `rest` are on their way. -/
structure Truthful (base : UInt64) (done rest : List (List Stored)) (v : Live Journal)
    (l : Link Journal) : Prop where
  hands : Hands base done rest v l
  attends : Attends (base + done.flatten.length.toUInt64) v l

namespace Truthful

variable {base : UInt64} {done rest : List (List Stored)} {v w : Live Journal} {l : Link Journal}
  {t : Turn} {sig : List Signal}

theorem flatten_eq_nil (h : Truthful base done rest v l) (he : l.Empty)
    (hb : l.writer.phase.batch = []) : rest.flatten = [] := by
  obtain ⟨handed, waiting, hr, hh, hw⟩ := h.hands.carries
  rw [hr, he.queue, List.filterMap_nil, List.append_nil, List.flatten_append, hh, hw, hb,
    he.pending]
  rfl

/-- The journal lets the desk down in nothing, as long as there is room in the queue. -/
theorem served (h : Truthful base done rest v l) (hfull : v.outlet settings ≠ .full) :
    v.Served settings := by
  have hout : v.outlet settings = l.outlet settings := by
    rw [Live.outlet, h.hands.link]
  have hs := h.attends.stage
  refine ⟨fun hd => ⟨l, h.hands.link, ?_⟩, fun m e hd => ?_, fun e l' r hd hl' hr => ?_⟩
  · rw [hd] at hs
    cases hs with
    | ready hcalm =>
      rw [hout] at hfull ⊢
      cases ho : l.outlet settings with
      | vacant => rfl
      | absent => exact absurd ho (l.outlet_ne_absent settings)
      | full => exact absurd ho hfull
      | closed => exact absurd ho (hcalm.outlet_ne_closed settings)
  · rw [hd] at hs
    cases hs with
    | sending hcalm hm =>
      rw [hout]
      exact hcalm.outlet_ne_closed settings
  · obtain rfl := Option.some.inj (h.hands.link.symm.trans hl')
    obtain ⟨rfl, he, hp⟩ := h.attends.of_reply hd hr
    -- nothing is on its way, so what was handed over is all there is
    have hnil : rest.flatten = [] := by
      refine h.flatten_eq_nil he ?_
      rcases hp with hp | hp <;> rw [hp] <;> rfl
    rw [h.hands.last, List.flatten_append, hnil, List.append_nil]

/-- **A step** of a session whose journal takes what it is handed. -/
theorem step (h : Truthful base done rest v l)
    (hs : v.step settings Journal.sink t = some (w, sig))
    (hsmall : base.toNat + (done ++ (rest ++ v.brought settings t)).flatten.length < 2 ^ 64)
    (hok : ∀ batch, .append batch false ∉ v.deeds Journal.sink t) :
    ∃ moved rest' l', rest ++ v.brought settings t = moved ++ rest' ∧
      moved.flatten = (v.deeds Journal.sink t).flatMap Deed.batch ∧
      Truthful base (done ++ moved) rest' w l' := by
  obtain ⟨moved, rest', l', he, hmoved, hh⟩ := h.hands.step Journal.sink_tellsLast hs hsmall
  obtain ⟨hfollows, hbound⟩ := h.hands.follows_batch
  have hnumbers := h.hands.small
  obtain ⟨l'', ha⟩ := h.attends.step hs hok h.hands.loaded hfollows (by omega)
  obtain rfl : l' = l'' := Option.some.inj (hh.link.symm.trans ha.link)
  refine ⟨moved, rest', l', he, hmoved, hh, ?_⟩
  rw [List.flatten_append, Stored.add_length_append, hmoved]
  exact ha

end Truthful

namespace Live

/-- What the queue is like before each of several turns and after the last one. -/
def outletsBy (settings : Settings) (k : Sink σ) (v : Live σ) : List Turn → List Outlet
  | [] => [v.outlet settings]
  | t :: ts =>
    v.outlet settings ::
      match v.step settings k t with
      | none => []
      | some r => outletsBy settings k r.1 ts

end Live

namespace Truthful

variable {base : UInt64} {done rest : List (List Stored)} {v w : Live Journal} {l : Link Journal}
  {ts : List Turn} {sig : List Signal}

/-- **A run** keeps the session without a sink at the same point. -/
theorem run (k : Sink τ) (hl : settings'.learnMultValues = settings.learnMultValues)
    (h : Truthful base done rest v l) (hr : v.run settings Journal.sink ts = some (w, sig))
    (hfull : .full ∉ v.outletsBy settings Journal.sink ts)
    (hok : ∀ batch, .append batch false ∉ v.deedsBy settings Journal.sink ts)
    (hsmall : base.toNat +
      (done ++ (rest ++ v.broughtBy settings Journal.sink ts)).flatten.length < 2 ^ 64)
    (n : Nat) :
    w.outlet settings ≠ .full ∧
      (∃ done' rest' l', Truthful base done' rest' w l') ∧
      ∃ m sig₀, (v.alone n : Live τ).run settings' k (ts.filter Turn.isOuter) =
          some (w.alone m, sig₀) ∧
        muted sig ++ w.owed = v.owed ++ muted sig₀ := by
  induction ts generalizing v sig done rest l n with
  | nil =>
    obtain ⟨rfl, rfl⟩ := Prod.mk.inj (Option.some.inj hr)
    refine ⟨fun ho => hfull ?_, ⟨done, rest, l, h⟩, n, [], rfl, (List.append_nil _).symm⟩
    rw [Live.outletsBy, ho]
    exact List.mem_cons_self
  | cons t ts ih =>
    obtain ⟨u, s, s', hs, hr', rfl⟩ := Live.run_cons_split hr
    rw [Live.outletsBy, hs, List.mem_cons, not_or] at hfull
    simp only [Live.deedsBy, hs, List.mem_append, not_or] at hok
    rw [Live.broughtBy, hs] at hsmall
    simp only at hfull hok hsmall
    have hfirst :
        base.toNat + (done ++ (rest ++ v.brought settings t)).flatten.length < 2 ^ 64 := by
      simp only [List.flatten_append, List.length_append] at hsmall ⊢
      omega
    obtain ⟨moved, rest₁, l₁, he, -, h₁⟩ := h.step hs hfirst fun batch => (hok batch).1
    have hsmall₁ : base.toNat + (done ++ moved ++
        (rest₁ ++ u.broughtBy settings Journal.sink ts)).flatten.length < 2 ^ 64 := by
      rw [List.append_assoc, ← List.append_assoc moved, ← he, List.append_assoc rest]
      exact hsmall
    obtain ⟨m₁, sig₁, hrun₁, hsig₁⟩ :=
      Live.alone_step k hl (h.served (Ne.symm hfull.1)) hs n
    obtain ⟨hout, htruthful, m, sig₂, hrun₂, hsig₂⟩ :=
      ih h₁ hr' hfull.2 (fun batch => (hok batch).2) hsmall₁ m₁
    refine ⟨hout, htruthful, m, sig₁ ++ sig₂, ?_, ?_⟩
    · have hsplit : (t :: ts).filter Turn.isOuter =
          [t].filter Turn.isOuter ++ ts.filter Turn.isOuter := List.filter_append [t] ts
      rw [hsplit, Live.run_append, hrun₁, Option.bind_some, hrun₂, Option.map_some]
    · rw [muted_append, muted_append, List.append_assoc, hsig₂, ← List.append_assoc, hsig₁,
        List.append_assoc]

theorem start (s : Session) (j : Journal) :
    Truthful j.latestSeq [] [] (Live.start Journal.sink s (some j))
      (Link.start Journal.sink j) where
  hands := Hands.start Journal.sink s j
  attends := by
    refine .of_not_waiting (.ready ⟨?_, .idle, rfl⟩) (UInt64.add_zero _).symm (by simp)
    exact fun m hm => absurd hm List.not_mem_nil

end Truthful

namespace Live

theorem owed_of_not_waiting {v : Live σ} (hd : v.desk = .ready ∨ v.desk = .stopped) :
    v.owed = [] ∧ v.desk.settled = v.desk := by
  rcases hd with hd | hd <;> rw [owed, hd] <;> exact ⟨rfl, rfl⟩

/-- **Nobody can tell a session with a journal from one without**, but by what is told about safe
observations.  Given the same commands, the one without gives the same answers and tells the same,
in the same order, and has the same fields, book and last number in the end; at most the answer to
the last command is still outstanding with the journal, and it is not when desk and writer have
done what they can.  Only `learnMultValues` has to be set alike.

The journal takes what it is handed, the queue has room, and the numbers do not run out: a flush
answers the highest number that was ever safe, which is not the last one once they start again. -/
theorem journal_unnoticed (k : Sink τ)
    (hl : settings'.learnMultValues = settings.learnMultValues) (s : Session) {j : Journal}
    (hj : j.latestSeq = 0) {ts : List Turn} {v : Live Journal} {sig : List Signal}
    (hr : (start Journal.sink s (some j)).run settings Journal.sink ts = some (v, sig))
    (hfull : .full ∉ (start Journal.sink s (some j)).outletsBy settings Journal.sink ts)
    (hok : ∀ batch,
      .append batch false ∉ (start Journal.sink s (some j)).deedsBy settings Journal.sink ts)
    (hn : ((start Journal.sink s (some j)).broughtBy settings Journal.sink ts).flatten.length <
      2 ^ 64) :
    ∃ u sig₀, (start k s none).run settings' k (ts.filter Turn.isOuter) = some (u, sig₀) ∧
      u.session.catalogue = v.session.catalogue ∧ u.session.book = v.session.book ∧
      u.session.lastSeq = v.session.lastSeq ∧ muted sig ++ v.owed = muted sig₀ ∧
      (v.goOn? settings Journal.sink false = none →
        muted sig = muted sig₀ ∧ u.desk = v.desk) := by
  have hstart : ((start Journal.sink s (some j)).alone 0 : Live τ) = start k s none := by
    show (⟨{ s with lastSeq := j.latestSeq, sinceSnapshot := 0 }, .ready, none⟩ : Live τ) = _
    rw [hj]
    rfl
  have hsmall : j.latestSeq.toNat + ([] ++ ([] ++ (start Journal.sink s (some j)).broughtBy settings
      Journal.sink ts)).flatten.length < 2 ^ 64 := by
    rw [hj, List.nil_append, List.nil_append]
    exact (Nat.zero_add _).symm ▸ hn
  obtain ⟨hout, ⟨done, rest, l, h⟩, m, sig₀, hrun, hsig⟩ :=
    (Truthful.start s j).run k hl hr hfull hok hsmall 0
  rw [hstart] at hrun
  have howed : (start Journal.sink s (some j)).owed = [] := rfl
  rw [howed, List.nil_append] at hsig
  refine ⟨v.alone m, sig₀, hrun, rfl, rfl, rfl, hsig, fun hstuck => ?_⟩
  obtain ⟨hnone, hsettled⟩ := owed_of_not_waiting (h.attends.not_waiting hout hstuck)
  rw [hnone, List.append_nil] at hsig
  exact ⟨hsig, hsettled⟩

end Live

/-- An exchange is logged and written, and it is told that it is safe; then a flush is asked for
and done. -/
def Turn.assurance : List Turn :=
  [.command (.log "K1AR" .zone 0), .writer, .writer, .writer, .desk, .command .flush, .desk,
    .writer, .writer, .desk]

/-- Exchanges are not written at once. -/
def Settings.gathering : Settings :=
  { Settings.standard with flushOnLog := false }

namespace Live

/-- A session with an empty journal that starts to work. -/
def fresh : Live Journal :=
  start Journal.sink .bare (some .empty)

theorem run_assurance :
    ∃ v sig, fresh.run .standard Journal.sink Turn.assurance = some (v, sig) :=
  ⟨_, _, rfl⟩

theorem outletsBy_assurance : fresh.outletsBy .standard Journal.sink Turn.assurance =
    List.replicate 11 .vacant := rfl

theorem deedsBy_assurance : fresh.deedsBy .standard Journal.sink Turn.assurance =
    [.append [⟨1, 0, ⟨Callsign.normalize "K1AR", "ITUZONE", "8"⟩⟩] true] := rfl

theorem broughtBy_assurance : fresh.broughtBy .standard Journal.sink Turn.assurance =
    [[⟨1, 0, ⟨Callsign.normalize "K1AR", "ITUZONE", "8"⟩⟩]] := rfl

/-- Without a journal the same two answers are given. -/
theorem journal_unnoticed_of_assurance :
    Settings.gathering.learnMultValues = Settings.standard.learnMultValues ∧
      Journal.empty.latestSeq = 0 ∧
      .full ∉ fresh.outletsBy .standard Journal.sink Turn.assurance ∧
      (∀ batch, .append batch false ∉ fresh.deedsBy .standard Journal.sink Turn.assurance) ∧
      (fresh.broughtBy .standard Journal.sink Turn.assurance).flatten.length < 2 ^ 64 ∧
      ∃ v sig, fresh.run .standard Journal.sink Turn.assurance = some (v, sig) ∧
        ∃ u sig₀, (start Sink.balky .bare none).run .gathering Sink.balky
            (Turn.assurance.filter Turn.isOuter) = some (u, sig₀) ∧
          u.session.catalogue = v.session.catalogue ∧ u.session.book = v.session.book ∧
          u.session.lastSeq = v.session.lastSeq ∧ muted sig ++ v.owed = muted sig₀ ∧
          (v.goOn? .standard Journal.sink false = none →
            muted sig = muted sig₀ ∧ u.desk = v.desk) := by
  have hj : Journal.empty.latestSeq = 0 := rfl
  have hfull : .full ∉ fresh.outletsBy .standard Journal.sink Turn.assurance := by
    rw [outletsBy_assurance]
    decide
  have hok : ∀ batch,
      .append batch false ∉ fresh.deedsBy .standard Journal.sink Turn.assurance := by
    intro batch
    rw [deedsBy_assurance]
    simp
  have hn : (fresh.broughtBy .standard Journal.sink Turn.assurance).flatten.length < 2 ^ 64 := by
    rw [broughtBy_assurance]
    decide
  obtain ⟨v, sig, hr⟩ := run_assurance
  exact ⟨rfl, hj, hfull, hok, hn, v, sig, hr,
    journal_unnoticed Sink.balky rfl .bare hj hr hfull hok hn⟩

end Live

end ContestExchange
