import ContestExchange.Proofs.Session.Recovery

/-!
# An exchange is logged or it is not

Logging is the one command that changes the fields, the book, the numbers and the
queue together.  Either it is refused, and then nothing at all has changed and
nothing is told but the refusal, or it is carried out in full
(`Live.log_all_or_nothing`).

When a snapshot is due the answer has to wait for the sink.  It is settled already
(`Live.Owes`): whatever the sink makes of the snapshot, the answer is the number of
the last observation, and until it is given nothing is heard and nothing changes.
-/

namespace ContestExchange

/-! ### What logging brings to a book -/

/-- An exchange brings nothing only if none of its slots is filled. -/
theorem Exchange.observations_eq_nil_iff {x : Exchange} (hv : x.isValid = true) (call : String) :
    x.observations call = [] ↔ ∀ e ∈ x.entries, e.value = "" := by
  have hentry : ∀ e : Entry, e.observations (x.sender call) = [] ↔ e.value = "" := by
    intro e
    rw [Entry.observations]
    split
    · simp [*]
    · split <;> simp [*]
  rw [observations, if_pos hv, List.flatMap_eq_nil_iff]
  exact forall₂_congr fun e _ => hentry e

namespace Session

variable {s : Session} {settings : Settings} {outlet : Outlet} {x : Exchange}

theorem log_of_not_valid (hv : x.isValid = false) (call : String) (time : UInt64) :
    s.log settings outlet call x time = .error (.exchange (.unreadable x.receivedText)) := by
  rw [log, Exchange.validated, hv]
  rfl

theorem log_of_refusal {e : SessionError} (hv : x.isValid = true) (ho : outlet.refusal? = some e)
    (call : String) (time : UInt64) : s.log settings outlet call x time = .error e := by
  rw [log, Exchange.validated, hv, if_pos rfl]
  simp only [ho]

theorem exists_log (s : Session) (settings : Settings) (hv : x.isValid = true)
    (ho : outlet.refusal? = none) (call : String) (time : UInt64) :
    ∃ g, s.log settings outlet call x time = .ok g ∧
      g.batch.map Stored.observation = x.observations call ∧
      g.session.sinceSnapshot = s.sinceSnapshot + g.batch.length := by
  rw [log, Exchange.validated, hv, if_pos rfl]
  simp only [ho]
  refine ⟨_, rfl, Stored.map_observation_number _ _ _, ?_⟩
  rw [Stored.length_number, observe]
  cases settings.learnMultValues with
  | false => rfl
  | true =>
    obtain ⟨-, -, hsince⟩ := s.learnEntries_frame x.mults
    exact congrArg (· + _) hsince

theorem counted_of_log {call : String} {time : UInt64} {g : Logged}
    (h : s.log settings outlet call x time = .ok g) :
    x.isValid = true ∧ g.batch.map Stored.observation = x.observations call ∧
      g.session.sinceSnapshot = s.sinceSnapshot + g.batch.length := by
  have hv : x.isValid = true := by
    cases hv : x.isValid with
    | true => rfl
    | false =>
      rw [log_of_not_valid hv] at h
      cases h
  obtain ⟨g', hg', hobs, hcount⟩ := s.exists_log settings hv (log_ok h).1 call time
  obtain rfl : g = g' := Except.ok.inj (h.symm.trans hg')
  exact ⟨hv, hobs, hcount⟩

end Session

namespace Live

variable {σ : Type} {k : Sink σ} {settings : Settings} {v w u : Live σ} {t : Turn}
  {ts : List Turn} {sig : List Signal} {call : String} {x : Exchange} {time n : UInt64}

/-! ### The answer after a snapshot -/

/-- The desk has logged an exchange and sees to a snapshot before it answers the number. -/
def Owes (v : Live σ) (n : UInt64) : Prop :=
  (∃ m, v.desk = .sending m (.logged n)) ∨ v.desk = .waiting (.logged n)

/-- The same fields, book and last number; only the observations since the last snapshot may be
counted anew. -/
def SameBooks (v w : Live σ) : Prop :=
  w.session = { v.session with sinceSnapshot := w.session.sinceSnapshot }

theorem Owes.ne_ready (h : v.Owes n) : v.desk ≠ .ready := by
  intro hd
  rcases h with ⟨m, hm⟩ | hm <;> simp [hm] at hd

theorem Owes.ne_stopped (h : v.Owes n) : v.desk ≠ .stopped := by
  intro hd
  rcases h with ⟨m, hm⟩ | hm <;> simp [hm] at hd

theorem Owes.deskTurn {l : Link σ} (h : v.Owes n) (hs : DeskTurns settings v l w sig) :
    (sig = [] ∧ w.Owes n ∧ w.session = v.session) ∨
      sig = [.answer (.seq n)] ∧ w.desk = .ready ∧ v.SameBooks w := by
  cases hs with
  | passed hd => exact absurd hd h.ne_ready
  | deserted hd =>
    rcases h with ⟨m, hm⟩ | hm <;> cases hm.symm.trans hd
    exact .inr ⟨rfl, rfl, rfl⟩
  | sent hd =>
    rcases h with ⟨m, hm⟩ | hm <;> cases hm.symm.trans hd
    exact .inl ⟨rfl, .inr rfl, rfl⟩
  | heard hd =>
    rcases h with ⟨m, hm⟩ | hm <;> cases hm.symm.trans hd
    exact .inr ⟨rfl, rfl, rfl⟩

/-- **A step with an answer outstanding** gives it, or changes nothing that concerns it. -/
theorem Owes.step (h : v.Owes n) (hs : v.step settings k t = some (w, sig)) :
    (sig = [] ∧ w.Owes n ∧ w.session = v.session) ∨
      sig = [.answer (.seq n)] ∧ w.desk = .ready ∧ v.SameBooks w := by
  cases turns_of_step hs with
  | carriedOut hd | left hd => exact absurd hd h.ne_ready
  | refused hd => exact absurd hd h.ne_stopped
  | desk _ hdesk => exact h.deskTurn hdesk
  | writer | timer => exact .inl ⟨rfl, h, rfl⟩

/-- **An answer that is outstanding** is the next thing that is heard, and nothing changes
before. -/
theorem Owes.run (h : v.Owes n) (hr : v.run settings k ts = some (w, sig)) :
    (sig = [] ∧ w.Owes n ∧ w.session = v.session) ∨
      ∃ before u, before <+: ts ∧ v.run settings k before = some (u, [.answer (.seq n)]) ∧
        u.desk = .ready ∧ v.SameBooks u := by
  induction ts generalizing v sig with
  | nil =>
    obtain ⟨rfl, rfl⟩ := Prod.mk.inj (Option.some.inj hr)
    exact .inl ⟨rfl, h, rfl⟩
  | cons t ts ih =>
    obtain ⟨v', s, s', hs, hr', rfl⟩ := run_cons_split hr
    rcases h.step hs with ⟨rfl, howes, hsame⟩ | ⟨rfl, hd, hsame⟩
    · rcases ih howes hr' with ⟨rfl, howes', hsame'⟩ | ⟨before, u, hp, hb, hd, hsame'⟩
      · exact .inl ⟨rfl, howes', hsame'.trans hsame⟩
      · refine .inr ⟨t :: before, u, List.cons_prefix_cons.2 ⟨rfl, hp⟩, ?_, hd, ?_⟩
        · rw [Live.run, hs, Option.bind_some, hb]
          rfl
        · rw [SameBooks, ← hsame]
          exact hsame'
    · refine .inr ⟨[t], v', List.cons_prefix_cons.2 ⟨rfl, List.nil_prefix⟩, ?_, hd, hsame⟩
      rw [Live.run, hs]
      rfl

/-! ### All or nothing -/

/-- Why an exchange is not logged, if it is not. -/
def refusal? (v : Live σ) (settings : Settings) (x : Exchange) : Option SessionError :=
  if v.desk = .stopped then some .notRunning
  else if x.isValid then (v.outlet settings).refusal?
  else some (.exchange (.unreadable x.receivedText))

/-- The number is answered after some events, at once or when a snapshot was tried. -/
def Answers (settings : Settings) (k : Sink σ) (w : Live σ) (sig : List Signal) (n : UInt64) :
    Prop :=
  ∃ events : List Event,
    w.desk = .ready ∧ sig = events.map Signal.event ++ [.answer (.seq n)] ∨
    w.Owes n ∧ sig = events.map Signal.event ∧
      ∀ ts u sig', w.run settings k ts = some (u, sig') →
        (sig' = [] ∧ u.Owes n ∧ u.session = w.session) ∨
          ∃ before u', before <+: ts ∧ w.run settings k before = some (u', [.answer (.seq n)]) ∧
            u'.desk = .ready ∧ w.SameBooks u'

/-- An exchange is logged in full, with these observations. -/
structure Logs (settings : Settings) (k : Sink σ) (v : Live σ) (call : String) (x : Exchange)
    (batch : List Stored) (w : Live σ) (sig : List Signal) : Prop where
  observed : batch.map Stored.observation = x.observations call
  /-- The numbers are the next ones, in order. -/
  follows : Stored.Follows v.session.lastSeq batch
  lastSeq : w.session.lastSeq = (batch.getLast?.map Stored.seq).getD v.session.lastSeq
  counted : w.session.sinceSnapshot = v.session.sinceSnapshot + batch.length
  /-- The last observation of a key stands in the book; other keys stay as they were. -/
  noted : ∀ key, w.session.book.notes.get? key =
    (((x.observations call).filter fun o => o.key = key).getLast?.map
      fun o => ⟨o.value, true⟩).or (v.session.book.notes.get? key)
  sources : w.session.book.sources = v.session.book.sources
  lookups : w.session.book.lookups = v.session.book.lookups
  /-- One message is queued, or none if there is nothing to keep. -/
  queued : w.link = v.link.map fun l =>
    { l with queue := l.queue ++ if batch.isEmpty then [] else [.append batch] }
  empty_iff : batch = [] ↔ ∀ e ∈ x.entries, e.value = ""
  answered : Answers settings k w sig w.session.lastSeq

theorem link_logged (v : Live σ) (settings : Settings) (g : Logged) :
    (v.logged settings g).1.link = v.link.map fun l =>
      { l with queue := l.queue ++ if g.batch.isEmpty then [] else [.append g.batch] } := by
  have hsend : ∀ l : Link σ, (if g.batch.isEmpty then l else l.send (.append g.batch)) =
      { l with queue := l.queue ++ if g.batch.isEmpty then [] else [.append g.batch] } := by
    intro l
    split
    · rw [List.append_nil]
    · rfl
  rw [logged]
  cases v.link with
  | none => rfl
  | some l =>
    simp only [Option.map_some, ← hsend]
    split <;> rfl

theorem session_logged (v : Live σ) (settings : Settings) (g : Logged) :
    (v.logged settings g).1.session = g.session := by
  rw [logged]
  cases v.link with
  | none => rfl
  | some l =>
    simp only
    split <;> rfl

theorem answers_logged (k : Sink σ) (hd : v.desk = .ready) (g : Logged) :
    Answers settings k (v.logged settings g).1 (v.logged settings g).2 g.session.lastSeq := by
  refine ⟨g.events, ?_⟩
  rw [logged]
  cases v.link with
  | none => exact .inl ⟨hd, rfl⟩
  | some l =>
    simp only
    split
    · refine .inr ⟨.inl ⟨_, rfl⟩, rfl, fun ts u sig' hr => ?_⟩
      exact Owes.run (.inl ⟨_, rfl⟩) hr
    · exact .inl ⟨hd, rfl⟩

theorem logs_of_log (k : Sink σ) (hd : v.desk = .ready) (hv : x.isValid = true)
    (ho : (v.outlet settings).refusal? = none) (call : String) (time : UInt64) :
    ∃ w sig batch, v.step settings k (.command (.log call x time)) = some (w, sig) ∧
      Logs settings k v call x batch w sig := by
  obtain ⟨g, hg, hobs, hcount⟩ := v.session.exists_log settings hv ho call time
  obtain ⟨-, hbook, hseq, hfollows⟩ := Session.log_ok hg
  have hstep : v.step settings k (.command (.log call x time)) = some (v.logged settings g) := by
    rw [Live.step, hd]
    simp only [carryOut, hg]
  rw [hobs] at hbook
  have hsession := session_logged v settings g
  refine ⟨(v.logged settings g).1, (v.logged settings g).2, g.batch, hstep, hobs, hfollows, ?_, ?_,
    fun key => ?_, ?_, ?_, link_logged v settings g, ?_, ?_⟩
  · rw [hsession, hseq, hfollows.getLast?_seq]
  · rw [hsession, hcount]
  · rw [hsession, hbook, Book.get?_restore]
  · rw [hsession, hbook, Book.sources_restore]
  · rw [hsession, hbook, Book.lookups_restore]
  · rw [← x.observations_eq_nil_iff hv call, ← hobs, List.map_eq_nil_iff]
  · rw [hsession]
    exact answers_logged k hd g

/-- **Logging does everything or nothing.**  An exchange that is refused changes nothing, and
nothing is heard but why; one that is not refused is logged in full. -/
theorem log_all_or_nothing (settings : Settings) (k : Sink σ)
    (hd : v.desk = .ready ∨ v.desk = .stopped) (call : String) (x : Exchange) (time : UInt64) :
    (∀ e, v.refusal? settings x = some e →
      v.step settings k (.command (.log call x time)) = some (v, [.answer (.failed e)])) ∧
    (v.refusal? settings x = none → ∃ w sig batch,
      v.step settings k (.command (.log call x time)) = some (w, sig) ∧
        Logs settings k v call x batch w sig) := by
  rcases hd with hd | hd
  · have hne : ¬v.desk = .stopped := by simp [hd]
    rw [refusal?, if_neg hne]
    cases hv : x.isValid with
    | false =>
      refine ⟨fun e he => ?_, fun he => absurd he (Option.some_ne_none _)⟩
      obtain rfl := Option.some.inj he
      rw [Live.step, hd]
      simp only [carryOut, Session.log_of_not_valid hv]
    | true =>
      refine ⟨fun e he => ?_, fun he => logs_of_log k hd hv he call time⟩
      rw [Live.step, hd]
      simp only [carryOut, Session.log_of_refusal hv he]
  · rw [refusal?, if_pos hd]
    refine ⟨fun e he => ?_, fun he => absurd he (Option.some_ne_none _)⟩
    obtain rfl := Option.some.inj he
    rw [Live.step, hd]

/-- An exchange with a zone is logged in full. -/
theorem log_all_or_nothing_of_zone :
    let v := start Journal.sink .bare (some .empty)
    (v.desk = .ready ∨ v.desk = .stopped) ∧ v.refusal? .standard .zone = none ∧
      ∃ w sig batch,
        v.step .standard Journal.sink (.command (.log "K1AR" .zone 0)) = some (w, sig) ∧
        Logs .standard Journal.sink v "K1AR" .zone batch w sig :=
  ⟨.inl rfl, rfl, (log_all_or_nothing .standard Journal.sink (.inl rfl) "K1AR" .zone 0).2 rfl⟩

end Live

end ContestExchange
