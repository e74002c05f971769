import ContestExchange.Session.Live

/-!
# What the writer can do

One lemma for each kind of step that the writer of a journal makes.  A piece of
work is one operation of the journal and leads from one phase to the next
(`Phase.Works`, `works_of_work`); a message and the end of the wait for more
observations lead out of the idle phase (`pending_setOut`, `take_append`,
`take_request`).  Whoever reasons about the writer takes these apart and does
not look into its functions.
-/

namespace ContestExchange

/-- What the writer turns to once observations were written for somebody. -/
def Errand.next : Errand → Phase
  | .routine => .idle
  | .sync => .idle
  | .checkpoint s compact => .snapshotting s compact
  | .close => .closed

/-- Whether the writer replies once observations were written for somebody. -/
def Errand.replies : Errand → Bool
  | .routine => false
  | .sync => true
  | .checkpoint _ _ => false
  | .close => true

/-- On whose behalf the writer works after a message. -/
def Message.errand : Message → Errand
  | .append _ => .routine
  | .sync => .sync
  | .checkpoint s compact => .checkpoint s compact
  | .close => .close

/-- The observations that a message brings. -/
def Message.batch? : Message → Option (List Stored)
  | .append batch => some batch
  | _ => none

/-- The observations that are about to be handed over. -/
def Phase.batch : Phase → List Stored
  | .appending batch _ _ => batch
  | _ => []

theorem Errand.batch_next (e : Errand) : e.next.batch = [] := by
  cases e <;> rfl

/-! ### Pieces of work -/

/-- A piece of work that succeeds: the journal and the phase before and afterwards,
and whether there is a reply.  Observations are handed over with a flush to come or
without one, and a snapshot is written with rows to drop or without. -/
inductive Phase.Works (j : Journal) : Phase → Journal → Phase → Bool → Prop
  | append {batch : List Stored} {r : Journal × UInt64} (h : j.append batch = .ok r)
    (e : Errand) : Works j (.appending batch true e) r.1 (.flushing (some r.2) e) false
  | hand {batch : List Stored} {r : Journal × UInt64} (h : j.append batch = .ok r)
    (e : Errand) : Works j (.appending batch false e) r.1 e.next e.replies
  | flush (appended : Option UInt64) (e : Errand) :
    Works j (.flushing appended e) j e.next e.replies
  | snapshot (s : Snapshot) : Works j (.snapshotting s false) (j.writeSnapshot s) .idle true
  | cover (s : Snapshot) :
    Works j (.snapshotting s true) (j.writeSnapshot s) (.compacting s.lastSeq) false
  | compact (seq : UInt64) : Works j (.compacting seq) (j.compactThrough seq).1 .idle true

namespace Writer

theorem goOn_ok (w : Writer) (notice : Option Reply) (e : Errand) :
    (w.goOn notice (.ok ()) e).writer.pending = w.pending ∧
      (w.goOn notice (.ok ()) e).writer.phase = e.next ∧
      (w.goOn notice (.ok ()) e).reply.isSome = e.replies := by
  cases e <;> exact ⟨rfl, rfl, rfl⟩

theorem succeed_ok (w : Writer) (seq : UInt64) (e : Errand) :
    (w.succeed seq e).writer.pending = w.pending ∧ (w.succeed seq e).writer.phase = e.next ∧
      (w.succeed seq e).reply.isSome = e.replies :=
  goOn_ok _ _ e

/-- **What a piece of work does**, if what is handed over is taken. -/
theorem works_of_work {w : Writer} {j j' : Journal} {r : Worked}
    (h : w.work Journal.sink j = some (j', r))
    (hok : ∀ {batch sync e}, w.phase = .appending batch sync e → ∃ q, j.append batch = .ok q) :
    w.phase.Works j j' r.writer.phase r.reply.isSome ∧ r.writer.pending = w.pending := by
  rw [work] at h
  split at h
  · cases h
  · rename_i batch sync e hp
    obtain ⟨q, hq⟩ := hok hp
    rw [hp]
    simp only [Journal.sink, hq] at h
    cases sync with
    | true =>
      obtain ⟨rfl, rfl⟩ := Prod.mk.inj (Option.some.inj h)
      exact ⟨.append hq e, rfl⟩
    | false =>
      obtain ⟨rfl, rfl⟩ := Prod.mk.inj (Option.some.inj h)
      obtain ⟨hpend, hphase, hreply⟩ := w.succeed_ok q.2 e
      rw [hphase, hreply]
      exact ⟨.hand hq e, hpend⟩
  · rename_i appended e hp
    rw [hp]
    cases appended with
    | none =>
      obtain ⟨rfl, rfl⟩ := Prod.mk.inj (Option.some.inj h)
      obtain ⟨hpend, hphase, hreply⟩ := w.goOn_ok none e
      rw [hphase, hreply]
      exact ⟨.flush none e, hpend⟩
    | some seq =>
      obtain ⟨rfl, rfl⟩ := Prod.mk.inj (Option.some.inj h)
      obtain ⟨hpend, hphase, hreply⟩ := w.succeed_ok seq e
      rw [hphase, hreply]
      exact ⟨.flush (some seq) e, hpend⟩
  · rename_i s compact hp
    rw [hp]
    cases compact with
    | true =>
      obtain ⟨rfl, rfl⟩ := Prod.mk.inj (Option.some.inj h)
      exact ⟨.cover s, rfl⟩
    | false =>
      obtain ⟨rfl, rfl⟩ := Prod.mk.inj (Option.some.inj h)
      exact ⟨.snapshot s, rfl⟩
  · rename_i seq hp
    rw [hp]
    obtain ⟨rfl, rfl⟩ := Prod.mk.inj (Option.some.inj h)
    exact ⟨.compact seq, rfl⟩
  · cases h

/-! ### Setting out -/

/-- Whoever asks for the waiting observations to be safe gets a flush, after they were
handed over if there are any. -/
theorem setOut_true (w : Writer) (e : Errand) :
    (w.setOut true e).pending = [] ∧ (w.setOut true e).phase.batch = w.pending ∧
      ((w.setOut true e).phase = .flushing none e ∨
        (w.setOut true e).phase = .appending w.pending true e) := by
  rw [setOut]
  split
  · rename_i h
    rw [List.isEmpty_iff] at h
    exact ⟨h, h.symm, .inl rfl⟩
  · exact ⟨rfl, rfl, .inr rfl⟩

/-- A request makes all waiting observations safe. -/
theorem take_request (w : Writer) (settings : Settings) {m : Message} (h : m.batch? = none) :
    w.take settings m = w.setOut true m.errand := by
  cases m with
  | append batch => cases h
  | sync => rfl
  | checkpoint s compact => rfl
  | close => rfl

theorem take_append (w : Writer) (settings : Settings) (batch : List Stored) :
    w.take settings (.append batch) = { w with pending := w.pending ++ batch } ∨
      w.take settings (.append batch) =
        { w with pending := w.pending ++ batch }.setOut true .routine := by
  rw [take]
  simp only
  split
  · exact .inr rfl
  · exact .inl rfl

end Writer

namespace Link

variable {σ : Type} {k : Sink σ} {l l' : Link σ}

/-- **What a turn of the writer is**: a message is taken, the last observations are set out
for, or a piece of work is done. -/
theorem turn?_cases {settings : Settings} {isLast : Bool}
    (h : l.turn? settings k isLast = some l') :
    (∃ m queue, l.writer.phase = .idle ∧ l.queue = m :: queue ∧
      l' = { l with queue, writer := l.writer.take settings m }) ∨
    (l.writer.phase = .idle ∧ l.queue = [] ∧ isLast = true ∧
      l' = { l with writer := l.writer.setOut true .close }) ∨
    ∃ j r, l.writer.work k l.sink = some (j, r) ∧ l' = l.worked j r := by
  rw [turn?.eq_def] at h
  split at h
  · rename_i m queue hp hq
    exact .inl ⟨m, queue, hp, hq, (Option.some.inj h).symm⟩
  · rename_i hp hq
    split at h
    · exact .inr (.inl ⟨hp, hq, by assumption, (Option.some.inj h).symm⟩)
    · cases h
  · obtain ⟨⟨j, r⟩, hw, rfl⟩ := Option.map_eq_some_iff.1 h
    exact .inr (.inr ⟨j, r, hw, rfl⟩)

theorem timer?_eq_some (h : l.timer? = some l') :
    l.writer.phase = .idle ∧ l.writer.pending ≠ [] ∧
      l' = { l with writer := ⟨.appending l.writer.pending false .routine, [], l.writer.durable⟩ } := by
  rw [timer?] at h
  split at h
  · rename_i hc
    rw [Bool.and_eq_true, decide_eq_true_iff, Bool.not_eq_true'] at hc
    rw [Writer.setOut, if_neg (by rw [hc.2]; exact Bool.false_ne_true)] at h
    exact ⟨hc.1, List.isEmpty_eq_false_iff.1 hc.2, (Option.some.inj h).symm⟩
  · cases h

theorem phase_of_closed {settings : Settings} (h : l.outlet settings = .closed) :
    l.writer.phase = .closed := by
  rw [outlet] at h
  split at h
  · assumption
  · split at h <;> cases h

end Link

end ContestExchange
