import ContestExchange.Session.Live

/-!
# Settling

A live session *settles* when desk and writer take turns until neither can go on.
No time passes meanwhile.  The writer may be held back from handing observations
over; then it stops before that.

Every turn of the two does some of the work that lies ahead (`work`), whatever
the sink does, so a session always settles: `goOn?_settle`.
-/

namespace ContestExchange

namespace Live

variable {σ : Type}

def isAppending (v : Live σ) : Bool :=
  match v.link with
  | none => false
  | some l =>
    match l.writer.phase with
    | .appending _ _ _ => true
    | _ => false

/-- A turn of the desk, or else of the writer. -/
def goOn? (settings : Settings) (k : Sink σ) (held : Bool) (v : Live σ) :
    Option (Live σ × List Signal) :=
  match v.step settings k .desk with
  | some r => some r
  | none => if held && v.isAppending then none else v.step settings k .writer

end Live

/-! ### The work that lies ahead -/

/-- The operations that follow once the waiting observations are written. -/
def Errand.work : Errand → Nat
  | .checkpoint _ _ => 2
  | _ => 0

/-- The turns that the writer needs until it is idle again, and the desk to pass on
what it says. -/
def Phase.work : Phase → Nat
  | .idle => 0
  | .appending _ _ e => 3 + e.work
  | .flushing _ e => 2 + e.work
  | .snapshotting _ _ => 2
  | .compacting _ => 1
  | .closed => 0

def Errand.isClose : Errand → Bool
  | .close => true
  | _ => false

theorem Errand.eq_close {e : Errand} (h : e.isClose = true) : e = .close := by
  cases e with
  | close => rfl
  | routine => exact absurd h Bool.false_ne_true
  | sync => exact absurd h Bool.false_ne_true
  | checkpoint s compact => exact absurd h Bool.false_ne_true

/-- Whether the writer is about to end, or has ended. -/
def Phase.isClosing : Phase → Bool
  | .idle => false
  | .appending _ _ e => e.isClose
  | .flushing _ e => e.isClose
  | .snapshotting _ _ => false
  | .compacting _ => false
  | .closed => true

/-- The turns that a message costs the desk and the writer. -/
def Desk.work : Desk → Nat
  | .ready => 0
  | .sending _ _ => 12
  | .waiting _ => 5
  | .stopped => 0

namespace Link

variable {σ : Type}

/-- The turns that the link still needs when no more is sent. -/
def work (l : Link σ) : Nat :=
  6 * l.queue.length + l.writer.phase.work + l.notices.length

/-- The turns that the writer still needs to end. -/
def lastWork (l : Link σ) : Nat :=
  if l.writer.phase.isClosing then 0 else 4

end Link

namespace Live

variable {σ : Type}

/-- How many turns desk and writer can take at most when nobody asks anything. -/
def work (v : Live σ) : Nat :=
  match v.link with
  | none => 0
  | some l => l.work + v.desk.work + if v.desk = .stopped then l.lastWork else 0

end Live

namespace Writer

theorem work_goOn (w : Writer) (notice : Option Reply) (result : Except JournalError Unit)
    (e : Errand) : (w.goOn notice result e).writer.phase.work ≤ e.work := by
  cases e with
  | routine => exact Nat.le_refl _
  | sync => exact Nat.le_refl _
  | checkpoint s compact =>
    cases result with
    | error e => exact Nat.zero_le _
    | ok u => exact Nat.le_refl _
  | close => exact Nat.le_refl _

theorem notice_goOn (w : Writer) (notice : Option Reply) (result : Except JournalError Unit)
    (e : Errand) : (w.goOn notice result e).notice = notice := by
  cases e with
  | routine => rfl
  | sync => rfl
  | checkpoint s compact => cases result <;> rfl
  | close => rfl

theorem work_goOn_add_length (w : Writer) (notice : Option Reply)
    (result : Except JournalError Unit) (e : Errand) :
    (w.goOn notice result e).writer.phase.work + (w.goOn notice result e).notice.toList.length
      ≤ e.work + 1 := by
  rw [notice_goOn]
  have h1 := work_goOn w notice result e
  have h2 : notice.toList.length ≤ 1 := by cases notice <;> simp
  omega

theorem isClosing_goOn (w : Writer) (notice : Option Reply) (result : Except JournalError Unit)
    {e : Errand} (h : e.isClose = true) :
    (w.goOn notice result e).writer.phase.isClosing = true := by
  rw [Errand.eq_close h]
  rfl

/-- **A piece of work leaves less to do**, whatever the sink does, and a writer
that is about to end still is. -/
theorem work_decreases {σ : Type} {k : Sink σ} {w : Writer} {s s' : σ} {r : Worked}
    (h : w.work k s = some (s', r)) :
    r.writer.phase.work + r.notice.toList.length < w.phase.work ∧
      (w.phase.isClosing = true → r.writer.phase.isClosing = true) := by
  have closes : ∀ (w' : Writer) (notice : Option Reply) (result : Except JournalError Unit)
      (e : Errand), (w'.goOn notice result e).writer.phase.work +
        (w'.goOn notice result e).notice.toList.length < 2 + e.work := fun w' notice result e => by
    have := work_goOn_add_length w' notice result e
    omega
  unfold work at h
  split at h
  · simp at h
  · rename_i batch sync errand hp
    rw [hp]
    have appending : ∀ {n : Nat}, n < 2 + errand.work →
        n < Phase.work (.appending batch sync errand) := fun hn => by
      rw [Phase.work]
      omega
    simp only at h
    split at h
    · rename_i e _
      simp only [Option.some.injEq, Prod.mk.injEq] at h
      obtain ⟨-, rfl⟩ := h
      exact ⟨appending (closes _ _ _ _), fun hc => isClosing_goOn _ _ _ hc⟩
    · rename_i seq _
      split at h
      · simp only [Option.some.injEq, Prod.mk.injEq] at h
        obtain ⟨-, rfl⟩ := h
        exact ⟨Nat.add_lt_add_right (Nat.lt_succ_self 2) errand.work, fun hc => hc⟩
      · simp only [Option.some.injEq, Prod.mk.injEq] at h
        obtain ⟨-, rfl⟩ := h
        refine ⟨?_, fun hc => isClosing_goOn _ _ _ hc⟩
        exact appending (closes _ _ _ _)
  · rename_i appended errand hp
    rw [hp]
    simp only at h
    split at h <;> simp only [Option.some.injEq, Prod.mk.injEq] at h <;> obtain ⟨-, rfl⟩ := h <;>
      exact ⟨closes _ _ _ _, fun hc => isClosing_goOn _ _ _ hc⟩
  · rename_i snapshot compact hp
    rw [hp]
    simp only at h
    split at h
    · simp only [Option.some.injEq, Prod.mk.injEq] at h
      obtain ⟨-, rfl⟩ := h
      exact ⟨Nat.zero_lt_two, fun hc => absurd hc Bool.false_ne_true⟩
    · split at h <;> simp only [Option.some.injEq, Prod.mk.injEq] at h <;> obtain ⟨-, rfl⟩ := h
      · exact ⟨Nat.one_lt_two, fun hc => absurd hc Bool.false_ne_true⟩
      · exact ⟨Nat.zero_lt_two, fun hc => absurd hc Bool.false_ne_true⟩
  · rename_i seq hp
    rw [hp]
    simp only [Option.some.injEq, Prod.mk.injEq] at h
    obtain ⟨-, rfl⟩ := h
    exact ⟨Nat.zero_lt_one, fun hc => absurd hc Bool.false_ne_true⟩
  · simp at h

theorem work_setOut {w : Writer} (h : w.phase = .idle) (sync : Bool) (e : Errand) :
    (w.setOut sync e).phase.work ≤ 3 + e.work := by
  unfold setOut
  split
  · split
    · simp only [Phase.work]; omega
    · rw [h]; exact Nat.zero_le _
  · exact Nat.le_refl _

theorem isClosing_setOut (w : Writer) : (w.setOut true .close).phase.isClosing = true := by
  unfold setOut
  split <;> rfl

theorem work_take {w : Writer} (h : w.phase = .idle) (settings : Settings) (m : Message) :
    (w.take settings m).phase.work ≤ 5 := by
  cases m with
  | append batch =>
    simp only [take]
    split
    · have := work_setOut (w := { w with pending := w.pending ++ batch }) h true .routine
      simp only [Errand.work] at this
      omega
    · rw [h]; exact Nat.zero_le _
  | sync =>
    have := work_setOut h true .sync
    simp only [Errand.work] at this
    simp only [take]; omega
  | checkpoint s compact =>
    exact work_setOut h true (.checkpoint s compact)
  | close =>
    have := work_setOut h true .close
    simp only [Errand.work] at this
    simp only [take]; omega

end Writer

namespace Link

variable {σ : Type}

theorem lastWork_le (l : Link σ) : l.lastWork ≤ 4 := by
  unfold lastWork
  split <;> omega

theorem work_eq (l : Link σ) :
    l.work = 6 * l.queue.length + l.writer.phase.work + l.notices.length := rfl

/-- **A turn of the writer leaves less to do**, and unless it is the last time,
less than before without what comes then. -/
theorem work_turn? {l l' : Link σ} {settings : Settings} {k : Sink σ} {isLast : Bool}
    (h : l.turn? settings k isLast = some l') :
    l'.work + l'.lastWork < l.work + l.lastWork ∧ (isLast = false → l'.work < l.work) := by
  unfold turn? at h
  split at h
  · rename_i m queue hp hq
    simp only [Option.some.injEq] at h
    subst h
    have h1 := Writer.work_take hp settings m
    have h2 := lastWork_le { l with queue, writer := l.writer.take settings m }
    have h3 : l.lastWork = 4 := by rw [lastWork, hp]; rfl
    have h4 : l.work = 6 * (queue.length + 1) + 0 + l.notices.length := by
      rw [work_eq, hp, hq]; rfl
    have h5 := work_eq { l with queue, writer := l.writer.take settings m }
    simp only at h5
    omega
  · rename_i hp hq
    split at h
    · rename_i hl
      simp only [Option.some.injEq] at h
      subst h
      have h1 := Writer.work_setOut hp true .close
      have h2 : lastWork { l with writer := l.writer.setOut true .close } = 0 := by
        rw [lastWork, if_pos (Writer.isClosing_setOut l.writer)]
      have h3 : l.lastWork = 4 := by rw [lastWork, hp]; rfl
      have h4 : l.work = 6 * l.queue.length + 0 + l.notices.length := by rw [work_eq, hp]; rfl
      have h5 := work_eq { l with writer := l.writer.setOut true .close }
      simp only [Errand.work] at h1 h5
      refine ⟨by omega, fun hf => ?_⟩
      rw [hl] at hf
      contradiction
    · simp at h
  · simp only [Option.map_eq_some_iff] at h
    obtain ⟨⟨s, r⟩, hw, rfl⟩ := h
    have h1 := Writer.work_decreases hw
    have h2 : (l.worked s r).lastWork ≤ l.lastWork := by
      unfold lastWork
      split
      · exact Nat.zero_le _
      · rename_i hc
        exact Nat.le_of_eq (if_neg fun hc' => hc (h1.2 hc')).symm
    have h3 := work_eq (l.worked s r)
    have h4 := work_eq l
    have h5 : (l.worked s r).notices.length = l.notices.length + r.notice.toList.length :=
      List.length_append
    have h6 : (l.worked s r).queue = l.queue := rfl
    have h7 : (l.worked s r).writer = r.writer := rfl
    rw [h6, h7] at h3
    change (l.worked s r).work + (l.worked s r).lastWork < _ ∧ (_ → (l.worked s r).work < _)
    omega

end Link

namespace Live

variable {σ : Type}

theorem work_of_link {v : Live σ} {l : Link σ} (h : v.link = some l) :
    v.work = l.work + v.desk.work + if v.desk = .stopped then l.lastWork else 0 := by
  rw [work, h]

theorem work_le_of_not_waiting {v : Live σ} {l : Link σ} (h : v.link = some l)
    (hd : v.desk = .ready ∨ v.desk = .stopped) : v.work ≤ l.work + 4 := by
  have h1 := l.lastWork_le
  rw [work_of_link h]
  rcases hd with hd | hd <;> rw [hd] <;> simp only [Desk.work, reduceCtorEq, if_true, if_false] <;>
    omega

theorem desk_unanswered (v : Live σ) (e : Awaited) :
    (v.unanswered e).1.link = v.link ∧
      ((v.unanswered e).1.desk = .ready ∨ (v.unanswered e).1.desk = .stopped) := by
  cases e with
  | flush => exact ⟨rfl, .inl rfl⟩
  | checkpoint => exact ⟨rfl, .inl rfl⟩
  | logged seq => exact ⟨rfl, .inl rfl⟩
  | shutdown => exact ⟨rfl, .inr rfl⟩

theorem desk_replied (v : Live σ) (r : Reply) (e : Awaited) :
    (v.replied r e).1.link = v.link ∧
      ((v.replied r e).1.desk = .ready ∨ (v.replied r e).1.desk = .stopped) := by
  cases e with
  | flush => exact ⟨rfl, .inl rfl⟩
  | checkpoint => exact ⟨rfl, .inl rfl⟩
  | logged seq => exact ⟨rfl, .inl rfl⟩
  | shutdown => exact ⟨rfl, .inr rfl⟩

/-- **A turn of the desk leaves less to do.** -/
theorem work_deskTurn? {v : Live σ} {settings : Settings} {l : Link σ}
    {r : Live σ × List Signal} (hl : v.link = some l) (h : v.deskTurn? settings l = some r) :
    r.1.work < v.work := by
  rw [work_of_link hl]
  unfold deskTurn? at h
  split at h
  · rename_i hd
    split at h
    · simp at h
    · rename_i n notices hn
      simp only [Option.some.injEq] at h
      subst h
      have h1 : (work { v with link := some { l with notices } }) =
          6 * l.queue.length + l.writer.phase.work + notices.length + v.desk.work +
            if v.desk = .stopped then l.lastWork else 0 := rfl
      have h2 : l.work = 6 * l.queue.length + l.writer.phase.work + (notices.length + 1) := by
        rw [Link.work_eq, hn]; rfl
      rw [h1, h2]
      omega
  · rename_i m e hd
    rw [hd]
    split at h
    · simp only [Option.some.injEq] at h
      subst h
      have h1 := desk_unanswered v e
      have h2 := work_le_of_not_waiting (h1.1.trans hl) h1.2
      simp only [Desk.work, reduceCtorEq, if_false]
      omega
    · simp at h
    · simp only [Option.some.injEq] at h
      subst h
      have h1 : (work { v with desk := .waiting e, link := some (l.send m) }) =
          (l.send m).work + 5 + 0 := rfl
      have h2 : (l.send m).work = l.work + 6 := by
        rw [Link.work_eq, Link.work_eq, Link.send, List.length_append]
        simp only [List.length_cons, List.length_nil]
        omega
      simp only [Desk.work, reduceCtorEq, if_false]
      rw [h1, h2]
      omega
  · rename_i e hd
    rw [hd]
    split at h
    · simp at h
    · rename_i reply hr
      simp only [Option.some.injEq] at h
      subst h
      have h1 := desk_replied { v with link := some { l with reply := none } } reply e
      have h2 := work_le_of_not_waiting h1.1 h1.2
      have h3 : Link.work { l with reply := none } = l.work := rfl
      simp only [Desk.work, reduceCtorEq, if_false]
      omega
  · simp at h

/-- **A turn of desk or writer leaves less to do.** -/
theorem work_goOn? {v : Live σ} {settings : Settings} {k : Sink σ} {held : Bool}
    {r : Live σ × List Signal} (h : v.goOn? settings k held = some r) : r.1.work < v.work := by
  unfold goOn? at h
  split at h
  · rename_i q hq
    simp only [Option.some.injEq] at h
    subst h
    simp only [step, Option.bind_eq_some_iff] at hq
    obtain ⟨l, hl, hq⟩ := hq
    exact work_deskTurn? hl hq
  · split at h
    · simp at h
    · simp only [step, Option.map_eq_some_iff, Option.bind_eq_some_iff] at h
      obtain ⟨l', ⟨l, hl, ht⟩, rfl⟩ := h
      have h1 := Link.work_turn? ht
      have h2 : (work { v with link := some l' }) = l'.work + v.desk.work +
          if v.desk = .stopped then l'.lastWork else 0 := rfl
      rw [h2, work_of_link hl]
      split
      · omega
      · rename_i hd
        have := h1.2 (by simpa using hd)
        omega

/-! ### Settling -/

/-- Turns of desk and writer until neither can go on. -/
def settle (settings : Settings) (k : Sink σ) (held : Bool) (v : Live σ) :
    Live σ × List Signal :=
  match _h : v.goOn? settings k held with
  | none => (v, [])
  | some r =>
    let q := r.1.settle settings k held
    (q.1, r.2 ++ q.2)
termination_by v.work
decreasing_by exact work_goOn? _h

/-- **A session always settles**: neither desk nor writer can go on then. -/
theorem goOn?_settle (settings : Settings) (k : Sink σ) (held : Bool) (v : Live σ) :
    (v.settle settings k held).1.goOn? settings k held = none := by
  fun_induction settle settings k held v with
  | case1 v h => exact h
  | case2 v r h q ih => exact ih

/-- A turn, and turns of desk and writer until neither can go on; nothing if the
turn is not possible. -/
def stepAndSettle (settings : Settings) (k : Sink σ) (held : Bool) (v : Live σ) (t : Turn) :
    Live σ × List Signal :=
  match v.step settings k t with
  | none => (v, [])
  | some r =>
    let q := r.1.settle settings k held
    (q.1, r.2 ++ q.2)

end Live

end ContestExchange
