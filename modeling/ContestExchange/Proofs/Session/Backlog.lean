import ContestExchange.Proofs.Guess.Heard
import ContestExchange.Proofs.Session.Logging
import ContestExchange.Proofs.Session.Writing

/-!
# Observations on their way

A session starts from what a replay has brought: a book and a last number
(`Origin`).  From there on every accepted exchange brings one batch.  A part of
the batches has reached the journal, and it is always the first ones, whole
batches, in their order: that is `Origin.Kept`.  The others are about to be
handed over, wait with the writer or stand in the queue (`Link.Carries`).
-/

namespace ContestExchange

/-- The book and the last number that a session starts from. -/
structure Origin where
  book : Book
  seq : UInt64

namespace Origin

variable {o : Origin} {done moved rest logs : List (List Stored)} {j : Journal}

/-- What was heard, once the batches are in the book. -/
def heard (o : Origin) (logs : List (List Stored)) : String × String → Option String :=
  (o.book.restore (logs.flatten.map Stored.observation)).heard?

/-- The number of the last observation of the batches. -/
def last (o : Origin) (logs : List (List Stored)) : UInt64 :=
  o.seq + logs.flatten.length.toUInt64

/-- The batches go on from the origin, by numbers below 2 ^ 63, and none of them is empty. -/
structure Fits (o : Origin) (logs : List (List Stored)) : Prop where
  follows : Stored.Follows o.seq logs.flatten
  small : o.seq.toNat + logs.flatten.length < 2 ^ 63
  full : ∀ batch ∈ logs, batch ≠ []

/-- The session has come from the origin through the batches. -/
structure Shows (o : Origin) (logs : List (List Stored)) (s : Session) : Prop where
  heard : s.book.heard? = o.heard logs
  last : s.lastSeq = o.last logs

/-- The journal keeps what was heard up to the end of the batches. -/
def Kept (o : Origin) (done : List (List Stored)) (j : Journal) : Prop :=
  ∃ l, j.Keeps l (o.last done) ∧ ((Book.ofSources .empty).restore l).heard? = o.heard done

theorem last_append (o : Origin) (done moved : List (List Stored)) :
    o.last (done ++ moved) = o.last done + moved.flatten.length.toUInt64 := by
  rw [last, last, List.flatten_append, Stored.add_length_append]

theorem heard_append (o : Origin) (done moved : List (List Stored)) :
    o.heard (done ++ moved) =
      ((o.book.restore (done.flatten.map Stored.observation)).restore
        (moved.flatten.map Stored.observation)).heard? := by
  rw [heard, List.flatten_append, List.map_append, Book.restore_append]

theorem Fits.toNat_last (h : o.Fits logs) : (o.last logs).toNat = o.seq.toNat + logs.flatten.length := by
  have hs := h.small
  exact Stored.toNat_add_length (by omega)

theorem Fits.left (h : o.Fits (done ++ rest)) : o.Fits done := by
  have hf := h.follows
  have hs := h.small
  rw [List.flatten_append] at hf hs
  rw [List.length_append] at hs
  exact ⟨((Stored.follows_append _ _ _).1 hf).1, by omega,
    fun batch hb => h.full batch (List.mem_append_left rest hb)⟩

theorem Fits.eq_nil_of_flatten (h : o.Fits (done ++ rest)) (hm : moved ⊆ done ++ rest)
    (hf : moved.flatten = []) : moved = [] := by
  cases moved with
  | nil => rfl
  | cons batch r =>
    have he : batch = [] := List.flatten_eq_nil_iff.1 hf batch List.mem_cons_self
    exact absurd he (h.full batch (hm List.mem_cons_self))

/-- **The next batches are taken**, and then they are kept. -/
theorem Kept.append (h : o.Kept done j) (hf : o.Fits (done ++ moved)) :
    ∃ r, j.append moved.flatten = .ok r ∧ o.Kept (done ++ moved) r.1 := by
  obtain ⟨l, hk, hl⟩ := h
  have hfol := hf.follows
  have hsm := hf.small
  rw [List.flatten_append] at hfol hsm
  rw [List.length_append] at hsm
  obtain ⟨r, hr, hkr⟩ := hk.append ((Stored.follows_append _ _ _).1 hfol).2
    (by rw [hf.left.toNat_last]; omega)
  rw [← last_append] at hkr
  refine ⟨r, hr, _, hkr, ?_⟩
  rw [Book.restore_append, heard_append]
  exact Book.heard?_restore_congr hl _

theorem Kept.writeSnapshot {s : Session} (h : o.Kept done j) (hs : o.Shows done s) :
    o.Kept done (j.writeSnapshot s.snapshot) := by
  obtain ⟨l, hk, -⟩ := h
  have hn : s.snapshot.lastSeq = o.last done := hs.last
  rw [← hn] at hk
  refine ⟨s.book.snapshot, ?_, ?_⟩
  · rw [← hn]
    exact hk.writeSnapshot
  · rw [Book.heard?_restore_snapshot, hs.heard]

theorem Kept.compactThrough {s : Session} (h : o.Kept done (j.writeSnapshot s.snapshot))
    (hs : o.Shows done s) :
    o.Kept done ((j.writeSnapshot s.snapshot).compactThrough s.snapshot.lastSeq).1 := by
  obtain ⟨l, hk, hl⟩ := h
  have hn : s.snapshot.lastSeq = o.last done := hs.last
  rw [← hn] at hk
  refine ⟨l, ?_, hl⟩
  rw [← hn]
  exact hk.compactThrough

/-- **What a replay into a fresh book brings back.** -/
theorem Kept.replay (h : o.Kept done j) (s : Sources) :
    (j.replay (.ofSources s)).1.heard? = o.heard done ∧
      (j.replay (.ofSources s)).2 = .ok (o.last done) := by
  obtain ⟨l, hk, hl⟩ := h
  have hfresh : (Book.ofSources s).heard? = (Book.ofSources .empty).heard? := rfl
  rw [hk.replay, ← hl]
  exact ⟨Book.heard?_restore_congr hfresh l, rfl⟩

end Origin

/-! ### Between the session and the journal -/

namespace Link

variable {σ : Type} {l l' : Link σ} {rest : List (List Stored)}

/-- The batches that have not reached the journal: about to be handed over, waiting, and in
the queue. -/
def Carries (l : Link σ) (rest : List (List Stored)) : Prop :=
  ∃ handed waiting, rest = handed ++ waiting ++ l.queue.filterMap Message.batch? ∧
    handed.flatten = l.writer.phase.batch ∧ waiting.flatten = l.writer.pending

theorem Carries.send (h : l.Carries rest) {m : Message} (hm : m.batch? = none) :
    (l.send m).Carries rest := by
  obtain ⟨handed, waiting, hr, hh, hw⟩ := h
  refine ⟨handed, waiting, ?_, hh, hw⟩
  rw [Link.send, List.filterMap_append, List.filterMap_cons_none hm, List.filterMap_nil,
    List.append_nil]
  exact hr

theorem Carries.send_append (h : l.Carries rest) (batch : List Stored) :
    (l.send (.append batch)).Carries (rest ++ [batch]) := by
  obtain ⟨handed, waiting, hr, hh, hw⟩ := h
  refine ⟨handed, waiting, ?_, hh, hw⟩
  rw [hr, Link.send, List.filterMap_append, List.append_assoc _ _ [batch]]
  rfl

/-- Setting out moves what waits to what is about to be handed over. -/
theorem Carries.setOut (h : l.Carries rest) (hp : l.writer.phase.batch = []) (e : Errand) :
    Carries { l with writer := l.writer.setOut true e } rest := by
  obtain ⟨handed, waiting, hr, hh, hw⟩ := h
  obtain ⟨hpend, hbatch, -⟩ := l.writer.setOut_true e
  refine ⟨handed ++ waiting, [], ?_, ?_, hpend.symm⟩
  · rw [List.append_nil]
    exact hr
  · rw [List.flatten_append, hh, hp, hw]
    exact hbatch.symm

/-- Taking a message moves its batch to those that wait. -/
theorem Carries.take (h : l.Carries rest) (hp : l.writer.phase = .idle) {m : Message}
    {queue : List Message} (hq : l.queue = m :: queue) (settings : Settings) :
    Carries { l with queue, writer := l.writer.take settings m } rest := by
  have hb : l.writer.phase.batch = [] := by rw [hp]; rfl
  cases hm : m.batch? with
  | none =>
    have hc : Carries { l with queue } rest := by
      obtain ⟨handed, waiting, hr, hh, hw⟩ := h
      rw [hq, List.filterMap_cons_none hm] at hr
      exact ⟨handed, waiting, hr, hh, hw⟩
    rw [l.writer.take_request settings hm]
    exact hc.setOut hb m.errand
  | some batch =>
    obtain rfl : m = .append batch := by
      cases m with
      | append b => rw [Option.some.inj hm]
      | sync | checkpoint | close => cases hm
    have hc : Carries { l with queue, writer := { l.writer with
        pending := l.writer.pending ++ batch } } rest := by
      obtain ⟨handed, waiting, hr, hh, hw⟩ := h
      refine ⟨handed, waiting ++ [batch], ?_, hh, ?_⟩
      · rw [hr, hq]
        simp [Message.batch?]
      · rw [List.flatten_append, hw]
        simp
    rcases l.writer.take_append settings batch with he | he
    · rw [he]
      exact hc
    · rw [he]
      exact hc.setOut hb .routine

theorem Carries.timer (h : l.Carries rest) (ht : l.timer? = some l') : l'.Carries rest := by
  obtain ⟨hp, -, rfl⟩ := timer?_eq_some ht
  obtain ⟨handed, waiting, hr, hh, hw⟩ := h
  refine ⟨handed ++ waiting, [], ?_, ?_, rfl⟩
  · rw [List.append_nil]
    exact hr
  · rw [List.flatten_append, hh, hp, hw]
    rfl

end Link

end ContestExchange
