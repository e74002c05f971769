import ContestExchange.Proofs.Session.Backlog
import ContestExchange.Proofs.Session.Stage
import ContestExchange.Proofs.Session.Turns

/-!
# Steps of a session with a journal

The invariant of a session at work (`Tracks`) has three parts: the journal keeps
the first batches, the others are on their way behind them, and the request of
the desk, if there is one, is at one of its stages.  `Tracks.step` says that
every step keeps it, and how the batches move: a command brings at most one, to
the end of those on their way, and the writer takes some to the journal, from
their front.  No batch is ever split, lost or overtaken.
-/

namespace ContestExchange

/-- A session at work with a journal: the batches `done` have reached the journal, the
batches `rest` are on their way. -/
structure Tracks (o : Origin) (done rest : List (List Stored)) (v : Live Journal)
    (l : Link Journal) : Prop where
  link : v.link = some l
  fits : o.Fits (done ++ rest)
  shows : o.Shows (done ++ rest) v.session
  kept : o.Kept done l.sink
  carries : l.Carries rest
  stage : Stage v.session.snapshot l v.desk

variable {o : Origin} {done rest : List (List Stored)} {v w : Live Journal} {l l' : Link Journal}
variable {settings : Settings}

namespace Tracks

theorem eq_nil (h : Tracks o done rest v l) (he : l.Empty) (hb : l.writer.phase.batch = []) :
    rest = [] := by
  obtain ⟨handed, waiting, hr, hh, hw⟩ := h.carries
  rw [he.queue, List.filterMap_nil, List.append_nil] at hr
  rw [hb] at hh
  rw [he.pending] at hw
  refine h.fits.eq_nil_of_flatten (List.subset_append_right done rest) ?_
  rw [hr, List.flatten_append, hh, hw]; rfl

/-! ### The writer -/

/-- **A piece of work keeps what was kept**, and takes to the journal what was about to be
handed over. -/
theorem kept_works (h : Tracks o done rest v l) {handed behind : List (List Stored)}
    (hr : rest = handed ++ behind) (hh : handed.flatten = l.writer.phase.batch)
    {j : Journal} {p : Phase} {b : Bool} (hw : l.writer.phase.Works l.sink j p b) :
    o.Kept (done ++ handed) j := by
  have hfits := h.fits
  rw [hr, ← List.append_assoc] at hfits
  obtain ⟨q, hq, hkq⟩ := h.kept.append hfits.left
  have hnil : l.writer.phase.batch = [] → done ++ handed = done := by
    intro hb
    rw [hb] at hh
    rw [h.fits.eq_nil_of_flatten (fun b hb => ?_) hh, List.append_nil]
    rw [hr]
    exact List.mem_append_right _ (List.mem_append_left _ hb)
  -- a snapshot is only written, and rows are only dropped, when all batches are done
  have hshows : l.Empty → l.writer.phase.batch = [] → o.Shows done v.session := by
    intro he hb
    have hs := h.shows
    rw [h.eq_nil he hb, List.append_nil] at hs
    exact hs
  have hkept := h.kept
  generalize hp : l.writer.phase = phase at hw hh hnil hshows
  generalize hj : l.sink = sink at hw hq hkept
  cases hw with
  | append ha e =>
    rw [hh] at hq
    cases ha.symm.trans hq
    exact hkq
  | hand ha e =>
    rw [hh] at hq
    cases ha.symm.trans hq
    exact hkq
  | flush appended e =>
    rw [hnil rfl]
    exact hkept
  | snapshot s =>
    obtain ⟨rfl, he⟩ := h.stage.of_snapshotting hp
    rw [hnil rfl]
    exact hkept.writeSnapshot (hshows he rfl)
  | cover s =>
    obtain ⟨rfl, he⟩ := h.stage.of_snapshotting hp
    rw [hnil rfl]
    exact hkept.writeSnapshot (hshows he rfl)
  | compact seq =>
    obtain ⟨⟨before, hb, rfl⟩, he⟩ := h.stage.of_compacting hp
    rw [hnil rfl]
    rw [← hj, hb] at hkept ⊢
    exact hkept.compactThrough (hshows he rfl)

theorem batch_works {j j' : Journal} {p p' : Phase} {b : Bool} (h : p.Works j j' p' b) :
    p'.batch = [] := by
  cases h with
  | append | snapshot | cover | compact => rfl
  | hand _ e | flush _ e => exact e.batch_next

theorem work (h : Tracks o done rest v l) {j : Journal} {r : Worked}
    (hw : l.writer.work Journal.sink l.sink = some (j, r)) :
    ∃ moved rest', rest = moved ++ rest' ∧
      Tracks o (done ++ moved) rest' { v with link := some (l.worked j r) } (l.worked j r) := by
  obtain ⟨handed, waiting, hr, hh, hwait⟩ := h.carries
  rw [List.append_assoc] at hr
  have hok : ∀ {batch sync e}, l.writer.phase = .appending batch sync e →
      ∃ q, l.sink.append batch = .ok q := by
    intro batch sync e hp
    have hfits := h.fits
    rw [hr, ← List.append_assoc] at hfits
    obtain ⟨q, hq, -⟩ := h.kept.append hfits.left
    rw [hh, hp] at hq
    exact ⟨q, hq⟩
  have hlink := Link.works_of_work hw hok
  refine ⟨handed, waiting ++ l.queue.filterMap Message.batch?, hr, rfl, ?_, ?_,
    h.kept_works hr hh hlink.work, ⟨[], waiting, rfl, (batch_works hlink.work).symm, ?_⟩,
    h.stage.works hlink⟩
  · rw [List.append_assoc, ← hr]
    exact h.fits
  · rw [List.append_assoc, ← hr]
    exact h.shows
  · rw [hwait]
    exact hlink.pending.symm

theorem relink (h : Tracks o done rest v l) {s : Session} {desk : Desk}
    (hb : s.book = v.session.book) (hn : s.lastSeq = v.session.lastSeq)
    (hj : l'.sink = l.sink) (hc : l'.Carries rest) (hs : Stage v.session.snapshot l' desk) :
    Tracks o done rest ⟨s, desk, some l'⟩ l' := by
  have hsnap : s.snapshot = v.session.snapshot := by
    rw [Session.snapshot, Session.snapshot, hb, hn]
  exact ⟨rfl, h.fits, ⟨hb ▸ h.shows.heard, hn ▸ h.shows.last⟩, hj ▸ h.kept, hc, hsnap ▸ hs⟩

/-- **A turn of the writer** takes some of the batches on their way to the journal, the first
ones. -/
theorem turn (h : Tracks o done rest v l)
    (ht : l.turn? settings Journal.sink (v.desk == .stopped) = some l') :
    ∃ moved rest', rest = moved ++ rest' ∧
      Tracks o (done ++ moved) rest' { v with link := some l' } l' := by
  have hstay : Tracks o done rest { v with link := some l' } l' →
      ∃ moved rest', rest = moved ++ rest' ∧
        Tracks o (done ++ moved) rest' { v with link := some l' } l' := fun hs =>
    ⟨[], rest, rfl, by rw [List.append_nil]; exact hs⟩
  rcases Link.turn?_cases ht with ⟨m, queue, hp, hq, rfl⟩ | ⟨hp, hq, hlast, rfl⟩ | ⟨j, r, hw, rfl⟩
  · exact hstay (h.relink rfl rfl rfl (h.carries.take hp hq settings) (h.stage.take hp hq settings))
  · have hd : v.desk = .stopped := beq_iff_eq.1 hlast
    have hs := h.stage
    rw [hd] at hs
    refine hstay (h.relink rfl rfl rfl (h.carries.setOut (by rw [hp]; rfl) .close) ?_)
    rw [hd]
    exact hs.last hp hq
  · exact h.work hw

theorem timer (h : Tracks o done rest v l) (ht : l.timer? = some l') :
    Tracks o done rest { v with link := some l' } l' := by
  have hj : l'.sink = l.sink := by
    obtain ⟨-, -, rfl⟩ := Link.timer?_eq_some ht
    rfl
  exact h.relink rfl rfl hj (h.carries.timer ht) (h.stage.timer ht)

/-! ### The desk -/

theorem replied (h : Tracks o done rest v l) {e : Awaited} (hd : v.desk = .waiting e) {r : Reply}
    (hr : l.reply = some r) :
    Tracks o done rest
      (Live.replied { v with link := some { l with reply := none } } r e).1
      { l with reply := none } := by
  have hs := h.stage
  rw [hd] at hs
  have hc : Link.Carries { l with reply := none } rest := h.carries
  cases e with
  | flush | checkpoint | logged seq | shutdown => exact h.relink rfl rfl rfl hc (hs.replied hr _)

/-- **A turn of the desk** changes nothing of what was heard or is on its way. -/
theorem deskTurn (h : Tracks o done rest v l) {sig : List Signal}
    (ht : Live.DeskTurns settings v l w sig) : ∃ l', Tracks o done rest w l' := by
  have hs := h.stage
  cases ht with
  | @passed r notices hd hr =>
    rw [hd] at hs
    cases hs with
    | ready hcalm =>
      have hstage : Stage v.session.snapshot { l with notices } v.desk := by
        rw [hd]
        exact .ready ⟨hcalm.queue, hcalm.phase, hcalm.reply⟩
      exact ⟨_, h.relink rfl rfl rfl h.carries hstage⟩
  | deserted hd ho =>
    rw [hd] at hs
    cases hs with
    | sending hcalm hm => exact absurd ho (hcalm.outlet_ne_closed settings)
  | sent hd ho hfull =>
    rw [hd] at hs
    cases hs with
    | sending hcalm hm =>
      exact ⟨_, h.relink rfl rfl rfl (h.carries.send hm.batch?)
        (.asked rfl hcalm.queue hcalm.phase hcalm.reply hm)⟩
  | heard hd hr => exact ⟨_, h.replied hd hr⟩

/-! ### Commands -/

end Tracks

/-- The batches that a turn brings: one if an exchange with observations is accepted. -/
def Live.brought {σ : Type} (settings : Settings) (v : Live σ) : Turn → List (List Stored)
  | .command (.log call x time) =>
    if v.desk = .ready then
      match v.session.log settings (v.outlet settings) call x time with
      | .ok g => if g.batch.isEmpty then [] else [g.batch]
      | .error _ => []
    else []
  | _ => []

theorem Live.brought_of_not_ready {σ : Type} (settings : Settings) {v : Live σ}
    (h : v.desk ≠ .ready) (t : Turn) : v.brought settings t = [] := by
  cases t with
  | command c =>
    cases c with
    | log call x time => rw [brought, if_neg h]
    | parse | learn | setMult | flush | checkpoint | shutdown => rfl
  | desk | writer | timer | leave => rfl

theorem Origin.Fits.concat {o : Origin} {logs : List (List Stored)} {batch : List Stored}
    (h : o.Fits logs) (hf : Stored.Follows (o.last logs) batch) (hne : batch ≠ [])
    (hn : o.seq.toNat + (logs ++ [batch]).flatten.length < 2 ^ 63) : o.Fits (logs ++ [batch]) := by
  refine ⟨?_, hn, fun b hb => ?_⟩
  · rw [List.flatten_append, List.flatten_singleton, Stored.follows_append]
    exact ⟨h.follows, hf⟩
  · rcases List.mem_append.1 hb with hb | hb
    · exact h.full b hb
    · rw [List.mem_singleton.1 hb]
      exact hne

theorem Origin.Shows.concat {o : Origin} {logs : List (List Stored)} {batch : List Stored}
    {s s' : Session} (h : o.Shows logs s)
    (hb : s'.book = s.book.restore (batch.map Stored.observation))
    (hn : s'.lastSeq = s.lastSeq + batch.length.toUInt64) : o.Shows (logs ++ [batch]) s' := by
  refine ⟨?_, ?_⟩
  · rw [o.heard_append, List.flatten_singleton, hb]
    exact Book.heard?_restore_congr h.heard _
  · rw [hn, h.last, o.last_append, List.flatten_singleton]

namespace Tracks

theorem handOver (h : Tracks o done rest v l) (hcalm : l.Calm) {s : Session} {batch : List Stored}
    (hb : s.book = v.session.book.restore (batch.map Stored.observation))
    (hn : s.lastSeq = v.session.lastSeq + batch.length.toUInt64)
    (hf : Stored.Follows v.session.lastSeq batch)
    (hsmall : o.seq.toNat +
      (done ++ (rest ++ if batch.isEmpty then [] else [batch])).flatten.length < 2 ^ 63) :
    let l' := if batch.isEmpty then l else l.send (.append batch)
    l'.Calm ∧ ∀ {desk}, Stage s.snapshot l' desk →
      Tracks o done (rest ++ if batch.isEmpty then [] else [batch]) ⟨s, desk, some l'⟩ l' := by
  refine ⟨hcalm.handOver batch, fun {desk} hs => ?_⟩
  cases batch with
  | nil =>
    have hlast : s.lastSeq = v.session.lastSeq := hn.trans (UInt64.add_zero _)
    have hsnap : s.snapshot = v.session.snapshot := by
      rw [Session.snapshot, Session.snapshot, hb, hlast]; rfl
    rw [hsnap] at hs
    simp only [List.isEmpty_nil, if_true, List.append_nil]
    exact h.relink hb hlast rfl h.carries hs
  | cons first r =>
    rw [List.isEmpty_cons, if_neg Bool.false_ne_true, ← List.append_assoc] at hsmall
    rw [h.shows.last] at hf
    refine ⟨rfl, ?_, ?_, h.kept, h.carries.send_append _, hs⟩
    · rw [List.isEmpty_cons, if_neg Bool.false_ne_true, ← List.append_assoc]
      exact h.fits.concat hf (List.cons_ne_nil first r) hsmall
    · rw [List.isEmpty_cons, if_neg Bool.false_ne_true, ← List.append_assoc]
      exact h.shows.concat hb hn

/-- **An accepted exchange** brings its batch, and perhaps a snapshot is asked for. -/
theorem logged (h : Tracks o done rest v l) (hd : v.desk = .ready) {outlet : Outlet}
    {call : String} {x : Exchange} {time : UInt64} {g : Logged}
    (hg : v.session.log settings outlet call x time = .ok g)
    (hsmall : o.seq.toNat +
      (done ++ (rest ++ if g.batch.isEmpty then [] else [g.batch])).flatten.length < 2 ^ 63) :
    ∃ l', Tracks o done (rest ++ if g.batch.isEmpty then [] else [g.batch])
      (v.logged settings g).1 l' := by
  obtain ⟨-, hb, hn, hf⟩ := Session.log_ok hg
  have hs := h.stage
  rw [hd] at hs
  cases hs with
  | ready hcalm =>
    obtain ⟨hcalm', hnew⟩ := h.handOver hcalm hb hn hf hsmall
    rw [Live.logged, h.link]
    simp only
    by_cases hdue : g.session.snapshotDue settings = true
    · rw [if_pos hdue]
      exact ⟨_, hnew (.sending hcalm' (.logged _ _))⟩
    · rw [if_neg hdue, hd]
      exact ⟨_, hnew (.ready hcalm')⟩

/-- **A command** brings at most one batch, and nothing of what is on its way is lost. -/
theorem carryOut (h : Tracks o done rest v l) (hd : v.desk = .ready) (c : Command)
    (hsmall : o.seq.toNat +
      (done ++ (rest ++ v.brought settings (.command c))).flatten.length < 2 ^ 63) :
    ∃ l', Tracks o done (rest ++ v.brought settings (.command c)) (v.carryOut settings c).1 l' := by
  have hs := h.stage
  rw [hd] at hs
  cases hs with
  | ready hcalm =>
    have hask : ∀ {m e}, Request v.session.snapshot m e →
        Tracks o done rest ⟨v.session, .sending m e, some l⟩ l := fun hm =>
      h.relink rfl rfl rfl h.carries (.sending hcalm hm)
    have hkeep : ∀ {s : Session}, s.book = v.session.book → s.lastSeq = v.session.lastSeq →
        Tracks o done rest ⟨s, v.desk, v.link⟩ l := fun hb hn =>
      h.link ▸ h.relink hb hn rfl h.carries h.stage
    have hnone : ∀ {w}, v.brought settings (.command c) = [] → Tracks o done rest w l →
        ∃ l', Tracks o done (rest ++ v.brought settings (.command c)) w l' := by
      intro w hb ht
      rw [hb, List.append_nil]
      exact ⟨l, ht⟩
    cases c with
    | log call x time =>
      rw [Live.brought, if_pos hd] at hsmall ⊢
      rw [Live.carryOut]
      cases hg : v.session.log settings (v.outlet settings) call x time with
      | error e => exact ⟨l, by rw [List.append_nil]; exact h⟩
      | ok g =>
        simp only [hg] at hsmall ⊢
        exact h.logged hd hg hsmall
    | parse text country mode => exact hnone rfl h
    | learn field value => exact hnone rfl (hkeep rfl rfl)
    | setMult field b => exact hnone rfl (hkeep rfl rfl)
    | flush =>
      rw [Live.carryOut, Live.request, h.link]
      exact hnone rfl (hask .flush)
    | checkpoint =>
      rw [Live.carryOut, Live.request, h.link]
      exact hnone rfl (hask (.checkpoint _))
    | shutdown =>
      rw [Live.carryOut, h.link]
      exact hnone rfl (hask .shutdown)

/-- **A step** brings batches behind all others and takes batches to the journal from the
front. -/
theorem step (h : Tracks o done rest v l) {t : Turn} {sig : List Signal}
    (hs : v.step settings Journal.sink t = some (w, sig))
    (hsmall : o.seq.toNat + (done ++ (rest ++ v.brought settings t)).flatten.length < 2 ^ 63) :
    ∃ moved rest' l', rest ++ v.brought settings t = moved ++ rest' ∧
      Tracks o (done ++ moved) rest' w l' := by
  have hstay : ∀ {w l'}, Tracks o done (rest ++ v.brought settings t) w l' →
      ∃ moved rest' l', rest ++ v.brought settings t = moved ++ rest' ∧
        Tracks o (done ++ moved) rest' w l' := by
    intro w l' ht
    rw [← List.append_nil done] at ht
    exact ⟨[], _, l', rfl, ht⟩
  have hquiet : ∀ {w l'}, v.brought settings t = [] → Tracks o done rest w l' →
      ∃ moved rest' l', rest ++ v.brought settings t = moved ++ rest' ∧
        Tracks o (done ++ moved) rest' w l' := by
    intro w l' hb ht
    rw [← List.append_nil rest, ← hb] at ht
    exact hstay ht
  cases Live.turns_of_step hs with
  | carriedOut hd c =>
    obtain ⟨l', ht⟩ := h.carryOut hd c hsmall
    exact hstay ht
  | refused hd c => exact hquiet (Live.brought_of_not_ready settings (by rw [hd]; exact nofun) _) h
  | desk hl hdesk =>
    cases h.link.symm.trans hl
    obtain ⟨l', ht⟩ := h.deskTurn hdesk
    exact hquiet rfl ht
  | writer hl hturn =>
    cases h.link.symm.trans hl
    obtain ⟨moved, rest', he, ht⟩ := h.turn hturn
    exact ⟨moved, rest', _, (List.append_nil rest).trans he, ht⟩
  | timer hl htimer =>
    cases h.link.symm.trans hl
    exact hquiet rfl (h.timer htimer)
  | left hd =>
    have hstage := h.stage
    rw [hd] at hstage
    cases hstage with
    | ready hcalm => exact hquiet rfl (h.link ▸ h.relink rfl rfl rfl h.carries (.left hcalm))

end Tracks

end ContestExchange
