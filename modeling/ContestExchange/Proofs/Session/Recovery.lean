import ContestExchange.Proofs.Journal.Written
import ContestExchange.Proofs.Session.Tracking

/-!
# Recovery

A process can stop after any operation of its journal, and then only the journal
is left.  Whoever starts again replays it into a fresh book, and finds what was
heard up to some moment of the session before, with the last number of that
moment; and this moment is not before any flush, checkpoint or end that was
answered (`Journal.Reached.recovers`).  The journal that is left is again one to
start from, so this holds after any number of restarts.

All of it is about numbers below 2 ^ 63.  The journal keeps them as signed words,
and an observation with a larger one is not found again
(`Journal.not_recovers_of_overflow`).
-/

namespace ContestExchange

variable {o : Origin} {done rest : List (List Stored)} {v w : Live Journal} {l l' : Link Journal}
variable {settings : Settings}

/-! ### Runs -/

namespace Live

variable {σ : Type} {k : Sink σ} {ts us qs : List Turn}

/-- The batches that several turns bring, in their order. -/
def broughtBy (settings : Settings) (k : Sink σ) (v : Live σ) : List Turn → List (List Stored)
  | [] => []
  | t :: ts =>
    v.brought settings t ++
      match v.step settings k t with
      | none => []
      | some r => broughtBy settings k r.1 ts

/-- The desk is about to answer a flush, a checkpoint or the end, and not with a failure. -/
def Assures (settings : Settings) (k : Sink σ) (v : Live σ) (e : Awaited) : Prop :=
  v.desk = .waiting e ∧ (∀ seq, e ≠ .logged seq) ∧
    ∃ w a, v.step settings k .desk = some (w, [.answer a]) ∧ ∀ err, a ≠ .failed err

/-- The session is over, and the writer has ended too. -/
def Ended (v : Live σ) : Prop :=
  v.desk = .stopped ∧ ∃ l, v.link = some l ∧ l.writer.phase = .closed

theorem brought_eq (settings : Settings) (v : Live σ) (t : Turn) :
    v.brought settings t = [] ∨ ∃ batch, v.brought settings t = [batch] := by
  cases t with
  | command c =>
    cases c with
    | log call x time =>
      rw [brought]
      split
      · split
        · split
          · exact .inl rfl
          · exact .inr ⟨_, rfl⟩
        · exact .inl rfl
      · exact .inl rfl
    | parse | learn | setMult | flush | checkpoint | shutdown => exact .inl rfl
  | desk | writer | timer | leave => exact .inl rfl

theorem run_of_prefix {settings : Settings} {v w : Live σ} {sig : List Signal}
    (h : v.run settings k ts = some (w, sig)) (hu : us <+: ts) :
    ∃ u s, v.run settings k us = some (u, s) := by
  obtain ⟨vs, rfl⟩ := hu
  rw [run_append] at h
  obtain ⟨⟨u, s⟩, hr, -⟩ := Option.bind_eq_some_iff.1 h
  exact ⟨u, s, hr⟩

/-- A run is its first step and the run from there, and what is heard is heard in this order. -/
theorem run_cons_split {settings : Settings} {v w : Live σ} {t : Turn} {sig : List Signal}
    (h : v.run settings k (t :: ts) = some (w, sig)) :
    ∃ u s s', v.step settings k t = some (u, s) ∧ u.run settings k ts = some (w, s') ∧
      sig = s ++ s' := by
  rw [run] at h
  obtain ⟨⟨u, s⟩, hs, hr⟩ := Option.bind_eq_some_iff.1 h
  obtain ⟨⟨w', s'⟩, hq, he⟩ := Option.map_eq_some_iff.1 hr
  obtain ⟨rfl, rfl⟩ := Prod.mk.inj he
  exact ⟨u, s, s', hs, hq, rfl⟩

theorem eq_of_ended {settings : Settings} {v w : Live Journal} {t : Turn} {sig : List Signal}
    (h : v.Ended) (hs : v.step settings Journal.sink t = some (w, sig)) : w = v := by
  obtain ⟨hd, l, hl, hp⟩ := h
  cases turns_of_step hs with
  | carriedOut hd' => cases hd.symm.trans hd'
  | refused => rfl
  | desk hl' hdesk =>
    cases hdesk with
    | passed hd' | deserted hd' | sent hd' | heard hd' => cases hd.symm.trans hd'
  | writer hl' hturn =>
    cases hl.symm.trans hl'
    rcases Link.turn?_cases hturn with ⟨_, _, hi, -⟩ | ⟨hi, -⟩ | ⟨j, r, hw, -⟩
    · rw [hp] at hi; cases hi
    · rw [hp] at hi; cases hi
    · rw [Writer.work, hp] at hw; cases hw
  | timer hl' htimer =>
    cases hl.symm.trans hl'
    have hi := (Link.timer?_eq_some htimer).1
    rw [hp] at hi; cases hi
  | left hd' => cases hd.symm.trans hd'

theorem eq_of_ended_run {settings : Settings} {v w : Live Journal} {sig : List Signal}
    (h : v.Ended) (hr : v.run settings Journal.sink ts = some (w, sig)) : w = v := by
  induction ts generalizing v sig with
  | nil => exact (Prod.mk.inj (Option.some.inj hr)).1.symm
  | cons t ts ih =>
    obtain ⟨u, s, s', hs, hr', -⟩ := run_cons_split hr
    rw [eq_of_ended h hs] at hr'
    exact ih h hr'

/-- The first batches of a run are those of some of its first turns; of all such turns the
last are taken. -/
theorem exists_prefix {settings : Settings} {v w : Live σ} {sig : List Signal}
    (hr : v.run settings k ts = some (w, sig)) {done : List (List Stored)}
    (hd : done <+: v.broughtBy settings k ts) :
    ∃ us, us <+: ts ∧ v.broughtBy settings k us = done ∧
      ∀ qs, qs <+: ts → v.broughtBy settings k qs <+: done → qs <+: us := by
  induction ts generalizing v done sig with
  | nil =>
    refine ⟨[], List.prefix_refl [], ?_, fun qs hq _ => hq⟩
    exact (List.prefix_nil.1 hd).symm
  | cons t ts ih =>
    obtain ⟨u, s, s', hs, hr', -⟩ := run_cons_split hr
    have hcons : ∀ us, v.broughtBy settings k (t :: us) =
        v.brought settings t ++ u.broughtBy settings k us := by
      intro us
      rw [broughtBy, hs]
    rw [hcons] at hd
    by_cases hb : v.brought settings t <+: done
    · obtain ⟨done', rfl⟩ := hb
      obtain ⟨us, hus, he, hmax⟩ := ih hr' ((List.prefix_append_right_inj _).1 hd)
      refine ⟨t :: us, (List.prefix_cons_inj t).2 hus, by rw [hcons, he], fun qs hqs hbq => ?_⟩
      cases qs with
      | nil => exact List.nil_prefix
      | cons t' qs =>
        obtain ⟨rfl, hqs'⟩ := List.cons_prefix_cons.1 hqs
        rw [hcons] at hbq
        exact (List.prefix_cons_inj t').2 (hmax qs hqs' ((List.prefix_append_right_inj _).1 hbq))
    · -- the turn brings one batch, and this is not the first of them: so there is none
      obtain ⟨batch, hbatch⟩ := (v.brought_eq settings t).resolve_left fun hn =>
        hb (hn ▸ List.nil_prefix)
      rw [hbatch] at hb hd
      cases done with
      | nil =>
        refine ⟨[], List.nil_prefix, rfl, fun qs hqs hbq => ?_⟩
        cases qs with
        | nil => exact List.nil_prefix
        | cons t' qs =>
          obtain ⟨rfl, -⟩ := List.cons_prefix_cons.1 hqs
          rw [hcons, hbatch] at hbq
          cases List.prefix_nil.1 hbq
      | cons batch' done =>
        obtain ⟨rfl, -⟩ := List.cons_prefix_cons.1 hd
        exact absurd ((List.prefix_cons_inj batch').2 List.nil_prefix) hb

end Live

namespace Tracks

/-- **An answer is true**: when the desk is about to give it no batch is on its way, and after
the end the writer has ended too. -/
theorem of_assures (h : Tracks o done rest v l) {e : Awaited}
    (ha : v.Assures settings Journal.sink e) :
    rest = [] ∧ (e = .shutdown → ∀ {u sig}, v.step settings Journal.sink .desk = some (u, sig) →
      u.Ended) := by
  obtain ⟨hd, -, u, a, hs, -⟩ := ha
  rw [Live.step, h.link, Option.bind_some, Live.deskTurn?] at hs ⊢
  simp only [hd] at hs ⊢
  have hstage := h.stage
  rw [hd] at hstage
  cases hr : l.reply with
  | none => rw [hr] at hs; cases hs
  | some r =>
    obtain ⟨he, hp⟩ := hstage.of_reply hr
    refine ⟨h.eq_nil he ?_, ?_⟩
    · rw [hp]
      split <;> rfl
    · rintro rfl u sig hu
      obtain ⟨rfl, -⟩ := Prod.mk.inj (Option.some.inj hu)
      exact ⟨rfl, _, rfl, hp⟩

/-- **A run** brings batches behind all others and takes batches to the journal from the
front; and what was brought before a flush, a checkpoint or the end is answered is there. -/
theorem run {ts : List Turn} {sig : List Signal} (h : Tracks o done rest v l)
    (hr : v.run settings Journal.sink ts = some (w, sig))
    (hsmall : o.seq.toNat +
      (done ++ (rest ++ v.broughtBy settings Journal.sink ts)).flatten.length < 2 ^ 63) :
    ∃ moved rest' l', rest ++ v.broughtBy settings Journal.sink ts = moved ++ rest' ∧
      Tracks o (done ++ moved) rest' w l' ∧
      ∀ us u sig' e, us ++ [.desk] <+: ts → v.run settings Journal.sink us = some (u, sig') →
        u.Assures settings Journal.sink e →
          rest ++ v.broughtBy settings Journal.sink us <+: moved ∧ (e = .shutdown → w.Ended) := by
  induction ts generalizing v sig done rest l with
  | nil =>
    obtain ⟨rfl, -⟩ := Prod.mk.inj (Option.some.inj hr)
    refine ⟨[], rest, l, List.append_nil rest, by rw [List.append_nil]; exact h, ?_⟩
    intro us u sig' e hus
    cases us <;> cases List.prefix_nil.1 hus
  | cons t ts ih =>
    obtain ⟨u, s, s', hs, hr', -⟩ := Live.run_cons_split hr
    have hcons : ∀ us, v.broughtBy settings Journal.sink (t :: us) =
        v.brought settings t ++ u.broughtBy settings Journal.sink us := by
      intro us
      rw [Live.broughtBy, hs]
    rw [hcons] at hsmall ⊢
    have hfirst : o.seq.toNat + (done ++ (rest ++ v.brought settings t)).flatten.length < 2 ^ 63 := by
      simp only [List.flatten_append, List.length_append] at hsmall ⊢
      omega
    obtain ⟨moved₁, rest₁, l₁, he₁, h₁⟩ := h.step hs hfirst
    have hsmall₁ : o.seq.toNat + (done ++ moved₁ ++
        (rest₁ ++ u.broughtBy settings Journal.sink ts)).flatten.length < 2 ^ 63 := by
      rw [List.append_assoc, ← List.append_assoc moved₁, ← he₁, List.append_assoc rest]
      exact hsmall
    obtain ⟨moved₂, rest₂, l₂, he₂, h₂, ha₂⟩ := ih h₁ hr' hsmall₁
    rw [List.append_assoc] at h₂
    refine ⟨moved₁ ++ moved₂, rest₂, l₂, ?_, h₂, ?_⟩
    · rw [← List.append_assoc, he₁, List.append_assoc, he₂, List.append_assoc]
    · intro us q sig' e hus hq ha
      cases us with
      | nil =>
        obtain ⟨rfl, -⟩ := Prod.mk.inj (Option.some.inj hq)
        obtain ⟨rfl, -⟩ := List.cons_prefix_cons.1 hus
        obtain ⟨hnil, hend⟩ := h.of_assures ha
        refine ⟨by rw [hnil]; exact List.nil_prefix, fun he => ?_⟩
        have hu := hend he hs
        rw [Live.eq_of_ended_run hu hr']
        exact hu
      | cons t' us =>
        obtain ⟨rfl, hus'⟩ := List.cons_prefix_cons.1 hus
        obtain ⟨u', s₁, s₂, hs', hq', -⟩ := Live.run_cons_split hq
        cases hs.symm.trans hs'
        obtain ⟨hbefore, hend⟩ := ha₂ us q s₂ e hus' hq' ha
        refine ⟨?_, hend⟩
        rw [hcons, ← List.append_assoc, he₁, List.append_assoc]
        exact (List.prefix_append_right_inj moved₁).2 hbefore

end Tracks

/-! ### Lives -/

/-- A session that starts anew with a journal: the journal is replayed into a fresh book. -/
def Live.begin (sources : Sources) (s : Session) (j : Journal) : Live Journal :=
  .start Journal.sink { s with book := (j.replay (.ofSources sources)).1 } (some j)

/-- What can be recovered after the turns `ts` of a session that began as `v`: what was heard
and numbered up to some moment, the one after the turns `us`.  No answer came later. -/
def Live.Recovers (settings : Settings) (v : Live Journal) (ts : List Turn) (j : Journal) : Prop :=
  ∃ us u sig, us <+: ts ∧ v.run settings Journal.sink us = some (u, sig) ∧
    (∀ fresh, (j.replay (.ofSources fresh)).1.snapshot = u.session.book.snapshot ∧
      (j.replay (.ofSources fresh)).2 = .ok u.session.lastSeq) ∧
    ∀ qs q sig' e, qs ++ [.desk] <+: ts → v.run settings Journal.sink qs = some (q, sig') →
      q.Assures settings Journal.sink e → qs <+: us ∧ (e = .shutdown → us = ts)

/-- The journals that sessions start from: a first one that was written through its own
operations, and then one after the other whatever a session has made of it when it stops. -/
inductive Journal.Reached : Journal → Prop
  | first {j : Journal} (h : j.Written) : Reached j
  | next {j : Journal} {settings : Settings} {sources : Sources} {s : Session} {ts : List Turn}
    {v : Live Journal} {l : Link Journal} {sig : List Signal} (h : Reached j)
    (hr : (Live.begin sources s j).run settings Journal.sink ts = some (v, sig))
    (hl : v.link = some l)
    (hn : j.latestSeq.toNat +
      ((Live.begin sources s j).broughtBy settings Journal.sink ts).flatten.length < 2 ^ 63) :
    Reached l.sink

theorem Tracks.begin {j : Journal} {obs : List Observation} (h : j.Keeps obs j.latestSeq)
    (sources : Sources) (s : Session) :
    Tracks ⟨(j.replay (.ofSources sources)).1, j.latestSeq⟩ [] [] (Live.begin sources s j)
      (Link.start Journal.sink j) := by
  refine ⟨rfl, ⟨trivial, h.small, nofun⟩, ⟨rfl, (UInt64.add_zero _).symm⟩, ?_,
    ⟨[], [], rfl, rfl, rfl⟩, .ready ⟨nofun, .idle, rfl⟩⟩
  have hlast : Origin.last ⟨(j.replay (.ofSources sources)).1, j.latestSeq⟩ [] = j.latestSeq :=
    UInt64.add_zero _
  have hfresh : (Book.ofSources .empty).heard? = (Book.ofSources sources).heard? := rfl
  refine ⟨obs, ?_, ?_⟩
  · rw [hlast]
    exact h
  · rw [h.replay]
    exact Book.heard?_restore_congr hfresh obs

/-- **What a session leaves**: whole batches, from the first on, and all that were brought
before an answer. -/
theorem Tracks.of_run {j : Journal} {obs : List Observation} (h : j.Keeps obs j.latestSeq)
    {sources : Sources} {s : Session} {ts : List Turn} {sig : List Signal}
    (hr : (Live.begin sources s j).run settings Journal.sink ts = some (v, sig))
    (hn : j.latestSeq.toNat +
      ((Live.begin sources s j).broughtBy settings Journal.sink ts).flatten.length < 2 ^ 63) :
    ∃ done rest l, (Live.begin sources s j).broughtBy settings Journal.sink ts = done ++ rest ∧
      Tracks ⟨(j.replay (.ofSources sources)).1, j.latestSeq⟩ done rest v l ∧
      ∀ us u sig' e, us ++ [.desk] <+: ts →
        (Live.begin sources s j).run settings Journal.sink us = some (u, sig') →
        u.Assures settings Journal.sink e →
          (Live.begin sources s j).broughtBy settings Journal.sink us <+: done ∧
            (e = .shutdown → v.Ended) :=
  (Tracks.begin h sources s).run hr hn

namespace Journal

theorem Reached.keeps {j : Journal} (h : j.Reached) : ∃ obs, j.Keeps obs j.latestSeq := by
  induction h with
  | first h => exact exists_keeps (h.replay (.ofSources .empty)).1 (h.replay (.ofSources .empty)).2
  | next _ hr hl hn ih =>
    obtain ⟨obs, hk⟩ := ih
    obtain ⟨done, rest, l', -, ht, -⟩ := Tracks.of_run hk hr hn
    obtain rfl : l' = _ := Option.some.inj (ht.link.symm.trans hl)
    obtain ⟨obs', hk', -⟩ := ht.kept
    exact ⟨obs', hk'.latest.symm ▸ hk'⟩

/-- **Recovery.**  Wherever a session stops, a replay of the journal that it leaves finds what
the session had heard and numbered at one of its moments; no flush, checkpoint or end was
answered after this moment, and if the end was answered it is the last one. -/
theorem Reached.recovers {j : Journal} (hj : j.Reached) {sources : Sources} {s : Session}
    {ts : List Turn} {sig : List Signal}
    (hr : (Live.begin sources s j).run settings Journal.sink ts = some (v, sig))
    (hn : j.latestSeq.toNat +
      ((Live.begin sources s j).broughtBy settings Journal.sink ts).flatten.length < 2 ^ 63) :
    ∃ l, v.link = some l ∧ (Live.begin sources s j).Recovers settings ts l.sink := by
  obtain ⟨obs, hk⟩ := hj.keeps
  obtain ⟨done, rest, l, he, ht, hassured⟩ := Tracks.of_run hk hr hn
  -- the moment: the last one at which no more than `done` had been brought
  obtain ⟨us, hus, hdone, hmax⟩ := Live.exists_prefix hr (he ▸ List.prefix_append done rest)
  obtain ⟨u, sig', hu⟩ := Live.run_of_prefix hr hus
  have hsmall : j.latestSeq.toNat +
      ((Live.begin sources s j).broughtBy settings Journal.sink us).flatten.length < 2 ^ 63 := by
    rw [he, List.flatten_append, List.length_append] at hn
    rw [hdone]
    omega
  obtain ⟨done', rest', l', he', ht', -⟩ := Tracks.of_run hk hu hsmall
  have hshows := ht'.shows
  rw [← he', hdone] at hshows
  refine ⟨l, ht.link, us, u, sig', hus, hu, fun fresh => ?_, fun qs q sig'' e hqs hq ha => ?_⟩
  · obtain ⟨hheard, hlast⟩ := ht.kept.replay fresh
    exact ⟨Book.snapshot_eq_of_heard? (hheard.trans hshows.heard.symm), hlast.trans
      (congrArg _ hshows.last.symm)⟩
  · obtain ⟨hbefore, hended⟩ := hassured qs q sig'' e hqs hq ha
    refine ⟨hmax qs ((List.prefix_append qs [.desk]).trans hqs) hbefore, fun hend => ?_⟩
    obtain ⟨-, l₁, hl₁, hp⟩ := hended hend
    obtain rfl : l₁ = l := Option.some.inj (hl₁.symm.trans ht.link)
    have hnil : rest = [] := ht.eq_nil (ht.stage.of_closed hp) (by rw [hp]; rfl)
    rw [hnil, List.append_nil] at he
    exact hus.eq_of_length_le (hmax ts (List.prefix_refl ts) (he ▸ List.prefix_refl done)).length_le

end Journal

/-! ### A session from start to end -/

/-- A session that knows no fields. -/
def Session.bare : Session :=
  ⟨.empty, fun _ _ => none, .ofSources .empty, 0, 0⟩

/-- An exchange with a zone. -/
def Exchange.zone : Exchange :=
  ⟨[⟨"ITUZONE", "ITUZONE", "8", false⟩], none, true, []⟩

/-- An exchange is logged and written, and then the session is shut down. -/
def Turn.farewell : List Turn :=
  [.command (.log "K1AR" .zone 0), .writer, .writer, .writer, .command .shutdown, .desk, .writer,
    .writer, .desk]

namespace Journal

theorem recovers_farewell : ∃ v sig,
    (Live.begin .empty .bare .empty).run .standard sink Turn.farewell = some (v, sig) ∧
      ∃ l, v.link = some l ∧
        (Live.begin .empty .bare .empty).Recovers .standard Turn.farewell l.sink :=
  ⟨_, _, rfl, Reached.recovers (.first .empty) rfl (by decide)⟩

/-! ### The end of the numbers -/

/-- The observation with the largest number that is a signed word. -/
def lastStored : Stored :=
  ⟨9223372036854775807, 0, ⟨"K1AR", "CQZONE", "5"⟩⟩

/-- The observation that comes next. -/
def nextStored : Stored :=
  ⟨9223372036854775808, 0, ⟨Callsign.normalize "K1AR", "ITUZONE", "8"⟩⟩

/-- The journal whose only row has the largest number that is a signed word. -/
def brimful : Journal :=
  empty.putRow lastStored

theorem brimful_reached : brimful.Reached := by
  have happend : empty.append [lastStored] = .ok (brimful, lastStored.seq) := rfl
  exact .first (Written.append .empty happend (by decide))

/-- Rows with negative numbers are passed over. -/
theorem replay_like_brimful {j : Journal} (hs : j.newest = .ok ⟨0, []⟩)
    (hf : j.rows.entries.filter (fun e => decide (0 < e.1)) = brimful.rows.entries) (b : Book) :
    (j.replay b).1 = b.note lastStored.observation := by
  have hrows : j.rowsAfter 0 = [lastStored.row] :=
    rowsAfter_eq (hf ▸ .refl _) (List.pairwise_singleton _ _)
  have ht : j.loadAfter 0 = .ok [lastStored] := by
    rw [loadAfter]
    show (j.rowsAfter 0).mapM readRow = .ok [lastStored]
    rw [hrows, List.mapM_cons, Stored.row, readRow_of]; rfl
  rw [replay_eq hs ht]
  rfl

theorem brimful_farewell : ∃ v sig l q sig',
    (Live.begin .empty .bare brimful).run .standard sink Turn.farewell = some (v, sig) ∧
      v.link = some l ∧ l.sink = brimful.putRow nextStored ∧
      v.session.book = (brimful.replay (.ofSources .empty)).1.note nextStored.observation ∧
      (Live.begin .empty .bare brimful).run .standard sink Turn.farewell.dropLast =
        some (q, sig') ∧ q.Assures .standard sink .shutdown :=
  ⟨_, _, _, _, _, rfl, rfl, rfl, rfl, rfl, rfl, nofun, _, _, rfl, nofun⟩

/-- **Behind the largest signed word nothing is found again**, though the end was answered. -/
theorem not_recovers_of_overflow : brimful.Reached ∧ ∃ v sig l,
    (Live.begin .empty .bare brimful).run .standard sink Turn.farewell = some (v, sig) ∧
      v.link = some l ∧
      ¬(Live.begin .empty .bare brimful).Recovers .standard Turn.farewell l.sink := by
  obtain ⟨v, sig, l, q, sig', hv, hl, hsink, hbook, hq, ha⟩ := brimful_farewell
  refine ⟨brimful_reached, v, sig, l, hv, hl, ?_⟩
  rintro ⟨us, u, sig'', -, hu, hfresh, hassured⟩
  obtain rfl : us = Turn.farewell :=
    (hassured _ q sig' .shutdown (List.prefix_refl _) hq ha).2 rfl
  obtain ⟨rfl, -⟩ := Prod.mk.inj (Option.some.inj (hv.symm.trans hu))
  have hsame := (hfresh .empty).1
  rw [hsink, replay_like_brimful rfl rfl, hbook] at hsame
  have hin : nextStored.observation ∈
      ((brimful.replay (.ofSources .empty)).1.note nextStored.observation).snapshot := by
    rw [Book.mem_snapshot_iff, Book.heard?_note, if_pos rfl]
  rw [← hsame, Book.mem_snapshot_iff, Book.heard?_note, if_neg] at hin
  · cases hin
  · intro he
    exact absurd (congrArg Prod.snd he) (by decide)

end Journal

end ContestExchange
