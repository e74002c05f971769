import ContestExchange.Proofs.Session.Accepting
import ContestExchange.Proofs.Session.Mirroring

/-!
# Numbers over many lives

A journal outlives the sessions that write to it.  Each of them reads off the
journal where its numbers start, hands over what it hears in batches, and stops at
some moment, with batches still on their way.  Rows may have been dropped by then,
even all of them.

What stays is that no number in use is above the last one that was taken
(`Counts`): a snapshot is written, and rows are dropped, only when nothing is on its
way.  So whatever a session hands over has numbers that the journal has not seen,
and the journal takes it.  Over all lives the observations that were taken have the
numbers 1, 2, 3 and so on (`Journal.Lived.numbers`).
-/

namespace ContestExchange

variable {settings : Settings}

/-! ### The highest number -/

namespace Journal.Tops

variable {j j' : Journal} {n : UInt64} {p p' : Phase} {b : Bool}

/-- **Nothing that comes next is refused.** -/
theorem append_notMem_deeds (h : j.Tops n) (hf : Stored.Follows n p.batch)
    (hn : n.toNat + p.batch.length < 2 ^ 63) (batch : List Stored) :
    .append batch false ∉ p.deeds sink j := by
  intro hm
  cases p with
  | appending batch' sync e =>
    obtain ⟨q, hq, -⟩ := h.append hf hn
    have htaken : (sink.append j batch').2.isOk = true := by
      simp only [sink, show j.append batch' = .ok q from hq]
      rfl
    rw [Phase.deeds, htaken] at hm
    cases List.mem_singleton.1 hm
  | snapshotting s compact => cases List.mem_singleton.1 hm
  | idle | flushing | compacting | closed => cases hm

/-- **A piece of work leaves the number of the last observation the highest one**, if a snapshot
is only taken at the highest number, and rows are only dropped when a snapshot has it. -/
theorem works (h : j.Tops n) (hw : p.Works j j' p' b) (hf : Stored.Follows n p.batch)
    (hn : n.toNat + p.batch.length < 2 ^ 63)
    (hs : ∀ s compact, p = .snapshotting s compact → s.lastSeq = n)
    (hc : ∀ seq, p = .compacting seq → n.toInt64 ∈ j.snapshots.map SnapshotRow.lastSeq) :
    j'.Tops (n + p.batch.length.toUInt64) := by
  have hstay : p.batch = [] → n + p.batch.length.toUInt64 = n := by
    intro hb
    rw [hb, Stored.add_length_nil]
  cases hw with
  | append ha e =>
    obtain ⟨q, hq, ht⟩ := h.append hf hn
    cases ha.symm.trans hq
    exact ht
  | hand ha e =>
    obtain ⟨q, hq, ht⟩ := h.append hf hn
    cases ha.symm.trans hq
    exact ht
  | flush appended e =>
    rw [hstay rfl]
    exact h
  | snapshot s =>
    rw [hstay rfl]
    obtain rfl := hs s false rfl
    exact h.writeSnapshot
  | cover s =>
    rw [hstay rfl]
    obtain rfl := hs s true rfl
    exact h.writeSnapshot
  | compact seq =>
    rw [hstay rfl]
    exact h.compactThrough (hc seq rfl) seq

end Journal.Tops

/-! ### One life -/

/-- A session with a journal that has taken the batches `done`, and in which no number is above
theirs.  The batches `rest` are on their way. -/
structure Counts (base : UInt64) (done rest : List (List Stored)) (v : Live Journal)
    (l : Link Journal) : Prop where
  truthful : Truthful base done rest v l
  tops : l.sink.Tops (base + done.flatten.length.toUInt64)

namespace Counts

variable {base : UInt64} {done rest : List (List Stored)} {v w : Live Journal}
  {l l' : Link Journal} {t : Turn} {ts : List Turn} {sig : List Signal}

theorem lastSeq_eq (h : Counts base done rest v l) (he : l.Empty)
    (hb : l.writer.phase.batch = []) :
    v.session.lastSeq = base + done.flatten.length.toUInt64 := by
  rw [h.truthful.hands.last, List.flatten_append, h.truthful.flatten_eq_nil he hb,
    List.append_nil]

theorem works (h : Counts base done rest v l) {j : Journal} {r : Worked}
    (hw : l.writer.work Journal.sink l.sink = some (j, r))
    (hn : base.toNat + (done ++ rest).flatten.length < 2 ^ 63) :
    l.Works r.reply.isSome (l.worked j r) := by
  obtain ⟨hfollows, hbound⟩ := h.truthful.hands.follows_batch
  have htaken := h.tops.append_notMem_deeds hfollows (by omega)
  exact Link.works_of_work hw fun hp => Phase.append_ok htaken hp

theorem tops_turn (h : Counts base done rest v l) {isLast : Bool}
    (ht : l.turn? settings Journal.sink isLast = some l')
    (hn : base.toNat + (done ++ rest).flatten.length < 2 ^ 63) :
    l'.sink.Tops (base + done.flatten.length.toUInt64 +
      l.writer.phase.batch.length.toUInt64) := by
  obtain ⟨hfollows, hbound⟩ := h.truthful.hands.follows_batch
  have hidle : l.writer.phase = .idle → l.sink.Tops (base + done.flatten.length.toUInt64 +
      l.writer.phase.batch.length.toUInt64) := by
    intro hi
    have hb : l.writer.phase.batch = [] := by
      rw [hi]
      rfl
    rw [hb, Stored.add_length_nil]
    exact h.tops
  have hstage := h.truthful.attends.stage
  rcases Link.turn?_cases ht with ⟨m, queue, hi, -, rfl⟩ | ⟨hi, -, -, rfl⟩ | ⟨j, r, hw, rfl⟩
  · exact hidle hi
  · exact hidle hi
  · apply h.tops.works (h.works hw hn).work hfollows (by omega)
    · intro s compact hp
      obtain ⟨rfl, he⟩ := hstage.of_snapshotting hp
      exact h.lastSeq_eq he (by rw [hp]; rfl)
    · intro seq hp
      obtain ⟨⟨before, hj, -⟩, he⟩ := hstage.of_compacting hp
      rw [← h.lastSeq_eq he (by rw [hp]; rfl), hj]
      exact List.mem_cons_self

theorem tops_step (h : Counts base done rest v l)
    (hs : v.step settings Journal.sink t = some (w, sig)) (hl : w.link = some l')
    (hn : base.toNat + (done ++ rest).flatten.length < 2 ^ 63) :
    l'.sink.Tops (base + done.flatten.length.toUInt64 +
      ((v.deeds Journal.sink t).flatMap Deed.batch).length.toUInt64) := by
  by_cases ht : t = .writer
  · subst ht
    obtain ⟨l'', hturn, rfl⟩ := Live.turn_of_step h.truthful.hands.link hs
    cases hl
    rw [Live.deeds, h.truthful.hands.link]
    simp only [Phase.flatMap_deeds]
    exact h.tops_turn hturn hn
  · rw [v.deeds_of_ne_writer Journal.sink ht,
      Live.sink_of_step h.truthful.hands.link hs ht hl, List.flatMap_nil, Stored.add_length_nil]
    exact h.tops

/-- **A step hands over what the journal takes.** -/
theorem step (h : Counts base done rest v l)
    (hs : v.step settings Journal.sink t = some (w, sig))
    (hn : base.toNat + (done ++ (rest ++ v.brought settings t)).flatten.length < 2 ^ 63) :
    (∀ batch, .append batch false ∉ v.deeds Journal.sink t) ∧
      ∃ moved rest' l', rest ++ v.brought settings t = moved ++ rest' ∧
        moved.flatten = (v.deeds Journal.sink t).flatMap Deed.batch ∧
        Counts base (done ++ moved) rest' w l' := by
  have hfirst : base.toNat + (done ++ rest).flatten.length < 2 ^ 63 := by
    simp only [List.flatten_append, List.length_append] at hn ⊢
    omega
  have htaken : ∀ batch, .append batch false ∉ v.deeds Journal.sink t := by
    intro batch
    by_cases ht : t = .writer
    · subst ht
      obtain ⟨hfollows, hbound⟩ := h.truthful.hands.follows_batch
      rw [Live.deeds, h.truthful.hands.link]
      exact h.tops.append_notMem_deeds hfollows (by omega) batch
    · rw [v.deeds_of_ne_writer Journal.sink ht]
      exact List.not_mem_nil
  obtain ⟨moved, rest', l', he, hmoved, h'⟩ := h.truthful.step hs (by omega) htaken
  refine ⟨htaken, moved, rest', l', he, hmoved, h', ?_⟩
  rw [List.flatten_append, Stored.add_length_append, hmoved]
  exact h.tops_step hs h'.hands.link hfirst

/-- **A run hands over what the journal takes.** -/
theorem run (h : Counts base done rest v l)
    (hr : v.run settings Journal.sink ts = some (w, sig))
    (hn : base.toNat +
      (done ++ (rest ++ v.broughtBy settings Journal.sink ts)).flatten.length < 2 ^ 63) :
    (∀ batch, .append batch false ∉ v.deedsBy settings Journal.sink ts) ∧
      ∃ moved rest' l', rest ++ v.broughtBy settings Journal.sink ts = moved ++ rest' ∧
        moved.flatten = (v.deedsBy settings Journal.sink ts).flatMap Deed.batch ∧
        Counts base (done ++ moved) rest' w l' := by
  have hall := Live.run_of_step (P := fun done rest v => ∃ l, Counts base done rest v l)
    (D := fun d => ∀ batch, d ≠ .append batch false) ?_ ⟨l, h⟩ hr hn
  · obtain ⟨htaken, moved, rest', he, hmoved, l', h'⟩ := hall
    exact ⟨fun batch hb => htaken _ hb batch rfl, moved, rest', l', he, hmoved, h'⟩
  · rintro done rest v w t sig ⟨l, h⟩ hs hn
    obtain ⟨htaken, moved, rest', l', he, hmoved, h'⟩ := h.step hs hn
    refine ⟨?_, moved, rest', he, hmoved, l', h'⟩
    intro d hd batch heq
    exact htaken batch (heq ▸ hd)

end Counts

/-! ### What a turn does to the last number -/

/-- **Only an exchange that is logged uses up numbers**, one for each observation.  One that is
refused uses up none, and neither does one that tells nothing. -/
theorem Live.lastSeq_of_step {σ : Type} {k : Sink σ} {v w : Live σ} {l : Link σ} {t : Turn}
    {sig : List Signal} (hl : v.link = some l) (hs : v.step settings k t = some (w, sig)) :
    w.session.lastSeq = v.session.lastSeq ∨
      ∃ call x time, t = .command (.log call x time) ∧ v.refusal? settings x = none ∧
        x.observations call ≠ [] ∧
        w.session.lastSeq = v.session.lastSeq + (x.observations call).length.toUInt64 := by
  cases Live.steps_of_step hl hs with
  | aside _ _ _ hn => exact .inl hn
  | @logged call x time g desk sig hd hg =>
    obtain ⟨ho, -, hn, -⟩ := Session.log_ok hg
    obtain ⟨hv, hobs, -⟩ := Session.counted_of_log hg
    rw [← List.length_map Stored.observation, hobs] at hn
    by_cases hnil : x.observations call = []
    · rw [hnil] at hn
      exact .inl (hn.trans (UInt64.add_zero _))
    · refine .inr ⟨call, x, time, rfl, ?_, hnil, hn⟩
      have hready : ¬v.desk = .stopped := by simp [hd]
      rw [Live.refusal?, if_neg hready, if_pos hv]
      exact ho
  | passed | sent | worked | waited => exact .inl rfl
  | replied _ _ hn => exact .inl hn

/-! ### All lives -/

namespace Deed

/-- The observations that were taken. -/
def taken : Deed → List Stored
  | append batch true => batch
  | _ => []

theorem flatMap_taken {deeds : List Deed} (h : ∀ batch, .append batch false ∉ deeds) :
    deeds.flatMap taken = deeds.flatMap batch := by
  induction deeds with
  | nil => rfl
  | cons d r ih =>
    have hrest := ih fun batch hb => h batch (List.mem_cons_of_mem d hb)
    have hfirst : d.taken = d.batch := by
      cases d with
      | append batch isTaken =>
        cases isTaken with
        | true => rfl
        | false => exact absurd List.mem_cons_self (h batch)
      | snapshot s isWritten => rfl
    rw [List.flatMap_cons, List.flatMap_cons, hrest, hfirst]

end Deed

theorem Stored.Follows.map_seq {n : UInt64} {l : List Stored} (h : Follows n l)
    (hn : n.toNat + l.length < 2 ^ 64) :
    l.map (fun o => o.seq.toNat) = List.range' (n.toNat + 1) l.length := by
  induction l generalizing n with
  | nil => rfl
  | cons s r ih =>
    rw [List.length_cons] at hn
    obtain ⟨hs, hr⟩ := h
    have hsucc : (n + 1).toNat = n.toNat + 1 := toNat_add_one (by omega)
    rw [List.map_cons, List.length_cons, List.range'_succ, ih hr (by omega), hs, hsucc]

/-- A session that starts with a journal, which others may have written to. -/
def Live.resume (s : Session) (j : Journal) : Live Journal :=
  .start Journal.sink s (some j)

theorem Counts.start (s : Session) {j : Journal} (hn : j.latestSeq.toNat < 2 ^ 63) :
    Counts j.latestSeq [] [] (Live.resume s j) (Link.start Journal.sink j) where
  truthful := .start s j
  tops := by
    show j.Tops (j.latestSeq + 0)
    rw [UInt64.add_zero]
    exact ⟨rfl, hn⟩

namespace Journal

/-- A journal that sessions have written to, one after the other and nobody else, and all the
observations that it has taken from them.  Each session stops at some moment. -/
inductive Lived : Journal → List Stored → Prop
  | first : Lived .empty []
  | next {j : Journal} {stored : List Stored} {settings : Settings} {s : Session}
    {ts : List Turn} {v : Live Journal} {l : Link Journal} {sig : List Signal}
    (h : Lived j stored)
    (hr : (Live.resume s j).run settings sink ts = some (v, sig)) (hl : v.link = some l)
    (hn : j.latestSeq.toNat +
      ((Live.resume s j).broughtBy settings sink ts).flatten.length < 2 ^ 63) :
    Lived l.sink (stored ++ ((Live.resume s j).deedsBy settings sink ts).flatMap Deed.taken)

/-- The observations have the numbers from 1 on, and the last one is the highest in use. -/
structure Numbered (j : Journal) (stored : List Stored) : Prop where
  follows : Stored.Follows 0 stored
  last : j.latestSeq.toNat = stored.length
  small : stored.length < 2 ^ 63

namespace Numbered

variable {j : Journal} {stored : List Stored}

theorem lt_words (h : j.Numbered stored) : (0 : UInt64).toNat + stored.length < 2 ^ 64 := by
  show 0 + stored.length < 2 ^ 64
  have := h.small
  omega

theorem latestSeq_eq (h : j.Numbered stored) : j.latestSeq = 0 + stored.length.toUInt64 := by
  apply UInt64.toNat_inj.1
  rw [Stored.toNat_add_length h.lt_words, h.last]
  exact (Nat.zero_add _).symm

theorem counts (h : j.Numbered stored) (s : Session) :
    Counts j.latestSeq [] [] (Live.resume s j) (Link.start sink j) :=
  .start s (h.last ▸ h.small)

/-- **A life** hands over what comes next. -/
theorem live (h : j.Numbered stored) {s : Session} {ts : List Turn} {v : Live Journal}
    {l : Link Journal} {sig : List Signal}
    (hr : (Live.resume s j).run settings sink ts = some (v, sig)) (hl : v.link = some l)
    (hn : j.latestSeq.toNat +
      ((Live.resume s j).broughtBy settings sink ts).flatten.length < 2 ^ 63) :
    l.sink.Numbered
      (stored ++ ((Live.resume s j).deedsBy settings sink ts).flatMap Deed.taken) := by
  obtain ⟨htaken, moved, rest, l', he, hmoved, h'⟩ := (h.counts s).run hr hn
  obtain rfl : l' = l := Option.some.inj (h'.truthful.hands.link.symm.trans hl)
  have hfollows := h'.truthful.hands.follows
  rw [List.nil_append, List.flatten_append, Stored.follows_append] at hfollows
  rw [List.nil_append] at he
  rw [he, List.flatten_append, List.length_append] at hn
  rw [Deed.flatMap_taken htaken, ← hmoved]
  have hsmall := h.last
  refine ⟨?_, ?_, ?_⟩
  · rw [Stored.follows_append, ← h.latestSeq_eq]
    exact ⟨h.follows, hfollows.1⟩
  · rw [h'.tops.latest, List.nil_append, Stored.toNat_add_length (by omega), h.last,
      List.length_append]
  · rw [List.length_append]
    omega

end Numbered

theorem Lived.numbered {j : Journal} {stored : List Stored} (h : j.Lived stored) :
    j.Numbered stored := by
  induction h with
  | first => exact ⟨trivial, rfl, by decide⟩
  | next _ hr hl hn ih => exact ih.live hr hl hn

/-- **The numbers go on from life to life.**  All that a journal has ever taken has the numbers 1,
2, 3 and so on, and the next session starts right behind them, whatever rows were dropped.  The
journal takes whatever this session hands over, the first of what it was told, and only an exchange
that is logged and tells something uses up numbers. -/
theorem Lived.numbers {j : Journal} {stored : List Stored} (h : j.Lived stored) (s : Session) :
    stored.map (fun o => o.seq.toNat) = List.range' 1 stored.length ∧
    (Live.resume s j).session.lastSeq.toNat = stored.length ∧
    ∀ {settings : Settings} {ts : List Turn} {v : Live Journal} {sig : List Signal},
      (Live.resume s j).run settings sink ts = some (v, sig) →
      let told := ((Live.resume s j).broughtBy settings sink ts).flatten
      let deeds := (Live.resume s j).deedsBy settings sink ts
      stored.length + told.length < 2 ^ 63 →
        (∀ batch, .append batch false ∉ deeds) ∧ deeds.flatMap Deed.taken <+: told ∧
        v.session.lastSeq.toNat = stored.length + told.length ∧
        ∀ t w sig', v.step settings sink t = some (w, sig') →
          w.session.lastSeq = v.session.lastSeq ∨
          ∃ call x time, t = .command (.log call x time) ∧ v.refusal? settings x = none ∧
            x.observations call ≠ [] ∧
            w.session.lastSeq = v.session.lastSeq + (x.observations call).length.toUInt64 := by
  have hnumbered := h.numbered
  refine ⟨hnumbered.follows.map_seq hnumbered.lt_words, hnumbered.last, ?_⟩
  intro settings ts v sig hr told deeds hn
  rw [← hnumbered.last] at hn ⊢
  obtain ⟨htaken, moved, rest, l, he, hmoved, hcounts⟩ := (hnumbered.counts s).run hr hn
  rw [List.nil_append] at he
  have hlast := hcounts.truthful.hands.last
  rw [List.nil_append, ← he] at hlast
  refine ⟨htaken, ?_, ?_, ?_⟩
  · rw [Deed.flatMap_taken htaken, ← hmoved]
    show moved.flatten <+: ((Live.resume s j).broughtBy settings sink ts).flatten
    rw [he, List.flatten_append]
    exact List.prefix_append _ _
  · rw [hlast]
    have hwords : 2 ^ 63 < 2 ^ 64 := by decide
    exact Stored.toNat_add_length (Nat.lt_trans hn hwords)
  · intro t w sig' hs
    exact Live.lastSeq_of_step hcounts.truthful.hands.link hs

end Journal

/-- What a snapshot covers is dropped. -/
def Settings.tidy : Settings :=
  { Settings.standard with compactAfterSnapshot := true }

/-- An exchange is logged and written, and then a snapshot is taken. -/
def Turn.tidying : List Turn :=
  [.command (.log "K1AR" .zone 0), .writer, .writer, .writer, .command .checkpoint, .desk,
    .writer, .writer, .writer, .writer, .desk]

namespace Journal

/-- The journal that is left has no row, only the snapshot. -/
def tidied : Journal :=
  empty.writeSnapshot ⟨1, (Session.bare.observe "K1AR" .zone).book.snapshot⟩

theorem run_tidying : ∃ v l sig,
    (Live.resume .bare .empty).run .tidy sink Turn.tidying = some (v, sig) ∧ v.link = some l ∧
      l.sink = tidied :=
  ⟨_, _, _, rfl, rfl, rfl⟩

theorem lived_tidied : tidied.Lived (Stored.number 0 0 (Exchange.zone.observations "K1AR")) := by
  obtain ⟨v, l, sig, hr, hl, hj⟩ := run_tidying
  have hn : empty.latestSeq.toNat +
      ((Live.resume .bare .empty).broughtBy .tidy sink Turn.tidying).flatten.length < 2 ^ 63 := by
    decide +kernel
  have hlived := Lived.next .first hr hl hn
  rw [hj] at hlived
  exact hlived

theorem run_farewell_tidied : ∃ v sig,
    (Live.resume .bare tidied).run .standard sink Turn.farewell = some (v, sig) :=
  ⟨_, _, rfl⟩

/-- The next session starts behind what was dropped, and its observation is taken as number 2. -/
theorem numbers_of_tidied :
    tidied.Lived (Stored.number 0 0 (Exchange.zone.observations "K1AR")) ∧
    tidied.rows.entries = [] ∧ (Live.resume .bare tidied).session.lastSeq.toNat = 1 ∧
    ∃ v sig, (Live.resume .bare tidied).run .standard sink Turn.farewell = some (v, sig) ∧
      1 + ((Live.resume .bare tidied).broughtBy .standard sink Turn.farewell).flatten.length <
        2 ^ 63 ∧
      (∀ batch,
        .append batch false ∉ (Live.resume .bare tidied).deedsBy .standard sink Turn.farewell) ∧
      v.session.lastSeq.toNat = 2 := by
  obtain ⟨-, hfirst, hlife⟩ := Lived.numbers lived_tidied .bare
  obtain ⟨v, sig, hr⟩ := run_farewell_tidied
  have hn : 1 + ((Live.resume .bare tidied).broughtBy .standard sink
      Turn.farewell).flatten.length < 2 ^ 63 := by
    decide +kernel
  obtain ⟨htaken, -, hlast, -⟩ := hlife hr hn
  exact ⟨lived_tidied, rfl, hfirst, v, sig, hr, hn, htaken, hlast⟩

end Journal

end ContestExchange
