import ContestExchange.Proofs.Session.Recovery
import ContestExchange.Proofs.Session.Steps

/-!
# What an acknowledgement is worth

A session acknowledges a number when it answers a flush with it or tells everybody
that the observations up to it are safe (`Live.Acknowledges`).  Here the sink may
fail at any time, if only the number that it tells after taking a batch is not above
the batch (`Sink.TellsLast`).

Up to an acknowledged number every observation was handed to the sink before
(`Live.kept_or_refused_of_acknowledged`).  More is not true: the writer gives a batch
away when it hands it over, whether it is taken or not, and a later batch that is
taken raises the number that is said to be safe above the lost one
(`Live.not_kept_of_refusal`).
-/

namespace ContestExchange

/-- A sink that takes a batch tells no number above all of it. -/
def Sink.TellsLast {σ : Type} (k : Sink σ) : Prop :=
  ∀ s batch n, batch ≠ [] → (k.append s batch).2 = .ok n → ∃ o ∈ batch, n ≤ o.seq

/-! ### What the sink is asked to keep -/

/-- What the sink was asked to keep, and whether it did. -/
inductive Deed where
  | append (batch : List Stored) (isTaken : Bool)
  | snapshot (s : Snapshot) (isWritten : Bool)
deriving DecidableEq

namespace Deed

/-- The observations that were handed over. -/
def batch : Deed → List Stored
  | append batch _ => batch
  | snapshot _ _ => []

end Deed

namespace Stored

/-- The observation was taken by the sink, or a snapshot that was written covers it. -/
def IsKept (o : Stored) (deeds : List Deed) : Prop :=
  (∃ batch, .append batch true ∈ deeds ∧ o ∈ batch) ∨
    ∃ s, .snapshot s true ∈ deeds ∧ o.seq ≤ s.lastSeq

/-- The observation was handed to the sink, which failed. -/
def IsRefused (o : Stored) (deeds : List Deed) : Prop :=
  ∃ batch, .append batch false ∈ deeds ∧ o ∈ batch

theorem kept_or_refused {o : Stored} {deeds : List Deed} (h : o ∈ deeds.flatMap Deed.batch) :
    o.IsKept deeds ∨ o.IsRefused deeds := by
  obtain ⟨d, hd, ho⟩ := List.mem_flatMap.1 h
  cases d with
  | append batch isTaken =>
    cases isTaken with
    | true => exact .inl (.inl ⟨batch, hd, ho⟩)
    | false => exact .inr ⟨batch, hd, ho⟩
  | snapshot s isWritten => cases ho

/-! ### Numbers in sequence -/

theorem Follows.toNat_getElem? {n : UInt64} {l : List Stored} (h : Follows n l)
    (hn : n.toNat + l.length < 2 ^ 64) {i : Nat} {o : Stored} (ho : l[i]? = some o) :
    o.seq.toNat = n.toNat + i + 1 := by
  induction l generalizing n i with
  | nil => cases ho
  | cons s r ih =>
    rw [List.length_cons] at hn
    obtain ⟨hs, hr⟩ := h
    have hsucc : (n + 1).toNat = n.toNat + 1 := toNat_add_one (by omega)
    cases i with
    | zero =>
      obtain rfl := Option.some.inj ho
      rw [hs, hsucc]
    | succ i =>
      have := ih hr (by omega) ho
      omega

theorem Follows.mem_iff {n : UInt64} {l m : List Stored} (h : Follows n (l ++ m))
    (hn : n.toNat + (l ++ m).length < 2 ^ 64) {o : Stored} (ho : o ∈ l ++ m) :
    o ∈ l ↔ o.seq.toNat ≤ n.toNat + l.length := by
  constructor
  · intro hl
    obtain ⟨i, hi⟩ := List.getElem?_of_mem hl
    have hlt : i < l.length := (List.getElem?_eq_some_iff.1 hi).1
    have := h.toNat_getElem? hn (List.getElem?_append_left hlt ▸ hi)
    omega
  · intro hle
    obtain ⟨i, hi⟩ := List.getElem?_of_mem ho
    have hseq := h.toNat_getElem? hn hi
    have hlt : i < l.length := by omega
    rw [List.getElem?_append_left hlt] at hi
    exact List.mem_of_getElem? hi

end Stored

variable {σ : Type} {k : Sink σ} {settings : Settings}

/-! ### What the writer claims -/

/-- A number up to which observations are said to be safe after a piece of work, or may be
said to be after the flush that comes next. -/
inductive Worked.Claims (r : Worked) (n : UInt64) : Prop
  | durable (h : r.writer.durable = n)
  | flushing {e : Errand} (h : r.writer.phase = .flushing (some n) e)
  | reply (h : r.reply = some (.ok n))
  | notice (h : r.notice = some (.ok n))

/-- The same of all that stands between the desk and the sink. -/
inductive Link.Claims (l : Link σ) (n : UInt64) : Prop
  | durable (h : l.writer.durable = n)
  | flushing {e : Errand} (h : l.writer.phase = .flushing (some n) e)
  | reply (h : l.reply = some (.ok n))
  | notice (h : .ok n ∈ l.notices)

theorem Link.Claims.of_writer {l l' : Link σ} {n : UInt64} (h : l'.Claims n)
    (hd : l'.writer.durable = l.writer.durable)
    (hp : ∀ n e, l'.writer.phase = .flushing (some n) e → l.writer.phase = .flushing (some n) e)
    (hr : l'.reply = l.reply) (hn : l'.notices = l.notices) : l.Claims n := by
  cases h with
  | durable h => exact .durable (hd.symm.trans h)
  | flushing h => exact .flushing (hp _ _ h)
  | reply h => exact .reply (hr.symm.trans h)
  | notice h => exact .notice (hn ▸ h)

/-- Whatever is about to be handed over, it is something. -/
def Phase.Loaded (p : Phase) : Prop :=
  ∀ batch sync e, p = .appending batch sync e → batch ≠ []

/-- What the sink is asked to keep by the writer's next piece of work. -/
def Phase.deeds (k : Sink σ) (s : σ) : Phase → List Deed
  | .appending batch _ _ => [.append batch (k.append s batch).2.isOk]
  | .snapshotting snapshot _ => [.snapshot snapshot (k.writeSnapshot s snapshot).2.isOk]
  | _ => []

theorem Phase.flatMap_deeds (k : Sink σ) (s : σ) (p : Phase) :
    (p.deeds k s).flatMap Deed.batch = p.batch := by
  cases p with
  | appending batch sync e => exact List.append_nil batch
  | idle | flushing | snapshotting | compacting | closed => rfl

namespace Writer

variable {w : Writer} {s s' : σ} {r : Worked} {n : UInt64}

/-- A writer that goes on claims no more than it did, besides what it was given to say. -/
theorem claims_goOn {notice : Option Reply} {result : Except JournalError Unit} {e : Errand}
    (h : (w.goOn notice result e).Claims n) : w.durable = n ∨ notice = some (.ok n) := by
  cases e with
  | routine =>
    cases h with
    | durable h => exact .inl h
    | flushing h => cases h
    | reply h => cases h
    | notice h => exact .inr h
  | sync =>
    cases h with
    | durable h => exact .inl h
    | flushing h => cases h
    | reply h =>
      cases result with
      | ok => exact .inl (Except.ok.inj (Option.some.inj h))
      | error e => cases h
    | notice h => exact .inr h
  | checkpoint snapshot compact =>
    cases result with
    | ok =>
      cases h with
      | durable h => exact .inl h
      | flushing h => cases h
      | reply h => cases h
      | notice h => exact .inr h
    | error e =>
      cases h with
      | durable h => exact .inl h
      | flushing h => cases h
      | reply h => cases h
      | notice h => exact .inr h
  | close =>
    cases h with
    | durable h => exact .inl h
    | flushing h => cases h
    | reply h => exact .inl (Except.ok.inj (Option.some.inj h))
    | notice h => exact .inr h

/-- A success claims the number that was handed to it, unless a higher one was claimed. -/
theorem claims_succeed {seq : UInt64} {e : Errand} (h : (w.succeed seq e).Claims n) :
    w.durable = n ∨ seq = n := by
  have hmax : (if w.durable ≤ seq then seq else w.durable) = n := by
    rcases claims_goOn h with h | h
    · exact h
    · exact Except.ok.inj (Option.some.inj h)
  split at hmax
  · exact .inr hmax
  · exact .inl hmax

theorem claims_fail {err : JournalError} {e : Errand} (h : (w.fail err e).Claims n) :
    w.durable = n := by
  rcases claims_goOn h with h | h
  · exact h
  · cases h

theorem claims_endSnapshot {result : Except JournalError Unit}
    (h : (w.endSnapshot result).Claims n) : w.durable = n := by
  cases h with
  | durable h => exact h
  | flushing h => cases h
  | reply h =>
    cases result with
    | ok => exact Except.ok.inj (Option.some.inj h)
    | error e => cases h
  | notice h => cases h

/-- The sink has told the number just now, or it is what the flush to come is for. -/
def Told (k : Sink σ) (w : Writer) (s : σ) (n : UInt64) : Prop :=
  (∃ e, w.phase = .flushing (some n) e) ∨
    ∃ batch sync e, w.phase = .appending batch sync e ∧ (k.append s batch).2 = .ok n

/-- What a piece of work comes to, whatever the sink does. -/
inductive Does (k : Sink σ) (w : Writer) (s : σ) : Worked → Prop
  /-- A batch was taken, and a flush is to come. -/
  | took {n : UInt64} {e : Errand} (h : w.Told k s n) :
    Does k w s ⟨{ w with phase := .flushing (some n) e }, none, none⟩
  /-- Observations up to a number were written. -/
  | succeeded {n : UInt64} {e : Errand} (h : w.Told k s n) : Does k w s (w.succeed n e)
  | failed {err : JournalError} {e : Errand} : Does k w s (w.fail err e)
  /-- There was nothing to hand over. -/
  | flushed {result : Except JournalError Unit} {e : Errand} : Does k w s (w.goOn none result e)
  /-- A snapshot was written, and what it covers is to be dropped. -/
  | covered {n : UInt64} : Does k w s ⟨{ w with phase := .compacting n }, none, none⟩
  | ended {result : Except JournalError Unit} : Does k w s (w.endSnapshot result)

/-- **What a piece of work comes to.** -/
theorem does_of_work (h : w.work k s = some (s', r)) : w.Does k s r := by
  rw [work] at h
  split at h
  · cases h
  · rename_i batch sync e hp
    simp only at h
    split at h
    · obtain ⟨-, rfl⟩ := Prod.mk.inj (Option.some.inj h)
      exact .failed
    · rename_i seq hseq
      have htold : w.Told k s seq := .inr ⟨batch, sync, e, hp, hseq⟩
      split at h
      · obtain ⟨-, rfl⟩ := Prod.mk.inj (Option.some.inj h)
        exact .took htold
      · obtain ⟨-, rfl⟩ := Prod.mk.inj (Option.some.inj h)
        exact .succeeded htold
  · rename_i appended e hp
    simp only at h
    split at h
    · obtain ⟨-, rfl⟩ := Prod.mk.inj (Option.some.inj h)
      exact .failed
    · obtain ⟨-, rfl⟩ := Prod.mk.inj (Option.some.inj h)
      exact .flushed
    · obtain ⟨-, rfl⟩ := Prod.mk.inj (Option.some.inj h)
      exact .succeeded (.inl ⟨e, hp⟩)
    · obtain ⟨-, rfl⟩ := Prod.mk.inj (Option.some.inj h)
      exact .flushed
  · simp only at h
    split at h
    · obtain ⟨-, rfl⟩ := Prod.mk.inj (Option.some.inj h)
      exact .ended
    · split at h
      · obtain ⟨-, rfl⟩ := Prod.mk.inj (Option.some.inj h)
        exact .covered
      · obtain ⟨-, rfl⟩ := Prod.mk.inj (Option.some.inj h)
        exact .ended
  · obtain ⟨-, rfl⟩ := Prod.mk.inj (Option.some.inj h)
    exact .ended
  · cases h

/-- **A piece of work claims nothing new**, but what the sink tells. -/
theorem Does.claims (h : w.Does k s r) (hn : r.Claims n) : w.durable = n ∨ w.Told k s n := by
  cases h with
  | took htold =>
    cases hn with
    | durable hn => exact .inl hn
    | flushing hn =>
      obtain ⟨he, -⟩ := Phase.flushing.inj hn
      exact .inr (Option.some.inj he ▸ htold)
    | reply hn => cases hn
    | notice hn => cases hn
  | succeeded htold =>
    rcases claims_succeed hn with hn | hn
    · exact .inl hn
    · exact .inr (hn ▸ htold)
  | failed => exact .inl (claims_fail hn)
  | flushed =>
    rcases claims_goOn hn with hn | hn
    · exact .inl hn
    · cases hn
  | covered =>
    cases hn with
    | durable hn => exact .inl hn
    | flushing hn => cases hn
    | reply hn => cases hn
    | notice hn => cases hn
  | ended => exact .inl (claims_endSnapshot hn)

theorem goOn_frame (w : Writer) (notice : Option Reply) (result : Except JournalError Unit)
    (e : Errand) : (w.goOn notice result e).writer.pending = w.pending ∧
      (w.goOn notice result e).writer.phase.batch = [] ∧
      (w.goOn notice result e).writer.phase.Loaded := by
  cases e with
  | routine | sync | close => exact ⟨rfl, rfl, by simp [goOn, Phase.Loaded]⟩
  | checkpoint snapshot compact => cases result <;> exact ⟨rfl, rfl, by simp [goOn, Phase.Loaded]⟩

/-- After a piece of work nothing is about to be handed over, and what waits still waits. -/
theorem Does.frame (h : w.Does k s r) : r.writer.pending = w.pending ∧
    r.writer.phase.batch = [] ∧ r.writer.phase.Loaded := by
  cases h with
  | took | covered | ended => exact ⟨rfl, rfl, by simp [endSnapshot, Phase.Loaded]⟩
  | succeeded | failed | flushed => exact goOn_frame _ _ _ _

/-! ### Setting out -/

theorem setOut_frame (w : Writer) (sync : Bool) (e : Errand) (h : w.phase.Loaded) :
    (w.setOut sync e).durable = w.durable ∧ (w.setOut sync e).phase.Loaded ∧
      ∀ n e', (w.setOut sync e).phase = .flushing (some n) e' →
        w.phase = .flushing (some n) e' := by
  rw [setOut]
  split
  · split
    · exact ⟨rfl, by simp [Phase.Loaded], by simp⟩
    · exact ⟨rfl, h, fun _ _ => id⟩
  · rename_i hp
    refine ⟨rfl, ?_, by simp⟩
    intro batch sync' e' he
    obtain ⟨rfl, -⟩ := Phase.appending.inj he
    intro hnil
    rw [hnil] at hp
    exact hp rfl

theorem take_frame (w : Writer) (settings : Settings) (m : Message) (h : w.phase.Loaded) :
    (w.take settings m).durable = w.durable ∧ (w.take settings m).phase.Loaded ∧
      ∀ n e, (w.take settings m).phase = .flushing (some n) e → w.phase = .flushing (some n) e := by
  cases hm : m.batch? with
  | none =>
    rw [w.take_request settings hm]
    exact w.setOut_frame true m.errand h
  | some batch =>
    obtain rfl : m = .append batch := by
      cases m with
      | append b => rw [Option.some.inj hm]
      | sync | checkpoint | close => cases hm
    rcases w.take_append settings batch with he | he
    · rw [he]
      exact ⟨rfl, h, fun _ _ => id⟩
    · rw [he]
      exact setOut_frame _ true .routine h

end Writer

/-! ### What was handed over -/

/-- The batches `done` were handed to the sink, the batches `rest` are on their way, and
nothing is claimed beyond what was handed over. -/
structure Hands (base : UInt64) (done rest : List (List Stored)) (v : Live σ) (l : Link σ) :
    Prop where
  link : v.link = some l
  follows : Stored.Follows base (done ++ rest).flatten
  small : base.toNat + (done ++ rest).flatten.length < 2 ^ 64
  last : v.session.lastSeq = base + (done ++ rest).flatten.length.toUInt64
  carries : l.Carries rest
  loaded : l.writer.phase.Loaded
  bounded : ∀ n, l.Claims n → n.toNat ≤ base.toNat + done.flatten.length
  asks : v.desk.batch? = none

namespace Hands

variable {base : UInt64} {done rest : List (List Stored)} {v w : Live σ} {l l' : Link σ}
  {t : Turn} {sig : List Signal}

theorem relink (h : Hands base done rest v l) {s : Session} {desk : Desk}
    (hn : s.lastSeq = v.session.lastSeq) (hc : l'.Carries rest) (hp : l'.writer.phase.Loaded)
    (hb : ∀ n, l'.Claims n → l.Claims n) (hm : desk.batch? = none) :
    Hands base done rest ⟨s, desk, some l'⟩ l' :=
  ⟨rfl, h.follows, h.small, hn.trans h.last, hc, hp, fun n hn => h.bounded n (hb n hn), hm⟩

/-- **What is about to be handed over comes next.** -/
theorem follows_batch (h : Hands base done rest v l) :
    Stored.Follows (base + done.flatten.length.toUInt64) l.writer.phase.batch ∧
      (base + done.flatten.length.toUInt64).toNat + l.writer.phase.batch.length ≤
        base.toNat + (done ++ rest).flatten.length := by
  obtain ⟨handed, waiting, hr, hh, -⟩ := h.carries
  have hfollows := h.follows
  have hsmall := h.small
  rw [hr, List.append_assoc, List.flatten_append, List.flatten_append, hh] at hfollows hsmall ⊢
  rw [Stored.follows_append, Stored.follows_append] at hfollows
  rw [List.length_append, List.length_append] at hsmall ⊢
  refine ⟨hfollows.2.1, ?_⟩
  rw [Stored.toNat_add_length (by omega)]
  omega

/-- **What the sink has just told is not above what it was handed.** -/
theorem toNat_le_of_told (hk : k.TellsLast) (h : Hands base done rest v l)
    {handed behind : List (List Stored)} (hr : rest = handed ++ behind)
    (hh : handed.flatten = l.writer.phase.batch) {n : UInt64} (hn : l.writer.Told k l.sink n) :
    n.toNat ≤ base.toNat + (done ++ handed).flatten.length := by
  rcases hn with ⟨e, hp⟩ | ⟨batch, sync, e, hp, ha⟩
  · have := h.bounded n (.flushing hp)
    rw [List.flatten_append, List.length_append]
    omega
  · obtain ⟨o, ho, hle⟩ := hk _ _ _ (h.loaded batch sync e hp) ha
    have hmem : o ∈ (done ++ handed).flatten := by
      rw [List.flatten_append, hh, hp]
      exact List.mem_append_right _ ho
    have hfollows := h.follows
    have hsmall := h.small
    rw [hr, ← List.append_assoc, List.flatten_append] at hfollows hsmall
    have hseq := (hfollows.mem_iff hsmall (List.mem_append_left _ hmem)).1 hmem
    have := UInt64.le_iff_toNat_le.1 hle
    omega

theorem work (hk : k.TellsLast) (h : Hands base done rest v l) {s : σ} {r : Worked}
    (hw : l.writer.work k l.sink = some (s, r)) :
    ∃ moved rest', rest = moved ++ rest' ∧ moved.flatten = l.writer.phase.batch ∧
      Hands base (done ++ moved) rest' { v with link := some (l.worked s r) } (l.worked s r) := by
  have hdoes := Writer.does_of_work hw
  obtain ⟨hpend, hbatch, hloaded⟩ := hdoes.frame
  obtain ⟨handed, waiting, hr, hh, hwait⟩ := h.carries
  rw [List.append_assoc] at hr
  have hgrow : ∀ n : UInt64, n.toNat ≤ base.toNat + done.flatten.length →
      n.toNat ≤ base.toNat + (done ++ handed).flatten.length := by
    intro n hn
    rw [List.flatten_append, List.length_append]
    omega
  have hclaims : ∀ n, r.Claims n → n.toNat ≤ base.toNat + (done ++ handed).flatten.length := by
    intro n hn
    rcases hdoes.claims hn with hn | hn
    · exact hgrow n (h.bounded n (.durable hn))
    · exact h.toNat_le_of_told hk hr hh hn
  have hold : ∀ n, l.Claims n → n.toNat ≤ base.toNat + (done ++ handed).flatten.length :=
    fun n hn => hgrow n (h.bounded n hn)
  refine ⟨handed, _, hr, hh, rfl, ?_, ?_, ?_, ⟨[], waiting, rfl, hbatch.symm, ?_⟩, hloaded, ?_,
    h.asks⟩
  · rw [List.append_assoc, ← hr]
    exact h.follows
  · rw [List.append_assoc, ← hr]
    exact h.small
  · rw [List.append_assoc, ← hr]
    exact h.last
  · exact hwait.trans hpend.symm
  · intro n hn
    cases hn with
    | durable hn => exact hclaims n (.durable hn)
    | flushing hn => exact hclaims n (.flushing hn)
    | reply hn =>
      rw [Link.worked] at hn
      cases hreply : r.reply with
      | none =>
        rw [hreply] at hn
        exact hold n (.reply hn)
      | some q =>
        rw [hreply] at hn
        exact hclaims n (.reply (hreply.trans hn))
    | notice hn =>
      rcases List.mem_append.1 hn with hn | hn
      · exact hold n (.notice hn)
      · exact hclaims n (.notice (Option.mem_toList.1 hn))

/-- **A turn of the writer** hands over some of the batches on their way, the first ones. -/
theorem turn (hk : k.TellsLast) (h : Hands base done rest v l)
    (ht : l.turn? settings k (v.desk == .stopped) = some l') :
    ∃ moved rest', rest = moved ++ rest' ∧
      moved.flatten = (l.writer.phase.deeds k l.sink).flatMap Deed.batch ∧
      Hands base (done ++ moved) rest' { v with link := some l' } l' := by
  rw [Phase.flatMap_deeds]
  have hstay : l.writer.phase = .idle → Hands base done rest { v with link := some l' } l' →
      ∃ moved rest', rest = moved ++ rest' ∧ moved.flatten = l.writer.phase.batch ∧
        Hands base (done ++ moved) rest' { v with link := some l' } l' := by
    intro hp hs
    exact ⟨[], rest, rfl, by rw [hp]; rfl, by rw [List.append_nil]; exact hs⟩
  rcases Link.turn?_cases ht with ⟨m, queue, hp, hq, rfl⟩ | ⟨hp, hq, hlast, rfl⟩ | ⟨s, r, hw, rfl⟩
  · obtain ⟨hdurable, hloaded, hflush⟩ := l.writer.take_frame settings m h.loaded
    exact hstay hp (h.relink rfl (h.carries.take hp hq settings) hloaded
      (fun n hn => hn.of_writer hdurable hflush rfl rfl) h.asks)
  · obtain ⟨hdurable, hloaded, hflush⟩ := l.writer.setOut_frame true .close h.loaded
    exact hstay hp (h.relink rfl (h.carries.setOut (by rw [hp]; rfl) .close) hloaded
      (fun n hn => hn.of_writer hdurable hflush rfl rfl) h.asks)
  · exact h.work hk hw

theorem timer (h : Hands base done rest v l) (ht : l.timer? = some l') :
    Hands base done rest { v with link := some l' } l' := by
  have hc := h.carries.timer ht
  obtain ⟨-, hpend, rfl⟩ := Link.timer?_eq_some ht
  refine h.relink rfl hc ?_ (fun n hn => hn.of_writer rfl (by simp) rfl rfl) h.asks
  intro batch sync e he
  obtain ⟨rfl, -⟩ := Phase.appending.inj he
  exact hpend

theorem logged (h : Hands base done rest v l) {outlet : Outlet} {call : String} {x : Exchange}
    {time : UInt64} {g : Logged} {desk : Desk}
    (hg : v.session.log settings outlet call x time = .ok g)
    (hm : desk.batch? = none)
    (hsmall : base.toNat +
      (done ++ (rest ++ if g.batch.isEmpty then [] else [g.batch])).flatten.length < 2 ^ 64) :
    let l' := if g.batch.isEmpty then l else l.send (.append g.batch)
    Hands base done (rest ++ if g.batch.isEmpty then [] else [g.batch]) ⟨g.session, desk, some l'⟩
      l' := by
  obtain ⟨-, -, hn, hf⟩ := Session.log_ok hg
  cases hb : g.batch with
  | nil =>
    rw [hb] at hn
    have hlast : g.session.lastSeq = v.session.lastSeq := hn.trans (UInt64.add_zero _)
    simp only [List.isEmpty_nil, if_true, List.append_nil]
    exact h.relink hlast h.carries h.loaded (fun _ => id) hm
  | cons first r =>
    rw [hb] at hn hf hsmall
    simp only [List.isEmpty_cons, Bool.false_eq_true, if_false] at hsmall ⊢
    have hflat :
        (done ++ (rest ++ [first :: r])).flatten = (done ++ rest).flatten ++ first :: r := by
      rw [← List.append_assoc, List.flatten_append, List.flatten_singleton]
    rw [h.last] at hn hf
    refine ⟨rfl, ?_, hsmall, ?_, h.carries.send_append _, h.loaded, ?_, hm⟩
    · rw [hflat, Stored.follows_append]
      exact ⟨h.follows, hf⟩
    · rw [hflat, Stored.add_length_append]
      exact hn
    · intro n hn'
      exact h.bounded n (hn'.of_writer rfl (fun _ _ => id) rfl rfl)

end Hands

/-! ### Runs -/

namespace Live

/-- What the sink is asked to keep in a turn. -/
def deeds (k : Sink σ) (v : Live σ) : Turn → List Deed
  | .writer =>
    match v.link with
    | none => []
    | some l => l.writer.phase.deeds k l.sink
  | _ => []

/-- What the sink is asked to keep in several turns. -/
def deedsBy (settings : Settings) (k : Sink σ) (v : Live σ) : List Turn → List Deed
  | [] => []
  | t :: ts =>
    v.deeds k t ++
      match v.step settings k t with
      | none => []
      | some r => deedsBy settings k r.1 ts

theorem deeds_of_ne_writer (k : Sink σ) (v : Live σ) {t : Turn} (h : t ≠ .writer) :
    v.deeds k t = [] := by
  cases t with
  | writer => exact absurd rfl h
  | command | desk | timer | leave => rfl

/-- **From steps to runs.**  Batches are brought behind those on their way, `rest`, and handed over
from their front, behind those that were, `done`.  What every step keeps that does this, and what
holds of all that is asked in it, a run keeps, as long as there are few observations. -/
theorem run_of_step {P : List (List Stored) → List (List Stored) → Live σ → Prop}
    {D : Deed → Prop} {b m : Nat}
    (hP : ∀ done rest v w t sig, P done rest v → v.step settings k t = some (w, sig) →
      b + (done ++ (rest ++ v.brought settings t)).flatten.length < m →
        (∀ d ∈ v.deeds k t, D d) ∧
          ∃ moved rest', rest ++ v.brought settings t = moved ++ rest' ∧
            moved.flatten = (v.deeds k t).flatMap Deed.batch ∧ P (done ++ moved) rest' w)
    {done rest : List (List Stored)} {v w : Live σ} (h : P done rest v) {ts : List Turn}
    {sig : List Signal} (hr : v.run settings k ts = some (w, sig))
    (hn : b + (done ++ (rest ++ v.broughtBy settings k ts)).flatten.length < m) :
    (∀ d ∈ v.deedsBy settings k ts, D d) ∧
      ∃ moved rest', rest ++ v.broughtBy settings k ts = moved ++ rest' ∧
        moved.flatten = (v.deedsBy settings k ts).flatMap Deed.batch ∧
        P (done ++ moved) rest' w := by
  induction ts generalizing v sig done rest with
  | nil =>
    obtain ⟨rfl, -⟩ := Prod.mk.inj (Option.some.inj hr)
    refine ⟨fun d hd => absurd hd List.not_mem_nil, [], rest, List.append_nil rest, rfl, ?_⟩
    rw [List.append_nil]
    exact h
  | cons t ts ih =>
    obtain ⟨u, s, s', hs, hr', -⟩ := run_cons_split hr
    rw [broughtBy, hs] at hn ⊢
    rw [deedsBy, hs, List.flatMap_append]
    simp only at hn ⊢
    have hfirst : b + (done ++ (rest ++ v.brought settings t)).flatten.length < m := by
      simp only [List.flatten_append, List.length_append] at hn ⊢
      omega
    obtain ⟨hd₁, moved₁, rest₁, he₁, hm₁, h₁⟩ := hP done rest v u t s h hs hfirst
    have hn₁ :
        b + (done ++ moved₁ ++ (rest₁ ++ u.broughtBy settings k ts)).flatten.length < m := by
      rw [List.append_assoc, ← List.append_assoc moved₁, ← he₁, List.append_assoc rest]
      exact hn
    obtain ⟨hd₂, moved₂, rest₂, he₂, hm₂, h₂⟩ := ih h₁ hr' hn₁
    refine ⟨?_, moved₁ ++ moved₂, rest₂, ?_, ?_, ?_⟩
    · intro d hd
      rcases List.mem_append.1 hd with hd | hd
      · exact hd₁ d hd
      · exact hd₂ d hd
    · rw [← List.append_assoc, he₁, List.append_assoc, he₂, List.append_assoc]
    · rw [List.flatten_append, hm₁, hm₂]
    · rw [← List.append_assoc]
      exact h₂

/-- The next turn acknowledges the number: it is told to everybody, or answered to a flush. -/
def Acknowledges (settings : Settings) (k : Sink σ) (v : Live σ) (t : Turn) (n : UInt64) : Prop :=
  ∃ w sig, v.step settings k t = some (w, sig) ∧
    (.event (.durable n) ∈ sig ∨ v.desk = .waiting .flush ∧ .answer (.seq n) ∈ sig)

end Live

namespace Hands

variable {base : UInt64} {done rest : List (List Stored)} {v w : Live σ} {l l' : Link σ}
  {t : Turn} {ts : List Turn} {sig : List Signal}

/-- **A step** brings batches behind all others and hands batches over from the front. -/
theorem step (hk : k.TellsLast) (h : Hands base done rest v l)
    (hs : v.step settings k t = some (w, sig))
    (hsmall : base.toNat + (done ++ (rest ++ v.brought settings t)).flatten.length < 2 ^ 64) :
    ∃ moved rest' l', rest ++ v.brought settings t = moved ++ rest' ∧
      moved.flatten = (v.deeds k t).flatMap Deed.batch ∧ Hands base (done ++ moved) rest' w l' := by
  have hstay : ∀ {l'}, t ≠ .writer → Hands base done (rest ++ v.brought settings t) w l' →
      ∃ moved rest' l', rest ++ v.brought settings t = moved ++ rest' ∧
        moved.flatten = (v.deeds k t).flatMap Deed.batch ∧
        Hands base (done ++ moved) rest' w l' := by
    intro l' ht hw
    refine ⟨[], _, l', rfl, ?_, by rw [List.append_nil]; exact hw⟩
    rw [v.deeds_of_ne_writer k ht]
    rfl
  have hquiet : ∀ {l'}, v.brought settings t = [] → t ≠ .writer → Hands base done rest w l' →
      ∃ moved rest' l', rest ++ v.brought settings t = moved ++ rest' ∧
        moved.flatten = (v.deeds k t).flatMap Deed.batch ∧
        Hands base (done ++ moved) rest' w l' := by
    intro l' hb ht hw
    exact hstay ht (by rw [hb, List.append_nil]; exact hw)
  cases Live.steps_of_step h.link hs with
  | aside ht hb hd hn hm hsig =>
    exact hquiet hb ht (h.relink hn h.carries h.loaded (fun _ => id) hm)
  | logged hd hg hm hsig =>
    rw [Live.brought, if_pos hd, hg] at hsmall hstay ⊢
    exact hstay (by simp) (h.logged hg hm hsmall)
  | passed hd hr =>
    refine hquiet rfl (by simp) (h.relink rfl h.carries h.loaded (fun n hn => ?_) h.asks)
    cases hn with
    | durable hn => exact .durable hn
    | flushing hn => exact .flushing hn
    | reply hn => exact .reply hn
    | notice hn => exact .notice (hr ▸ List.mem_cons_of_mem _ hn)
  | sent hd =>
    have hasks := h.asks
    rw [hd] at hasks
    exact hquiet rfl (by simp) (h.relink rfl (h.carries.send hasks) h.loaded
      (fun n hn => hn.of_writer rfl (fun _ _ => id) rfl rfl) rfl)
  | replied hd hr hn hm ha =>
    refine hquiet rfl (by simp) (h.relink hn h.carries h.loaded (fun n hn => ?_) hm)
    cases hn with
    | durable hn => exact .durable hn
    | flushing hn => exact .flushing hn
    | reply hn => cases hn
    | notice hn => exact .notice hn
  | worked hl =>
    obtain ⟨moved, rest', he, hmoved, hw⟩ := h.turn hk hl
    refine ⟨moved, rest', _, (List.append_nil rest).trans he, ?_, hw⟩
    rw [hmoved, Live.deeds, h.link]
  | waited hl => exact hquiet rfl (by simp) (h.timer hl)

/-- **A run** brings batches behind all others and hands batches over from the front. -/
theorem run (hk : k.TellsLast) (h : Hands base done rest v l)
    (hr : v.run settings k ts = some (w, sig))
    (hsmall : base.toNat + (done ++ (rest ++ v.broughtBy settings k ts)).flatten.length < 2 ^ 64) :
    ∃ moved rest' l', rest ++ v.broughtBy settings k ts = moved ++ rest' ∧
      moved.flatten = (v.deedsBy settings k ts).flatMap Deed.batch ∧
      Hands base (done ++ moved) rest' w l' := by
  have hall := Live.run_of_step (P := fun done rest v => ∃ l, Hands base done rest v l)
    (D := fun _ => True) ?_ ⟨l, h⟩ hr hsmall
  · obtain ⟨-, moved, rest', he, hmoved, l', h'⟩ := hall
    exact ⟨moved, rest', l', he, hmoved, h'⟩
  · rintro done rest v w t sig ⟨l, h⟩ hs hn
    obtain ⟨moved, rest', l', he, hmoved, h'⟩ := h.step hk hs hn
    exact ⟨fun _ _ => trivial, moved, rest', he, hmoved, l', h'⟩

/-- **Nothing is acknowledged beyond what was handed over.** -/
theorem toNat_le_of_acknowledges (h : Hands base done rest v l) {n : UInt64}
    (ha : v.Acknowledges settings k t n) : n.toNat ≤ base.toNat + done.flatten.length := by
  obtain ⟨w, sig, hs, hsig⟩ := ha
  have hready : v.desk = .ready → ¬v.desk = .waiting .flush := by
    intro hd
    simp [hd]
  cases Live.steps_of_step h.link hs with
  | aside ht hb hd hn hm hdiscreet =>
    rcases hsig with hsig | ⟨hflush, -⟩
    · exact absurd hsig (hdiscreet n)
    · exact absurd hflush (hd .flush)
  | logged hd hg hm hdiscreet =>
    rcases hsig with hsig | ⟨hflush, -⟩
    · exact absurd hsig (hdiscreet n)
    · exact absurd hflush (hready hd)
  | @passed r notices hd hr =>
    rcases hsig with hsig | ⟨hflush, -⟩
    · cases r with
      | ok m =>
        cases List.mem_singleton.1 hsig
        exact h.bounded n (.notice (hr ▸ List.mem_cons_self))
      | error e => cases hsig
    · exact absurd hflush (hready hd)
  | sent hd =>
    rcases hsig with hsig | ⟨-, hsig⟩
    · cases hsig
    · cases hsig
  | @replied r e s desk a hd hr hn hm ha =>
    rcases hsig with hsig | ⟨hflush, hsig⟩
    · cases List.mem_singleton.1 hsig
    · obtain rfl : e = .flush := Desk.waiting.inj (hd.symm.trans hflush)
      have hseq : Answer.seq n = a := Signal.answer.inj (List.mem_singleton.1 hsig)
      rw [ha rfl] at hseq
      cases r with
      | ok m =>
        cases hseq
        exact h.bounded n (.reply hr)
      | error e => cases hseq
  | worked hl =>
    rcases hsig with hsig | ⟨-, hsig⟩
    · cases hsig
    · cases hsig
  | waited hl =>
    rcases hsig with hsig | ⟨-, hsig⟩
    · cases hsig
    · cases hsig

theorem start (k : Sink σ) (s : Session) (st : σ) :
    Hands ((k.latestSeq st).toOption.getD 0) [] [] (Live.start k s (some st))
      (Link.start k st) := by
  refine ⟨rfl, trivial, UInt64.toNat_lt _, (UInt64.add_zero _).symm, ⟨[], [], rfl, rfl, rfl⟩,
    by simp [Link.start, Writer.start, Phase.Loaded], fun n hn => ?_, rfl⟩
  cases hn with
  | durable hn => exact Nat.le_of_eq (congrArg UInt64.toNat hn.symm)
  | flushing hn => cases hn
  | reply hn => cases hn
  | notice hn => cases hn

end Hands

namespace Live

/-- **What an acknowledgement is worth.**  Every observation of the session up to an acknowledged
number was taken by the sink, or a snapshot that was written covers it, or it was handed to the
sink when the sink failed. -/
theorem kept_or_refused_of_acknowledged (hk : k.TellsLast) {s : Session} {st : σ} {ts : List Turn}
    {v : Live σ} {sig : List Signal}
    (hr : (Live.start k s (some st)).run settings k ts = some (v, sig))
    (hn : ((k.latestSeq st).toOption.getD 0).toNat +
      ((Live.start k s (some st)).broughtBy settings k ts).flatten.length < 2 ^ 64)
    {t : Turn} {n : UInt64} (ha : v.Acknowledges settings k t n) {o : Stored}
    (ho : o ∈ ((Live.start k s (some st)).broughtBy settings k ts).flatten) (hle : o.seq ≤ n) :
    o.IsKept ((Live.start k s (some st)).deedsBy settings k ts) ∨
      o.IsRefused ((Live.start k s (some st)).deedsBy settings k ts) := by
  obtain ⟨moved, rest, l, he, hmoved, h⟩ := (Hands.start k s st).run hk hr hn
  rw [List.nil_append] at he h
  rw [he, List.flatten_append] at ho
  have hfollows := h.follows
  have hsmall := h.small
  rw [List.flatten_append] at hfollows hsmall
  have hbound := h.toNat_le_of_acknowledges ha
  have hseq := UInt64.le_iff_toNat_le.1 hle
  have hmem : o ∈ moved.flatten := (hfollows.mem_iff hsmall ho).2 (by omega)
  rw [hmoved] at hmem
  exact Stored.kept_or_refused hmem

end Live

/-! ### A lost batch -/

/-- A sink that refuses the first batch that it is handed and takes all others; its state tells
whether it has refused one. -/
def Sink.balky : Sink Bool where
  append hasRefused batch :=
    (true, if hasRefused then .ok ((batch.getLast?.map Stored.seq).getD 0)
      else .error (.refused "disk full"))

theorem Sink.balky_tellsLast : balky.TellsLast := by
  intro s batch n hne ha
  cases s with
  | false => cases ha
  | true =>
    obtain rfl := Except.ok.inj ha
    refine ⟨batch.getLast hne, List.getLast_mem hne, ?_⟩
    rw [List.getLast?_eq_some_getLast hne]
    exact UInt64.le_refl _

/-- Two exchanges are logged and handed over, and then a flush is asked for and done. -/
def Turn.refusal : List Turn :=
  [.command (.log "K1AR" .zone 0), .writer, .writer, .command (.log "W1AW" .zone 0), .writer,
    .writer, .writer, .command .flush, .desk, .writer, .writer]

/-- What the first of the exchanges tells. -/
def Stored.lost : Stored :=
  ⟨1, 0, ⟨Callsign.normalize "K1AR", "ITUZONE", "8"⟩⟩

/-- What the second one tells. -/
def Stored.taken : Stored :=
  ⟨2, 0, ⟨Callsign.normalize "W1AW", "ITUZONE", "8"⟩⟩

namespace Live

theorem broughtBy_refusal : (start Sink.balky .bare (some false)).broughtBy .standard Sink.balky
    Turn.refusal = [[.lost], [.taken]] := rfl

theorem deedsBy_refusal : (start Sink.balky .bare (some false)).deedsBy .standard Sink.balky
    Turn.refusal = [.append [.lost] false, .append [.taken] true] := rfl

theorem acknowledges_refusal : ∃ v sig,
    (start Sink.balky .bare (some false)).run .standard Sink.balky Turn.refusal = some (v, sig) ∧
      v.Acknowledges .standard Sink.balky .desk 2 :=
  ⟨_, _, rfl, _, _, rfl, .inr ⟨rfl, List.mem_cons_self⟩⟩

theorem kept_or_refused_of_refusal : ∃ v sig,
    (start Sink.balky .bare (some false)).run .standard Sink.balky Turn.refusal = some (v, sig) ∧
      v.Acknowledges .standard Sink.balky .desk 2 ∧ Stored.lost.seq ≤ 2 ∧
      (Stored.lost.IsKept
          ((start Sink.balky .bare (some false)).deedsBy .standard Sink.balky Turn.refusal) ∨
        Stored.lost.IsRefused
          ((start Sink.balky .bare (some false)).deedsBy .standard Sink.balky Turn.refusal)) := by
  obtain ⟨v, sig, hr, ha⟩ := acknowledges_refusal
  have hle : Stored.lost.seq ≤ 2 := by decide
  refine ⟨v, sig, hr, ha, hle, kept_or_refused_of_acknowledged Sink.balky_tellsLast hr ?_ ha ?_ hle⟩
  · rw [broughtBy_refusal]
    decide
  · rw [broughtBy_refusal]
    exact List.mem_cons_self

/-- **An observation can be lost though a later number was acknowledged**: the flush is answered
with 2, but only the second of the two observations was ever taken, and there is no snapshot. -/
theorem not_kept_of_refusal : ∃ v sig,
    (start Sink.balky .bare (some false)).run .standard Sink.balky Turn.refusal = some (v, sig) ∧
      v.Acknowledges .standard Sink.balky .desk 2 ∧
      Stored.lost ∈ ((start Sink.balky .bare (some false)).broughtBy .standard Sink.balky
        Turn.refusal).flatten ∧ Stored.lost.seq ≤ 2 ∧
      ¬Stored.lost.IsKept
        ((start Sink.balky .bare (some false)).deedsBy .standard Sink.balky Turn.refusal) := by
  obtain ⟨v, sig, hr, ha⟩ := acknowledges_refusal
  refine ⟨v, sig, hr, ha, ?_, by decide, ?_⟩
  · rw [broughtBy_refusal]
    exact List.mem_cons_self
  · rw [deedsBy_refusal]
    rintro (⟨batch, hb, ho⟩ | ⟨s, hs, -⟩)
    · rcases List.mem_cons.1 hb with hb | hb
      · cases hb
      · obtain ⟨rfl, -⟩ := Deed.append.inj (List.mem_singleton.1 hb)
        have hseq := congrArg Stored.seq (List.mem_singleton.1 ho)
        exact absurd hseq (by decide)
    · simp at hs

end Live

end ContestExchange
