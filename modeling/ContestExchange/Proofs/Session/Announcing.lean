import ContestExchange.Proofs.Field.Changes
import ContestExchange.Proofs.Session.Learning
import ContestExchange.Proofs.Session.Recovery

/-!
# What is told of the fields

Whoever listens to a session can keep a catalogue of their own: they learn what is
told as learned, and they make a field a multiplier, or not one any more, when that
is told (`Catalogue.hear`).  Their catalogue follows the session's if they end up
with the same one, and if nothing is told that they know already
(`Catalogue.Announced`).

Every step tells enough and not too much in this sense, and so does every run,
whether there is a sink or not and whatever it does (`Live.announced_of_run`).  So
no value is told twice for a field, and what is told of a field as a multiplier
alternates (`Live.announces_of_run`).
-/

namespace ContestExchange

open Text

namespace Signal

def event? : Signal → Option Event
  | event e => some e
  | answer _ => none

end Signal

/-- The events among what is heard. -/
def eventsOf (sig : List Signal) : List Event :=
  sig.filterMap Signal.event?

@[simp]
theorem eventsOf_append (sig sig' : List Signal) :
    eventsOf (sig ++ sig') = eventsOf sig ++ eventsOf sig' :=
  List.filterMap_append

@[simp]
theorem eventsOf_map_event (l : List Event) : eventsOf (l.map Signal.event) = l := by
  induction l with
  | nil => rfl
  | cons e r ih => exact congrArg (e :: ·) ih

@[simp]
theorem eventsOf_answer (a : Answer) : eventsOf [.answer a] = [] := rfl

namespace Event

/-- Whether it tells that the fields change. -/
def isChange : Event → Bool
  | learned _ _ => true
  | multChanged _ _ => true
  | _ => false

/-- The value that a field has learned. -/
def learnedBy? (field : String) : Event → Option String
  | learned f v => if f = field then some v else none
  | _ => none

/-- Whether a field is a multiplier from now on. -/
def multOf? (field : String) : Event → Option Bool
  | multChanged f b => if f = field then some b else none
  | _ => none

variable {e : Event} {field v : String} {b : Bool}

theorem learnedBy?_eq_some (h : e.learnedBy? field = some v) : e = .learned field v := by
  cases e with
  | learned f w =>
    rw [learnedBy?, Option.ite_none_right_eq_some] at h
    obtain ⟨rfl, hw⟩ := h
    rw [Option.some.inj hw]
  | multChanged | parsed | tooFewTokens | unparseable | correctedCall | durable => cases h

theorem multOf?_eq_some (h : e.multOf? field = some b) : e = .multChanged field b := by
  cases e with
  | multChanged f b' =>
    rw [multOf?, Option.ite_none_right_eq_some] at h
    obtain ⟨rfl, hb⟩ := h
    rw [Option.some.inj hb]
  | learned | parsed | tooFewTokens | unparseable | correctedCall | durable => cases h

end Event

namespace Catalogue

variable {c d d' : Catalogue} {e : Event} {l m : List Event} {field v w : String} {b : Bool}

/-- What a listener makes of an event. -/
def hear (c : Catalogue) : Event → Catalogue
  | .learned field v => (c.learn field v).1
  | .multChanged field b => (c.setMult field b).1
  | _ => c

/-- The events lead from one catalogue to another, and each one that tells of a change tells
something new. -/
inductive Announced : Catalogue → List Event → Catalogue → Prop
  | nil (c : Catalogue) : Announced c [] c
  | cons {c d : Catalogue} {e : Event} {l : List Event}
    (hnew : e.isChange = true → c.hear e ≠ c) (hl : Announced (c.hear e) l d) :
    Announced c (e :: l) d

theorem hear_eq_self (h : e.isChange = false) (c : Catalogue) : c.hear e = c := by
  cases e with
  | learned | multChanged => cases h
  | parsed | tooFewTokens | unparseable | correctedCall | durable => rfl

theorem hear_learned_ne (h : (c.learn field v).2 = true) : c.hear (.learned field v) ≠ c := by
  intro he
  obtain ⟨hbefore, hafter⟩ := accepts_of_learned h
  exact hbefore (he ▸ hafter)

theorem learned_of_hear_ne (h : c.hear (.learned field v) ≠ c) : (c.learn field v).2 = true := by
  by_contra hb
  exact h (learn_eq_self (Bool.not_eq_true _ ▸ hb))

theorem hear_multChanged_ne (h : (c.field? field).any (·.isMult != b) = true) :
    c.hear (.multChanged field b) ≠ c := by
  intro he
  have hfield := c.field?_setMult field b field
  rw [show (c.setMult field b).1 = c from he, if_pos rfl] at hfield
  cases hf : c.field? field with
  | none =>
    rw [hf] at h
    cases h
  | some f =>
    rw [hf, Option.map_some] at hfield
    have hmult : f.isMult = b := congrArg Field.isMult (Option.some.inj hfield)
    rw [hf, Option.any_some, hmult, bne_self_eq_false] at h
    cases h

namespace Announced

theorem foldl_hear (h : Announced c l d) : l.foldl hear c = d := by
  induction h with
  | nil c => rfl
  | cons hnew hl ih => exact ih

theorem append (h : Announced c l d) (h' : Announced d m d') : Announced c (l ++ m) d' := by
  induction h with
  | nil c => exact h'
  | cons hnew hl ih => exact .cons hnew (ih h')

theorem quiet (h : ∀ e ∈ l, e.isChange = false) (c : Catalogue) : Announced c l c := by
  induction l with
  | nil => exact .nil c
  | cons e r ih =>
    have he := h e List.mem_cons_self
    refine .cons (fun hc => ?_) ?_
    · rw [he] at hc
      cases hc
    · rw [hear_eq_self he]
      exact ih fun e' he' => h e' (List.mem_cons_of_mem e he')

/-- **What is told changes the catalogue at its place.** -/
theorem hear_ne (h : Announced c (l ++ e :: m) d) (he : e.isChange = true) :
    (l.foldl hear c).hear e ≠ l.foldl hear c := by
  induction l generalizing c with
  | nil =>
    cases h with
    | cons hnew hl => exact hnew he
  | cons e' r ih =>
    cases h with
    | cons hnew hl => exact ih hl

end Announced

/-! ### Values are told once -/

theorem Accepts.hear (h : c.Accepts field v) (e : Event) : (c.hear e).Accepts field v := by
  cases e with
  | learned f w => exact h.learn f w
  | multChanged f b => exact h.setMult f b
  | parsed | tooFewTokens | unparseable | correctedCall | durable => exact h

theorem Announced.not_accepts (h : Announced c l d) :
    ∀ v ∈ l.filterMap (Event.learnedBy? field), ¬c.Accepts field v := by
  induction h with
  | nil c => exact fun v hv => absurd hv List.not_mem_nil
  | @cons c d e l hnew hl ih =>
    intro v hv hacc
    obtain ⟨e', he', hv'⟩ := List.mem_filterMap.1 hv
    rcases List.mem_cons.1 he' with rfl | he'
    · obtain rfl := Event.learnedBy?_eq_some hv'
      exact (accepts_of_learned (learned_of_hear_ne (hnew rfl))).1 hacc
    · exact ih v (List.mem_filterMap.2 ⟨e', he', hv'⟩) (hacc.hear e)

/-- **No value is told twice** for a field, not even with other blanks around it. -/
theorem Announced.nodup_learned (h : Announced c l d) (field : String) :
    ((l.filterMap (Event.learnedBy? field)).map trim).Nodup := by
  induction h with
  | nil c => exact List.nodup_nil
  | @cons c d e l hnew hl ih =>
    rw [List.filterMap_cons]
    split
    · exact ih
    · rename_i v hv
      obtain rfl := Event.learnedBy?_eq_some hv
      rw [List.map_cons, List.nodup_cons]
      refine ⟨fun hmem => ?_, ih⟩
      obtain ⟨w, hw, htrim⟩ := List.mem_map.1 hmem
      have hacc := (accepts_of_learned (learned_of_hear_ne (hnew rfl))).2
      rw [Accepts, ← htrim] at hacc
      exact hl.not_accepts w hw hacc

/-! ### Multipliers alternate -/

/-- Whether a field is a multiplier, if there is the field. -/
def mult? (c : Catalogue) (field : String) : Option Bool :=
  (c.field? field).map Field.isMult

theorem mult?_hear_of_none (h : e.multOf? field = none) (c : Catalogue) :
    (c.hear e).mult? field = c.mult? field := by
  cases e with
  | learned f v =>
    rw [hear, mult?, field?_learn]
    split
    · rename_i hf
      rw [mult?, hf, Option.map_map]
      rfl
    · rfl
  | multChanged f b =>
    rw [Event.multOf?, ite_eq_right_iff] at h
    have hne : field ≠ f := fun hf => absurd (h hf.symm) (Option.some_ne_none b)
    rw [hear, mult?, field?_setMult, if_neg hne, mult?]
  | parsed | tooFewTokens | unparseable | correctedCall | durable => rfl

theorem mult?_hear_multChanged (c : Catalogue) (field : String) (b : Bool) :
    (c.hear (.multChanged field b)).mult? field = (c.mult? field).map fun _ => b := by
  rw [hear, mult?, field?_setMult, if_pos rfl, mult?, Option.map_map, Option.map_map]
  rfl

/-- Where it tells something new, the field is there, and is not yet what is told. -/
theorem mult?_of_hear_ne (h : c.hear (.multChanged field b) ≠ c) :
    c.mult? field = some !b := by
  by_contra hne
  refine h (setMult_eq_self fun f hf => ?_)
  rw [mult?, hf, Option.map_some, Option.some.injEq] at hne
  simpa using hne

/-- **What is told of a field as a multiplier alternates**, from what the field is at first. -/
theorem Announced.isChain_mults (h : Announced c l d) (field : String) :
    ((c.mult? field).toList ++ l.filterMap (Event.multOf? field)).IsChain (· ≠ ·) := by
  induction h with
  | nil c => cases c.mult? field <;> simp
  | @cons c d e l hnew hl ih =>
    cases hb : e.multOf? field with
    | none =>
      rw [List.filterMap_cons_none hb]
      rw [mult?_hear_of_none hb] at ih
      exact ih
    | some b =>
      rw [List.filterMap_cons_some hb]
      obtain rfl := Event.multOf?_eq_some hb
      have hmult := mult?_of_hear_ne (hnew rfl)
      rw [mult?_hear_multChanged, hmult] at ih
      rw [hmult]
      exact List.isChain_cons_cons.2 ⟨by simp, ih⟩

end Catalogue

/-! ### Sessions -/

namespace Session

open Catalogue

theorem isChange_parseEvents (r : Except SessionError Exchange) :
    ∀ e ∈ parseEvents r, e.isChange = false := by
  intro e he
  cases r with
  | ok x =>
    simp only [parseEvents, List.append_assoc, List.mem_append, List.mem_map,
      List.mem_singleton] at he
    rcases he with ⟨call, -, rfl⟩ | he | rfl
    · rfl
    · split at he
      · cases he
      · rw [List.mem_singleton.1 he]
        rfl
    · rfl
  | error err =>
    rw [parseEvents.eq_def] at he
    split at he
    · contradiction
    · rw [List.mem_singleton.1 he]
      rfl
    · cases he

theorem announced_learn (s : Session) (field value : String) :
    Announced s.catalogue (learnEvents field value (s.learn field value).2)
      (s.learn field value).1.catalogue := by
  cases hb : (s.learn field value).2 with
  | true => exact .cons (fun _ => hear_learned_ne hb) (.nil _)
  | false =>
    rw [show (s.learn field value).1.catalogue = s.catalogue from learn_eq_self hb]
    exact .nil _

theorem announced_learnEntries (s : Session) (l : List Entry) :
    Announced s.catalogue (s.learnEntries l).2 (s.learnEntries l).1.catalogue := by
  induction l generalizing s with
  | nil => exact .nil _
  | cons e r ih => exact (s.announced_learn e.field e.value).append (ih _)

theorem announced_setMult (s : Session) (field : String) (b : Bool) :
    Announced s.catalogue (s.multEvents field b) (s.setMult field b).1.catalogue := by
  rw [multEvents]
  by_cases h : (s.catalogue.field? field).any (·.isMult != b) = true
  · rw [if_pos h]
    exact .cons (fun _ => hear_multChanged_ne h) (.nil _)
  · rw [if_neg h]
    have hsame : (s.setMult field b).1.catalogue = s.catalogue := by
      refine setMult_eq_self fun f hf => ?_
      rw [hf, Option.any_some] at h
      simpa using h
    rw [hsame]
    exact .nil _

theorem announced_log {s : Session} {settings : Settings} {outlet : Outlet} {call : String}
    {x : Exchange} {time : UInt64} {g : Logged} (h : s.log settings outlet call x time = .ok g) :
    Announced s.catalogue g.events g.session.catalogue := by
  rw [log] at h
  split at h
  · cases h
  · rename_i x' _
    split at h
    · cases h
    · obtain rfl := Except.ok.inj h
      refine Announced.append ?_ (.quiet ?_ _)
      · cases settings.learnMultValues with
        | false => exact .nil _
        | true => exact s.announced_learnEntries x'.mults
      · intro e he
        split at he
        · rw [List.mem_singleton.1 he]
          rfl
        · cases he

end Session

namespace Live

open Catalogue

variable {σ : Type} {k : Sink σ} {settings : Settings} {v w : Live σ} {t : Turn}
  {ts : List Turn} {sig : List Signal}

theorem announced_logged (v : Live σ) (settings : Settings) {g : Logged}
    (h : Announced v.session.catalogue g.events g.session.catalogue) :
    Announced v.session.catalogue (eventsOf (v.logged settings g).2)
      (v.logged settings g).1.session.catalogue := by
  rw [logged]
  cases v.link with
  | none => simpa using h
  | some l => by_cases hdue : g.session.snapshotDue settings = true <;> simpa [hdue] using h

theorem announced_request (v : Live σ) (m : Message) (e : Awaited) (a : Answer) :
    Announced v.session.catalogue (eventsOf (v.request m e a).2)
      (v.request m e a).1.session.catalogue := by
  rw [request]
  split <;> exact .nil _

theorem announced_carryOut (v : Live σ) (settings : Settings) (c : Command) :
    Announced v.session.catalogue (eventsOf (v.carryOut settings c).2)
      (v.carryOut settings c).1.session.catalogue := by
  cases c with
  | parse text country mode =>
    simp only [carryOut, eventsOf_append, eventsOf_map_event, eventsOf_answer, List.append_nil]
    exact .quiet (Session.isChange_parseEvents _) _
  | log call x time =>
    rw [carryOut]
    split
    · exact .nil _
    · rename_i g hg
      exact announced_logged v settings (Session.announced_log hg)
  | learn field value =>
    simp only [carryOut, eventsOf_append, eventsOf_map_event, eventsOf_answer, List.append_nil]
    exact v.session.announced_learn field value
  | setMult field b =>
    simp only [carryOut, eventsOf_append, eventsOf_map_event, eventsOf_answer, List.append_nil]
    exact v.session.announced_setMult field b
  | flush => exact v.announced_request _ _ _
  | checkpoint => exact v.announced_request _ _ _
  | shutdown =>
    rw [carryOut]
    split <;> exact .nil _

theorem announced_deskTurn {l : Link σ} (h : DeskTurns settings v l w sig) :
    Announced v.session.catalogue (eventsOf sig) w.session.catalogue := by
  cases h with
  | @passed r notices hd hr =>
    cases r with
    | ok n => exact .cons (fun hc => by cases hc) (.nil _)
    | error e => exact .nil _
  | @deserted m e hd ho => cases e <;> exact .nil _
  | sent => exact .nil _
  | @heard e r hd hr => cases e <;> exact .nil _

/-- **Every step tells how the fields change**, if they do. -/
theorem announced_of_step (h : v.step settings k t = some (w, sig)) :
    Announced v.session.catalogue (eventsOf sig) w.session.catalogue := by
  cases turns_of_step h with
  | carriedOut hd c => exact v.announced_carryOut settings c
  | desk _ hdesk => exact announced_deskTurn hdesk
  | refused | writer | timer | left => exact .nil _

/-- **Every run tells how the fields change.** -/
theorem announced_of_run (h : v.run settings k ts = some (w, sig)) :
    Announced v.session.catalogue (eventsOf sig) w.session.catalogue := by
  induction ts generalizing v sig with
  | nil =>
    obtain ⟨rfl, rfl⟩ := Prod.mk.inj (Option.some.inj h)
    exact .nil _
  | cons t ts ih =>
    obtain ⟨u, s, s', hs, hr, rfl⟩ := run_cons_split h
    rw [eventsOf_append]
    exact (announced_of_step hs).append (ih hr)

/-! ### What is told and what is answered -/

/-- What is told between two states of a session is all that changes about the fields meanwhile,
and nothing else. -/
structure Announces (settings : Settings) (k : Sink σ) (v w : Live σ) (sig : List Signal) :
    Prop where
  /-- A listener who starts with the same fields ends up with the same fields. -/
  complete : (eventsOf sig).foldl hear v.session.catalogue = w.session.catalogue
  /-- Whatever is told changes the fields at its place. -/
  news : ∀ before e after, eventsOf sig = before ++ e :: after → e.isChange = true →
    (before.foldl hear v.session.catalogue).hear e ≠ before.foldl hear v.session.catalogue
  /-- No value is told twice for a field, not even with other blanks around it. -/
  once : ∀ field, (((eventsOf sig).filterMap (Event.learnedBy? field)).map trim).Nodup
  /-- What is told of a field as a multiplier alternates. -/
  alternates : ∀ field, ((eventsOf sig).filterMap (Event.multOf? field)).IsChain (· ≠ ·)
  /-- A value is answered to be new if and only if it is told. -/
  answers_learn : w.desk = .ready → ∀ field value,
    ∃ (u : Live σ) (l : List Event) (b : Bool),
      w.step settings k (.command (.learn field value)) =
          some (u, l.map Signal.event ++ [.answer (.flag b)]) ∧
        (b = true ↔ l = [.learned field value]) ∧ (b = false ↔ l = [])
  /-- The answer about a multiplier tells whether there is the field. -/
  answers_setMult : w.desk = .ready → ∀ field m,
    ∃ (u : Live σ) (l : List Event) (b : Bool),
      w.step settings k (.command (.setMult field m)) =
          some (u, l.map Signal.event ++ [.answer (.flag b)]) ∧
        (b = true ↔ field ∈ w.session.catalogue.names)

/-- **What a run tells of the fields is all that changes about them, and nothing else.** -/
theorem announces_of_run (h : v.run settings k ts = some (w, sig)) :
    Announces settings k v w sig where
  complete := (announced_of_run h).foldl_hear
  news before e after he hc := by
    have hall := announced_of_run h
    rw [he] at hall
    exact hall.hear_ne hc
  once := (announced_of_run h).nodup_learned
  alternates field := (List.isChain_append.1 ((announced_of_run h).isChain_mults field)).2.1
  answers_learn hd field value := by
    rw [step, hd]
    refine ⟨_, _, _, rfl, ?_⟩
    cases (w.session.learn field value).2 <;> simp [Session.learnEvents]
  answers_setMult hd field m := by
    rw [step, hd]
    refine ⟨_, _, _, rfl, ?_⟩
    rw [mem_names_iff, ← told_setMult w.session.catalogue field m]
    rfl

end Live

/-- The age 51 is learned, and learned again; the ages are multipliers no more, twice, and then
they are again; a field that is not there is made a multiplier. -/
def Turn.teaching : List Turn :=
  [.command (.learn "AGE" " 51 "), .command (.learn "AGE" "51"), .command (.setMult "AGE" false),
    .command (.setMult "AGE" false), .command (.setMult "AGE" true),
    .command (.setMult "ZONE" true)]

/-- Of the six commands three change the fields. -/
theorem Live.announces_of_teaching :
    let v := Live.start Journal.sink ⟨Session.ages, fun _ _ => none, .ofSources .empty, 0, 0⟩ none
    ∃ w sig, v.run .standard Journal.sink Turn.teaching = some (w, sig) ∧
      eventsOf sig = [.learned "AGE" " 51 ", .multChanged "AGE" false, .multChanged "AGE" true] ∧
      Announces .standard Journal.sink v w sig := by
  intro v
  have hr : v.run .standard Journal.sink Turn.teaching = some (_, _) := rfl
  exact ⟨_, _, hr, by decide +kernel, announces_of_run hr⟩

end ContestExchange
