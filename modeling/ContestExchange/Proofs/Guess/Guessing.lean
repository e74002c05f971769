import ContestExchange.Guess.Book
import ContestExchange.Proofs.Field.Groups
import ContestExchange.Proofs.Guess.Rules

/-!
# What guesses are

A guess is made from one text (`Sources.Says`): the expected value, or else what the first clue
of the field's rule tells that is not silent.  A clue is silent if nothing is known there but
blanks (`Clue.IsSilent`), while an expected value counts even if it is blank, and then nothing is
guessed.

The text is brought into the form of the field.  If the field takes it, the guess is a canonical
form and stands for itself; otherwise it is the text, trimmed and with its letters raised, which
the field does not take (`guess_canonical_or_raw`).
-/

namespace ContestExchange

open Text

namespace Sources

variable {s : Sources} {c : Catalogue} {call field v : String}

/-- What a clue tells about the station with a normal callsign. -/
def tells? (s : Sources) (call : String) (q : Clue) : Option String :=
  q.tells? (s.record? call) (s.zone? · call)

/-- Nothing but blanks is known there. -/
def IsSilent (s : Sources) (call : String) (q : Clue) : Prop :=
  q.IsSilent (s.record? call) (s.zone? · call)

/-- The text that a guess is made from: what is expected, or else what the first clue of the
field's rule tells that is not silent. -/
inductive Says (s : Sources) (call field : String) : String → Prop
  | expected {v : String} (h : s.prefill.get? field call = some v) : Says s call field v
  | told {rule : GuessRule} {before after : List Clue} {q : Clue} {v : String}
      (hprefill : s.prefill.get? field call = none) (hrule : GuessRule.of? field = some rule)
      (hclues : rule.clues = before ++ q :: after)
      (hbefore : ∀ p ∈ before, s.IsSilent call p) (h : s.tells? call q = some v) :
      Says s call field v

/-- Nothing is expected, and every clue of the field's rule is silent. -/
def SaysNothing (s : Sources) (call field : String) : Prop :=
  s.prefill.get? field call = none ∧
    ∀ rule, GuessRule.of? field = some rule → ∀ q ∈ rule.clues, s.IsSilent call q

theorem raw?_of_expected (h : s.prefill.get? field call = some v) : s.raw? call field = some v := by
  rw [raw?, h]

theorem raw?_of_not_expected (h : s.prefill.get? field call = none) :
    s.raw? call field = (GuessRule.of? field).bind fun r => r.clues.findSome? (s.tells? call) := by
  rw [raw?, h]
  exact Option.bind_congr fun r _ => r.evaluate_eq_findSome? _ _

theorem raw?_eq_some_iff : s.raw? call field = some v ↔ s.Says call field v := by
  constructor
  · intro h
    cases hp : s.prefill.get? field call with
    | some w =>
      rw [raw?_of_expected hp] at h
      obtain rfl := Option.some.inj h
      exact .expected hp
    | none =>
      rw [raw?_of_not_expected hp, Option.bind_eq_some_iff] at h
      obtain ⟨rule, hrule, hfirst⟩ := h
      obtain ⟨before, q, after, hclues, hv, hbefore⟩ := List.findSome?_eq_some_iff.1 hfirst
      exact .told hp hrule hclues (fun p hp => Clue.tells?_eq_none_iff.1 (hbefore p hp)) hv
  · rintro (hp | ⟨hp, hrule, hclues, hbefore, hv⟩)
    · exact raw?_of_expected hp
    · rw [raw?_of_not_expected hp, hrule, Option.bind_some, List.findSome?_eq_some_iff]
      exact ⟨_, _, _, hclues, hv, fun p hp => Clue.tells?_eq_none_iff.2 (hbefore p hp)⟩

theorem raw?_eq_none_iff : s.raw? call field = none ↔ s.SaysNothing call field := by
  cases hp : s.prefill.get? field call with
  | some w =>
    rw [raw?_of_expected hp, SaysNothing, hp]
    simp
  | none =>
    rw [raw?_of_not_expected hp, SaysNothing, Option.bind_eq_none_iff]
    simp only [hp, true_and, List.findSome?_eq_none_iff]
    exact forall₄_congr fun _ _ q _ => Clue.tells?_eq_none_iff

theorem guess_of_raw? (h : s.raw? call field = some v) (c : Catalogue) :
    s.guess c call field = (c.canonical? field (upper (trim v))).getD (upper (trim v)) := by
  rw [guess, h]

theorem guess_eq_empty_iff (hc : c.Built) : s.guess c call field = "" ↔
    (∃ v, s.prefill.get? field call = some v ∧ trim v = "") ∨ s.SaysNothing call field := by
  constructor
  · intro h
    cases hraw : s.raw? call field with
    | none => exact .inr (raw?_eq_none_iff.1 hraw)
    | some v =>
      rw [guess_of_raw? hraw] at h
      have hblank : trim v = "" := by
        cases hw : c.canonical? field (upper (trim v)) with
        | none => exact upper_eq_empty_iff.1 (by rwa [hw] at h)
        | some w =>
          rw [hw, Option.getD_some] at h
          exact upper_eq_empty_iff.1 ((Catalogue.canonical?_eq_empty_iff hc hw).1 h)
      rcases raw?_eq_some_iff.1 hraw with hp | ⟨-, -, -, -, hv⟩
      · exact .inl ⟨v, hp, hblank⟩
      · -- no clue tells a blank text
        obtain ⟨htrim, hne⟩ := Clue.trim_of_tells? hv
        exact absurd (htrim.symm.trans hblank) hne
  · rintro (⟨v, hp, hblank⟩ | hnone)
    · rw [guess_of_raw? (raw?_of_expected hp), hblank, upper_empty]
      cases hw : c.canonical? field "" with
      | none => rfl
      | some w => exact (Catalogue.canonical?_eq_empty_iff hc hw).2 rfl
    · rw [guess, raw?_eq_none_iff.2 hnone]

/-- What is guessed from a text is a canonical form, or the text itself where the field does not
take it. -/
theorem guess_cases (hc : c.Built) {id : Nat} (hk : c.kind? field = some (.single id))
    (h : s.Says call field v) :
    (c.canonical? field (upper (trim v)) = some (s.guess c call field) ∧
        c.canonical? field (s.guess c call field) = some (s.guess c call field)) ∨
      (s.guess c call field = upper (trim v) ∧
        c.canonical? field (s.guess c call field) = none) := by
  rw [guess_of_raw? (raw?_eq_some_iff.2 h)]
  cases hw : c.canonical? field (upper (trim v)) with
  | some w => exact .inl ⟨rfl, Catalogue.canonical?_self hc hk hw⟩
  | none => exact .inr ⟨rfl, hw⟩

theorem guess_congr {s' : Sources} (h : s.raw? call field = s'.raw? call field) (c : Catalogue) :
    s.guess c call field = s'.guess c call field := by
  rw [guess, guess, h]

end Sources

/-! ### Zones -/

namespace ZoneKind

/-- The field in which the zone is sent. -/
def field : ZoneKind → String
  | cq => "CQZONE"
  | itu => "ITUZONE"

/-- The attribute under which a record holds it. -/
def recordedAs : ZoneKind → Attribute
  | cq => .cqZone
  | itu => .ituZone

theorem of?_field (k : ZoneKind) : GuessRule.of? k.field = some (.knownOrZone k.recordedAs k) := by
  cases k <;> rfl

end ZoneKind

namespace Sources

variable {s : Sources} {c : Catalogue} {call v : String} {k : ZoneKind}

theorem raw?_zone (h : s.prefill.get? k.field call = none) :
    s.raw? call k.field =
      (s.tells? call (.recorded k.recordedAs)).or (s.tells? call (.zone k)) := by
  rw [raw?_of_not_expected h, k.of?_field, Option.bind_some, GuessRule.clues,
    List.findSome?_cons, List.findSome?_cons, List.findSome?_nil]
  cases s.tells? call (.recorded k.recordedAs) with
  | some v => rfl
  | none => cases s.tells? call (.zone k) <;> rfl

theorem guess_zone_of_not_isSilent (h : s.prefill.get? k.field call = none)
    (hr : ¬s.IsSilent call (.recorded k.recordedAs))
    (zone? : ZoneKind → String → Option UInt32) (c : Catalogue) :
    Sources.guess { s with zone? } c call k.field = s.guess c call k.field := by
  obtain ⟨v, hv⟩ := Option.ne_none_iff_exists'.1 (mt Clue.tells?_eq_none_iff.1 hr)
  have hv' : Sources.tells? { s with zone? } call (.recorded k.recordedAs) = some v := hv
  have hs : s.tells? call (.recorded k.recordedAs) = some v := hv
  apply guess_congr
  rw [raw?_zone h, raw?_zone (s := { s with zone? }) h, hv', hs, Option.some_or, Option.some_or]

theorem says_zone_of_isSilent (h : s.prefill.get? k.field call = none)
    (hr : s.IsSilent call (.recorded k.recordedAs)) :
    s.Says call k.field v ↔ s.tells? call (.zone k) = some v := by
  have hnone : s.tells? call (.recorded k.recordedAs) = none := Clue.tells?_eq_none_iff.2 hr
  rw [← raw?_eq_some_iff, raw?_zone h, hnone, Option.none_or]

end Sources

/-! ### The main result -/

namespace Book

variable {b : Book} {c : Catalogue} {call field : String}

theorem guess_of_get?_eq_none (h : b.notes.get? (Callsign.normalize call, field) = none)
    (c : Catalogue) :
    (b.guess c call field).2 = b.sources.guess c (Callsign.normalize call) field := by
  rw [guess, h]

/-- **A guess is canonical or openly unrecognized.**  A guess that is made anew for a field is
empty just if a blank value is expected, or if none is expected and every clue of the field's rule
is silent.  Otherwise it is a canonical form, which stands for itself, or the text that it is made
from, trimmed and in capitals, which the field does not take.  An expected value decides alone,
whatever else is known; without one, the zone that a callsign tells counts only if the record has
none. -/
theorem guess_canonical_or_raw (hc : c.Built) (hfield : field ∈ c.names)
    (hnew : b.notes.get? (Callsign.normalize call, field) = none) :
    let station := Callsign.normalize call
    let s := b.sources
    let r := (b.guess c call field).2
    (r = "" ↔ (∃ v, s.prefill.get? field station = some v ∧ trim v = "") ∨
      s.SaysNothing station field) ∧
    (r ≠ "" → ∃ v, s.Says station field v ∧
      (c.canonical? field (upper (trim v)) = some r ∧ c.canonical? field r = some r ∨
        r = upper (trim v) ∧ c.canonical? field r = none)) ∧
    (∀ v, s.prefill.get? field station = some v → s.Says station field v ∧
      ∀ s' : Sources, s'.prefill.get? field station = some v →
        ({ b with sources := s' }.guess c call field).2 = r) ∧
    ∀ k : ZoneKind, field = k.field → s.prefill.get? field station = none →
      (¬s.IsSilent station (.recorded k.recordedAs) → ∀ zone?,
        ({ b with sources := { s with zone? } }.guess c call field).2 = r) ∧
      (s.IsSilent station (.recorded k.recordedAs) →
        ∀ v, s.Says station field v ↔ s.tells? station (.zone k) = some v) := by
  intro station s r
  have hr : r = s.guess c station field := guess_of_get?_eq_none hnew c
  have hother (s' : Sources) : ({ b with sources := s' }.guess c call field).2 =
      s'.guess c station field := guess_of_get?_eq_none (b := { b with sources := s' }) hnew c
  obtain ⟨i, hi⟩ : ∃ i, c.id? field = some i := by
    obtain ⟨i, hi⟩ := List.mem_iff_getElem?.1 hfield
    exact ⟨i, Catalogue.id?_eq_some_iff.2 hi⟩
  have hk : c.kind? field = some (.single i) := by rw [Catalogue.kind?, hi]
  refine ⟨?_, fun hne => ?_, fun v hv => ⟨.expected hv, fun s' hv' => ?_⟩, ?_⟩
  · rw [hr]
    exact Sources.guess_eq_empty_iff hc
  · cases hraw : s.raw? station field with
    | none =>
      rw [hr, Sources.guess, hraw] at hne
      exact absurd rfl hne
    | some v =>
      have hv := Sources.raw?_eq_some_iff.1 hraw
      rw [hr]
      exact ⟨v, hv, Sources.guess_cases hc hk hv⟩
  · rw [hother, hr]
    exact Sources.guess_congr
      ((Sources.raw?_of_expected hv').trans (Sources.raw?_of_expected hv).symm) c
  · rintro k rfl hp
    refine ⟨fun hsilent zone? => ?_, fun hsilent v => Sources.says_zone_of_isSilent hp hsilent⟩
    rw [hother, hr]
    exact Sources.guess_zone_of_not_isSilent hp hsilent zone? c

/-- The zone is known under another name; the zone that the callsign tells does not matter. -/
theorem guess_canonical_or_raw_zone :
    let c := (Catalogue.empty.insert (Catalogue.twoNames "CQZONE" "5" "FIVE")).1
    let r : StationRecord := ⟨"K1AR", .ofList [(.cqZone, " five ")]⟩
    let b := ofSources ⟨fun _ => some r, fun _ _ => some 4, .empty⟩
    (b.guess c "k1ar" "CQZONE").2 = "5" ∧ c.canonical? "CQZONE" "5" = some "5" ∧
      ∀ zone?, (guess { b with sources := { b.sources with zone? } } c "k1ar" "CQZONE").2 = "5" := by
  intro c r b
  have hc : c.Built := .insert .empty (Catalogue.reached_twoNames _ _ _)
  have hguess : (b.guess c "k1ar" "CQZONE").2 = "5" := by decide +kernel
  have hfield : "CQZONE" ∈ c.names := by decide +kernel
  have hnew : b.notes.get? (Callsign.normalize "k1ar", "CQZONE") = none := rfl
  obtain ⟨-, hmade, -, hzone⟩ := guess_canonical_or_raw hc hfield hnew
  obtain ⟨hshown, -⟩ := hzone .cq rfl rfl
  refine ⟨hguess, ?_, fun zone? => (hshown (fun hsilent => ?_) zone?).trans hguess⟩
  · rcases hmade (hguess ▸ by decide) with ⟨v, -, ⟨-, hself⟩ | ⟨-, hnone⟩⟩
    · exact hguess ▸ hself
    · exact absurd (hguess ▸ hnone) (by decide +kernel)
  · exact absurd (hsilent r rfl " five " rfl) (by decide)

end Book

end ContestExchange
