import ContestExchange.Proofs.Guess.Zones

/-!
# Suffixes of callsigns

What an operator sends behind a stroke about the way of operating, as in `G4ABC/P`, has no
digit in it and tells nothing about the place.  Neither does it where the callsign has a
stroke already: a listed start that holds no stroke does not reach the suffix
(`zonesOf?_withSuffix`), and the part that counts is looked for at the first stroke, in
front of the suffix.

But the suffix makes the part behind that stroke longer.  If that part counts because it is
the shorter one, it may be the shorter one no more (`Callsign.Outgrows`), and then the part
in front of the stroke counts instead.  In all other callsigns a suffix changes nothing
(`zone?_withSuffix`).
-/

namespace ContestExchange

open Text

/-! ### Callsigns with a suffix -/

namespace Callsign

def withSuffix (call suffix : String) : String :=
  call ++ "/" ++ suffix

/-- A text about the way of operating, such as `P`, `M` or `QRP`. -/
structure IsSuffix (s : String) : Prop where
  no_digit : ∀ c ∈ s.toList, c.isDigit = false
  no_stroke : '/' ∉ s.toList

/-- The part behind the stroke counts, as the shorter one with a digit in it, but with the suffix
it is not the shorter one. -/
structure Outgrows (left right suffix : String) : Prop where
  shorter : right.utf8ByteSize < left.utf8ByteSize
  digit : ∃ d ∈ right.toList, d.isDigit = true
  outgrown : left.utf8ByteSize ≤ (withSuffix right suffix).utf8ByteSize

variable {call suffix left right : String}

theorem toList_withSuffix (call suffix : String) :
    (withSuffix call suffix).toList = call.toList ++ '/' :: suffix.toList := by
  rw [withSuffix, String.toList_append, String.toList_append, List.append_assoc]
  rfl

theorem utf8ByteSize_lt_withSuffix (call suffix : String) :
    call.utf8ByteSize < (withSuffix call suffix).utf8ByteSize := by
  have hstroke : ("/" : String).utf8ByteSize = 1 := rfl
  rw [withSuffix, String.utf8ByteSize_append, String.utf8ByteSize_append, hstroke]
  omega

theorem exists_digit_withSuffix_iff (hs : IsSuffix suffix) :
    (∃ d ∈ (withSuffix right suffix).toList, d.isDigit = true) ↔
      ∃ d ∈ right.toList, d.isDigit = true := by
  rw [toList_withSuffix]
  constructor
  · rintro ⟨d, hd, hdigit⟩
    rcases List.mem_append.1 hd with hd | hd
    · exact ⟨d, hd, hdigit⟩
    · rcases List.mem_cons.1 hd with rfl | hd
      · exact absurd hdigit (by decide)
      · rw [hs.no_digit d hd] at hdigit
        cases hdigit
  · rintro ⟨d, hd, hdigit⟩
    exact ⟨d, List.mem_append_left _ hd, hdigit⟩

/-- Where there is no stroke yet, the suffix does not count. -/
theorem locatedPart_withSuffix_of_not_mem (hs : IsSuffix suffix) (h : '/' ∉ call.toList) :
    locatedPart (withSuffix call suffix) = call := by
  refine (locatedPart_of_stroke h (toList_withSuffix call suffix)).2 ?_
  rintro ⟨-, d, hd, hdigit⟩
  rw [hs.no_digit d hd] at hdigit
  cases hdigit

theorem toList_withSuffix_of_stroke (h : call.toList = left.toList ++ '/' :: right.toList)
    (suffix : String) :
    (withSuffix call suffix).toList = left.toList ++ '/' :: (withSuffix right suffix).toList := by
  rw [toList_withSuffix, h, toList_withSuffix, List.append_assoc, List.cons_append]

end Callsign

namespace ZoneTable

open Callsign

variable {t : ZoneTable} {call suffix : String}

/-! ### Starts without a stroke -/

/-- No listed start holds a stroke. -/
def IsPlain (t : ZoneTable) : Prop :=
  ∀ start z, t.starts.get? start = some z → '/' ∉ start.toList

theorem eq_stroke_of_toUpper {c : Char} (h : c.toUpper = '/') : c = '/' := by
  by_cases hc : IsSmall c
  · have hlo : 97 ≤ c.toNat := hc.1
    have hhi : c.toNat ≤ 122 := hc.2
    have hval : c.toUpper.toNat = 47 := by rw [h]; rfl
    rw [toNat_toUpper_of_small hc] at hval
    omega
  · rwa [toUpper_of_not_small hc] at h

theorem isPlain_listing {l : List (String × Zones)} (h : ∀ e ∈ l, '/' ∉ e.1.toList) :
    (listing l).IsPlain := by
  intro start z hz hstroke
  rw [get?_listing] at hz
  obtain ⟨e, he, rfl⟩ : ∃ e ∈ l, upper (trim e.1) = start := by
    by_contra hno
    rw [lastListed?_eq_none_iff.2 fun e he hs => hno ⟨e, he, hs⟩] at hz
    cases hz
  rw [upper, String.toList_ofList] at hstroke
  obtain ⟨c, hc, hupper⟩ := List.mem_map.1 hstroke
  rw [eq_stroke_of_toUpper hupper, trim, String.toList_ofList] at hc
  exact h e he (mem_of_mem_trimChars hc)

theorem isPrefix_append_stroke_iff {p a b : List Char} (h : '/' ∉ p) :
    p <+: a ++ '/' :: b ↔ p <+: a := by
  refine ⟨fun hp => ?_, fun hp => hp.trans (List.prefix_append a _)⟩
  rcases List.prefix_or_prefix_of_prefix hp (List.prefix_append a _) with hpa | ⟨r, rfl⟩
  · exact hpa
  · obtain hnil | ⟨r', rfl, -⟩ := List.prefix_cons_iff.1 ((List.prefix_append_right_inj a).1 hp)
    · exact ⟨[], by rw [hnil, List.append_nil, List.append_nil]⟩
    · exact absurd (List.mem_append_right a List.mem_cons_self) h

theorem zonesOf?_congr {base base' : String} (h : ∀ start z, t.starts.get? start = some z →
    (start.toList <+: base.toList ↔ start.toList <+: base'.toList)) :
    t.zonesOf? base = t.zonesOf? base' := by
  refine Option.ext fun z => ?_
  rw [zonesOf?_eq_some_iff, zonesOf?_eq_some_iff]
  refine exists_congr fun p => and_congr_right fun _ => ?_
  constructor
  · rintro ⟨hp, hz, hlongest⟩
    exact ⟨(h p z hz).1 hp, hz, fun q w hq hw => hlongest q w ((h q w hw).2 hq) hw⟩
  · rintro ⟨hp, hz, hlongest⟩
    exact ⟨(h p z hz).2 hp, hz, fun q w hq hw => hlongest q w ((h q w hw).1 hq) hw⟩

/-- **No listed start reaches behind the stroke.** -/
theorem zonesOf?_withSuffix (ht : t.IsPlain) (base suffix : String) :
    t.zonesOf? (withSuffix base suffix) = t.zonesOf? base := by
  refine zonesOf?_congr fun start z hz => ?_
  rw [toList_withSuffix]
  exact isPrefix_append_stroke_iff (ht start z hz)

/-! ### The part that counts -/

variable {left right : String}

theorem zones?_withSuffix_of_not_mem (hs : IsSuffix suffix) (h : '/' ∉ call.toList) :
    t.zones? (withSuffix call suffix) = t.zones? call := by
  rw [zones?, zones?, locatedPart_withSuffix_of_not_mem hs h, locatedPart_of_not_mem h]

/-- With the suffix the part in front of the stroke counts. -/
theorem zones?_withSuffix_of_outgrows (hleft : '/' ∉ left.toList)
    (h : call.toList = left.toList ++ '/' :: right.toList) (hout : Outgrows left right suffix) :
    t.zones? (withSuffix call suffix) = t.zones? left := by
  have hpart : locatedPart (withSuffix call suffix) = left :=
    (locatedPart_of_stroke hleft (toList_withSuffix_of_stroke h suffix)).2
      fun hshorter => absurd hshorter.1 (Nat.not_lt.2 hout.outgrown)
  rw [zones?, zones?, hpart, locatedPart_of_not_mem hleft]

/-- The same part counts as without the suffix, which may stand in it now. -/
theorem zones?_withSuffix_of_not_outgrows (ht : t.IsPlain) (hs : IsSuffix suffix)
    (hleft : '/' ∉ left.toList) (h : call.toList = left.toList ++ '/' :: right.toList)
    (hout : ¬ Outgrows left right suffix) :
    t.zones? (withSuffix call suffix) = t.zones? call := by
  obtain ⟨hright, hfront⟩ := locatedPart_of_stroke hleft h
  obtain ⟨hright', hfront'⟩ :=
    locatedPart_of_stroke hleft (toList_withSuffix_of_stroke h suffix)
  rw [exists_digit_withSuffix_iff hs] at hright' hfront'
  rw [zones?, zones?]
  by_cases hcounts : right.utf8ByteSize < left.utf8ByteSize ∧ ∃ d ∈ right.toList, d.isDigit = true
  · have hstill : (withSuffix right suffix).utf8ByteSize < left.utf8ByteSize := by
      by_contra hlong
      exact hout ⟨hcounts.1, hcounts.2, Nat.not_lt.1 hlong⟩
    rw [hright hcounts, hright' ⟨hstill, hcounts.2⟩]
    exact zonesOf?_withSuffix ht right suffix
  · rw [hfront hcounts, hfront' fun hlonger => hcounts ⟨?_, hlonger.2⟩]
    exact Nat.lt_trans (utf8ByteSize_lt_withSuffix right suffix) hlonger.1

/-- **A suffix changes the zones of a callsign only by its length.**  If the part behind the first
stroke tells the place, but is no longer the shorter part with the suffix, then the zones become
those of the part in front of the stroke; and else they stay the same. -/
theorem zone?_withSuffix (ht : t.IsPlain) (hs : IsSuffix suffix) (call : String) (k : ZoneKind) :
    (∀ left right : String, '/' ∉ left.toList →
      call.toList = left.toList ++ '/' :: right.toList → Outgrows left right suffix →
        t.zone? k (withSuffix call suffix) = t.zone? k left) ∧
    ((∀ left right : String, '/' ∉ left.toList →
      call.toList = left.toList ++ '/' :: right.toList → ¬ Outgrows left right suffix) →
        t.zone? k (withSuffix call suffix) = t.zone? k call) := by
  refine ⟨fun left right hleft h hout => ?_, fun hout => ?_⟩
  · rw [zone?, zone?, zones?_withSuffix_of_outgrows hleft h hout]
  · rw [zone?, zone?]
    congr 1
    by_cases hstroke : '/' ∈ call.toList
    · obtain ⟨a, b, hsplit, ha⟩ := List.eq_append_cons_of_mem hstroke
      rw [← String.toList_ofList (l := a)] at hsplit ha
      rw [← String.toList_ofList (l := b)] at hsplit
      exact zones?_withSuffix_of_not_outgrows ht hs ha hsplit (hout _ _ ha hsplit)
    · exact zones?_withSuffix_of_not_mem hs hstroke

/-- Some starts of two countries. -/
def twoCountries : List (String × Zones) :=
  [("VE3", ⟨4, 4⟩), ("G", ⟨14, 27⟩)]

theorem isPlain_twoCountries : (listing twoCountries).IsPlain :=
  isPlain_listing (by decide)

theorem isSuffix_portable : IsSuffix "P" where
  no_digit := by
    intro c hc
    obtain rfl : c = 'P' := List.mem_singleton.1 hc
    rfl
  no_stroke := by decide

/-- A station in Ontario, whose own callsign is long enough. -/
theorem zone?_withSuffix_portable :
    (listing twoCountries).zone? .cq (withSuffix "G4ABCD/VE3" "P") = some 4 := by
  rw [(zone?_withSuffix isPlain_twoCountries isSuffix_portable "G4ABCD/VE3" .cq).2]
  · decide +kernel
  · intro left right hleft h hout
    have hcut : splitOnce '/' "G4ABCD/VE3" = some ("G4ABCD", "VE3") := by decide +kernel
    rw [splitOnce_eq_some hleft h, Option.some.injEq, Prod.mk.injEq] at hcut
    obtain ⟨rfl, rfl⟩ := hcut
    exact absurd hout.outgrown (by decide)

/-- With one letter less the same station is taken to be at home, once it says that it is
portable. -/
theorem zone?_withSuffix_outgrown :
    let t := listing twoCountries
    t.IsPlain ∧ IsSuffix "P" ∧ "P" ≠ "" ∧
      t.zone? .cq "G4ABC/VE3" = some 4 ∧ t.zone? .itu "G4ABC/VE3" = some 4 ∧
      t.zone? .cq (withSuffix "G4ABC/VE3" "P") = some 14 ∧
      t.zone? .itu (withSuffix "G4ABC/VE3" "P") = some 27 :=
  ⟨isPlain_twoCountries, isSuffix_portable, by decide, by decide +kernel, by decide +kernel,
    by decide +kernel, by decide +kernel⟩

end ZoneTable

end ContestExchange
