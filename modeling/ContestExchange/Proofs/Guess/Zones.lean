import Mathlib.Data.List.Induction
import ContestExchange.Guess.Zones
import ContestExchange.Proofs.Text.Joined

/-!
# The longest start

A table of zones is searched from the greatest number of bytes down
(`findSome?_down_eq_some_iff`).  Since no listed start has more bytes than the search
begins with, and the starts of one text are starts of one another, what is found first
is the longest listed start of the text (`zonesOf?_eq_some_iff`), whatever characters
it holds.

The zones of a start are those it was listed with last (`get?_listing`), so the order
in which the starts were listed matters for equal starts only (`zones?_listing`).
-/

namespace ContestExchange

open Text

/-! ### Starts of one text -/

namespace Text

variable {p q s : String}

theorem utf8ByteSize_le (h : p.toList <+: s.toList) : p.utf8ByteSize ≤ s.utf8ByteSize := by
  obtain ⟨r, hr⟩ := h
  have hs : s = p ++ String.ofList r := by
    rw [← String.toList_inj, String.toList_append, String.toList_ofList, hr]
  rw [hs, String.utf8ByteSize_append]
  exact Nat.le_add_right _ _

/-- Of two starts of one text the one with no more bytes is a start of the other. -/
theorem isPrefix_of_utf8ByteSize_le (hp : p.toList <+: s.toList) (hq : q.toList <+: s.toList)
    (h : p.utf8ByteSize ≤ q.utf8ByteSize) : p.toList <+: q.toList := by
  rcases List.prefix_or_prefix_of_prefix hp hq with hpq | ⟨r, hr⟩
  · exact hpq
  · have hpq : p = q ++ String.ofList r := by
      rw [← String.toList_inj, String.toList_append, String.toList_ofList, hr]
    rw [hpq, String.utf8ByteSize_append] at h
    have hnil : r = [] := utf8ByteSize_eq_zero (by omega)
    have heq : p.toList = q.toList := by
      rw [← hr, hnil, List.append_nil]
    exact heq ▸ List.prefix_rfl

end Text

/-! ### A search from above -/

variable {α : Type} {f : Nat → Option α} {m : Nat} {z : α}

theorem findSome?_down_eq_none_iff :
    (List.range' 1 m).reverse.findSome? f = none ↔ ∀ n, 1 ≤ n → n ≤ m → f n = none := by
  rw [List.findSome?_eq_none_iff]
  refine forall_congr' fun n => ?_
  rw [List.mem_reverse, List.mem_range'_1, and_imp, Nat.add_comm 1 m, Nat.lt_succ_iff]

/-- **A search from above finds the greatest.** -/
theorem findSome?_down_eq_some_iff :
    (List.range' 1 m).reverse.findSome? f = some z ↔
      ∃ n, 1 ≤ n ∧ n ≤ m ∧ f n = some z ∧ ∀ k, n < k → k ≤ m → f k = none := by
  induction m with
  | zero =>
    refine iff_of_false nofun ?_
    rintro ⟨n, hlo, hhi, -⟩
    omega
  | succ m ih =>
    rw [List.range'_1_concat, List.reverse_append, List.reverse_singleton, List.singleton_append,
      List.findSome?_cons, Nat.add_comm 1 m]
    cases hf : f (m + 1) with
    | some w =>
      constructor
      · rintro ⟨⟩
        exact ⟨m + 1, by omega, by omega, hf, fun k hlo hhi => by omega⟩
      · rintro ⟨n, hlo, hhi, hn, hgreater⟩
        by_cases he : n = m + 1
        · rw [he, hf] at hn
          exact hn
        · rw [hgreater (m + 1) (by omega) (by omega)] at hf
          cases hf
    | none =>
      refine ih.trans ⟨?_, ?_⟩
      · rintro ⟨n, hlo, hhi, hn, hgreater⟩
        refine ⟨n, hlo, by omega, hn, fun k hk hk' => ?_⟩
        by_cases he : k = m + 1
        · rw [he, hf]
        · exact hgreater k hk (by omega)
      · rintro ⟨n, hlo, hhi, hn, hgreater⟩
        by_cases he : n = m + 1
        · rw [he, hf] at hn
          cases hn
        · exact ⟨n, hlo, by omega, hn, fun k hk hk' => hgreater k hk (by omega)⟩

namespace ZoneTable

variable {t : ZoneTable} {base : String}

/-! ### The search in a table -/

theorem zonesAt?_eq_some_iff {n : Nat} {z : Zones} : t.zonesAt? base.toList n = some z ↔
    ∃ p : String, p.toList <+: base.toList ∧ p.utf8ByteSize = n ∧ t.starts.get? p = some z := by
  rw [zonesAt?, Option.bind_eq_some_iff]
  constructor
  · rintro ⟨cs, hcs, hz⟩
    obtain ⟨hbegins, hsize⟩ := firstBytes?_eq_some_iff.1 hcs
    exact ⟨String.ofList cs, by rwa [String.toList_ofList], hsize, hz⟩
  · rintro ⟨p, hbegins, hsize, hz⟩
    refine ⟨p.toList, firstBytes?_eq_some_iff.2 ⟨hbegins, ?_⟩, ?_⟩
    · rwa [String.ofList_toList]
    · rwa [String.ofList_toList]

theorem utf8ByteSize_le_of_get? {q : String} {z : Zones} (hq : q.toList <+: base.toList)
    (hz : t.starts.get? q = some z) : q.utf8ByteSize ≤ min t.longest base.utf8ByteSize :=
  Nat.le_min.2 ⟨t.le_longest q z hz, utf8ByteSize_le hq⟩

theorem one_le_utf8ByteSize {q : String} (hq : q ≠ "") : 1 ≤ q.utf8ByteSize :=
  Nat.one_le_iff_ne_zero.2 (String.utf8ByteSize_eq_zero_iff.not.2 hq)

theorem zonesOf?_eq_none_iff : t.zonesOf? base = none ↔
    ∀ q : String, q ≠ "" → q.toList <+: base.toList → t.starts.get? q = none := by
  rw [zonesOf?, findSome?_down_eq_none_iff]
  constructor
  · intro h q hne hq
    cases hz : t.starts.get? q with
    | none => rfl
    | some z =>
      have hnone := h q.utf8ByteSize (one_le_utf8ByteSize hne) (utf8ByteSize_le_of_get? hq hz)
      rw [zonesAt?_eq_some_iff.2 ⟨q, hq, rfl, hz⟩] at hnone
      cases hnone
  · intro h n hlo hhi
    cases hz : t.zonesAt? base.toList n with
    | none => rfl
    | some z =>
      obtain ⟨p, hp, rfl, hw⟩ := zonesAt?_eq_some_iff.1 hz
      have hne : p ≠ "" := by
        rintro rfl
        exact absurd hlo (by decide)
      rw [h p hne hp] at hw
      cases hw

/-- **What is found is the longest listed start**: every other one is a start of it. -/
theorem zonesOf?_eq_some_iff {z : Zones} : t.zonesOf? base = some z ↔
    ∃ p : String, p ≠ "" ∧ p.toList <+: base.toList ∧ t.starts.get? p = some z ∧
      ∀ q w, q.toList <+: base.toList → t.starts.get? q = some w → q.toList <+: p.toList := by
  rw [zonesOf?, findSome?_down_eq_some_iff]
  constructor
  · rintro ⟨n, hlo, hhi, hn, hgreater⟩
    obtain ⟨p, hp, rfl, hz⟩ := zonesAt?_eq_some_iff.1 hn
    refine ⟨p, ?_, hp, hz, fun q w hq hw => isPrefix_of_utf8ByteSize_le hq hp ?_⟩
    · rintro rfl
      exact absurd hlo (by decide)
    · by_contra hlt
      have hnone := hgreater q.utf8ByteSize (by omega) (utf8ByteSize_le_of_get? hq hw)
      rw [zonesAt?_eq_some_iff.2 ⟨q, hq, rfl, hw⟩] at hnone
      cases hnone
  · rintro ⟨p, hne, hp, hz, hlongest⟩
    refine ⟨p.utf8ByteSize, one_le_utf8ByteSize hne, utf8ByteSize_le_of_get? hp hz,
      zonesAt?_eq_some_iff.2 ⟨p, hp, rfl, hz⟩, fun k hlo hhi => ?_⟩
    cases hk : t.zonesAt? base.toList k with
    | none => rfl
    | some w =>
      obtain ⟨q, hq, rfl, hw⟩ := zonesAt?_eq_some_iff.1 hk
      have hle := utf8ByteSize_le (hlongest q w hq hw)
      omega

/-! ### What was listed -/

/-- The table of the starts in a list, listed one after the other. -/
def listing (l : List (String × Zones)) : ZoneTable :=
  l.foldl (fun t e => t.insert e.1 e.2) empty

/-- The zones that a start was listed with last. -/
def lastListed? (l : List (String × Zones)) (p : String) : Option Zones :=
  (l.reverse.find? fun e => upper (trim e.1) = p).map Prod.snd

theorem lastListed?_concat (l : List (String × Zones)) (e : String × Zones) (p : String) :
    lastListed? (l ++ [e]) p = if p = upper (trim e.1) then some e.2 else lastListed? l p := by
  rw [lastListed?, List.reverse_append, List.reverse_singleton, List.singleton_append]
  by_cases h : p = upper (trim e.1)
  · rw [if_pos h, List.find?_cons_of_pos (by simpa using h.symm), Option.map_some]
  · rw [if_neg h, List.find?_cons_of_neg (by simpa using Ne.symm h), lastListed?]

theorem lastListed?_eq_none_iff {l : List (String × Zones)} {p : String} :
    lastListed? l p = none ↔ ∀ e ∈ l, upper (trim e.1) ≠ p := by
  simp [lastListed?]

theorem get?_listing (l : List (String × Zones)) (p : String) :
    (listing l).starts.get? p = lastListed? l p := by
  induction l using List.reverseRecOn with
  | nil => rfl
  | append_singleton l e ih =>
    rw [listing, List.foldl_append, lastListed?_concat, ← ih]
    exact Dictionary.get?_put ..

end ZoneTable

/-! ### Where a station is -/

namespace Callsign

theorem locatedPart_of_not_mem {call : String} (h : '/' ∉ call.toList) :
    locatedPart call = call := by
  rw [locatedPart, splitOnce_eq_none h]

theorem locatedPart_of_stroke {call left right : String} (hleft : '/' ∉ left.toList)
    (h : call.toList = left.toList ++ '/' :: right.toList) :
    (right.utf8ByteSize < left.utf8ByteSize ∧ (∃ d ∈ right.toList, d.isDigit) →
      locatedPart call = right) ∧
    (¬ (right.utf8ByteSize < left.utf8ByteSize ∧ ∃ d ∈ right.toList, d.isDigit) →
      locatedPart call = left) := by
  have hpart : locatedPart call =
      if right.utf8ByteSize < left.utf8ByteSize && right.toList.any Char.isDigit then right
      else left := by
    rw [locatedPart, splitOnce_eq_some hleft h]
  have hshort : (right.utf8ByteSize < left.utf8ByteSize && right.toList.any Char.isDigit) = true ↔
      right.utf8ByteSize < left.utf8ByteSize ∧ ∃ d ∈ right.toList, d.isDigit := by
    rw [Bool.and_eq_true, decide_eq_true_eq, List.any_eq_true]
  rw [hpart]
  exact ⟨fun h => if_pos (hshort.2 h), fun h => if_neg (hshort.not.2 h)⟩

end Callsign

namespace ZoneTable

/-- **The zones of a callsign are those of the longest listed start.**  The part of the
callsign that counts is the whole of it or, with a stroke in it, one of the two parts;
there are no zones iff no filled start in the list begins that part, and else they are
those which the longest such start was listed with last. -/
theorem zones?_listing (l : List (String × Zones)) (call : String) :
    let base := Callsign.locatedPart call
    ('/' ∉ call.toList → base = call) ∧
    (∀ left right : String, '/' ∉ left.toList →
      call.toList = left.toList ++ '/' :: right.toList →
      (right.utf8ByteSize < left.utf8ByteSize ∧ (∃ d ∈ right.toList, d.isDigit) →
        base = right) ∧
      (¬ (right.utf8ByteSize < left.utf8ByteSize ∧ ∃ d ∈ right.toList, d.isDigit) →
        base = left)) ∧
    ((listing l).zones? call = none ↔
      ∀ e ∈ l, upper (trim e.1) ≠ "" → ¬ (upper (trim e.1)).toList <+: base.toList) ∧
    ∀ z, (listing l).zones? call = some z ↔
      ∃ p : String, p ≠ "" ∧ p.toList <+: base.toList ∧ lastListed? l p = some z ∧
        ∀ e ∈ l, (upper (trim e.1)).toList <+: base.toList →
          (upper (trim e.1)).toList <+: p.toList := by
  intro base
  refine ⟨Callsign.locatedPart_of_not_mem, fun left right => Callsign.locatedPart_of_stroke,
    ?_, fun z => ?_⟩
  · simp only [zones?, zonesOf?_eq_none_iff, get?_listing, lastListed?_eq_none_iff]
    constructor
    · intro h e he hne hbegins
      exact h _ hne hbegins e he rfl
    · rintro h q hne hbegins e he rfl
      exact h e he hne hbegins
  · simp only [zones?, zonesOf?_eq_some_iff, get?_listing]
    refine exists_congr fun p => and_congr_right fun _ => and_congr_right fun _ =>
      and_congr_right fun _ => ?_
    constructor
    · intro h e he hbegins
      cases hw : lastListed? l (upper (trim e.1)) with
      | some w => exact h _ w hbegins hw
      | none => exact absurd rfl (lastListed?_eq_none_iff.1 hw e he)
    · intro h q w hbegins hw
      by_contra hno
      have hnone : lastListed? l q = none := lastListed?_eq_none_iff.2 <| by
        rintro e he rfl
        exact hno (h e he hbegins)
      rw [hnone] at hw
      cases hw

example : (listing [("KH6", ⟨31, 61⟩), (" k ", ⟨5, 8⟩)]).zones? "KH6/W1AW" = some ⟨31, 61⟩ := by
  decide +kernel

end ZoneTable

end ContestExchange
