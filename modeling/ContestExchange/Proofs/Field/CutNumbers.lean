import Mathlib.Data.List.Forall2
import ContestExchange.Proofs.Field.Canonical

/-!
# Cut numbers and digits

A number may be sent with any of its zeros, nines and ones cut (`Spells`).  However it
is sent, the digits come back: the token is the number itself, or the number is what it
is cut to (`eq_or_digits?_of_spells`).  Digits are cut to nothing, and neither is a
token with any character besides.

So a field that is a number takes a cut number wherever it takes the digits.  It asks
first for the token as it was sent, by the pattern and by the table; only if both refuse
does the cut number stand for what the digits stand for (`cut_numbers_interchange`).
-/

namespace ContestExchange

namespace CutNumber

variable {c e : Char} {d s t : String}

/-- The character `e` may be sent for the digit `c`. -/
def SentFor (c e : Char) : Prop :=
  e = c ∨ (c, e) ∈ [('0', 'T'), ('9', 'N'), ('1', 'A')]

instance : DecidableRel SentFor :=
  fun _ _ => inferInstanceAs (Decidable (_ ∨ _))

/-- The text `s` is `d` with any of its zeros, nines and ones cut. -/
def Spells (d s : String) : Prop :=
  List.Forall₂ SentFor d.toList s.toList

instance : DecidableRel Spells :=
  fun _ _ => inferInstanceAs (Decidable (List.Forall₂ _ _ _))

def IsNumber (d : String) : Prop :=
  ∀ c ∈ d.toList, c.isDigit = true

instance : DecidablePred IsNumber :=
  fun d => decidable_of_iff (d.toList.all Char.isDigit = true) List.all_eq_true

/-- No cut number holds the character. -/
def IsForeign (c : Char) : Prop :=
  c.isDigit = false ∧ c ∉ ['T', 'N', 'A']

instance : DecidablePred IsForeign :=
  fun _ => inferInstanceAs (Decidable (_ ∧ _))

/-! ### One character -/

theorem digit?_eq_none (h : c ∉ ['T', 'N', 'A']) : digit? c = none := by
  simp only [List.mem_cons, List.not_mem_nil, or_false, not_or] at h
  rw [digit?.eq_def]
  split
  · exact absurd rfl h.1
  · exact absurd rfl h.2.1
  · exact absurd rfl h.2.2
  · rfl

theorem notMem_of_isDigit (h : c.isDigit = true) : c ∉ ['T', 'N', 'A'] := by
  intro hc
  simp only [List.mem_cons, List.not_mem_nil, or_false] at hc
  rcases hc with rfl | rfl | rfl <;> cases h

theorem restore_of_isDigit (h : c.isDigit = true) : restore c = c := by
  rw [restore, digit?_eq_none (notMem_of_isDigit h), Option.getD_none]

/-- A character that is sent for a digit may stand in a cut number, and the digit comes back. -/
theorem SentFor.restores (h : SentFor c e) (hc : c.isDigit = true) :
    restore e = c ∧ (e.isDigit || (digit? e).isSome) = true := by
  rcases h with rfl | h
  · exact ⟨restore_of_isDigit hc, by rw [hc, Bool.true_or]⟩
  · simp only [List.mem_cons, Prod.mk.injEq, List.not_mem_nil, or_false] at h
    rcases h with ⟨rfl, rfl⟩ | ⟨rfl, rfl⟩ | ⟨rfl, rfl⟩ <;> exact ⟨rfl, rfl⟩

/-! ### Whole tokens -/

theorem map_restore_of_forall₂ {l m : List Char} (h : List.Forall₂ SentFor l m)
    (hl : ∀ c ∈ l, c.isDigit = true) :
    m.map restore = l ∧ (m.all fun e => e.isDigit || (digit? e).isSome) = true := by
  induction h with
  | nil => exact ⟨rfl, rfl⟩
  | @cons c e l m he _ ih =>
    obtain ⟨hrestore, hmay⟩ := he.restores (hl c List.mem_cons_self)
    obtain ⟨hmap, hall⟩ := ih fun x hx => hl x (List.mem_cons_of_mem c hx)
    exact ⟨by rw [List.map_cons, hrestore, hmap], by rw [List.all_cons, hmay, hall, Bool.true_and]⟩

theorem map_restore_of_any {l : List Char} (h : (l.any fun c => (digit? c).isSome) = false) :
    l.map restore = l := by
  have hself : ∀ c ∈ l, restore c = c := by
    intro c hc
    have hnone := Option.not_isSome_iff_eq_none.1 (List.any_eq_false.1 h c hc)
    rw [restore, hnone, Option.getD_none]
  rw [List.map_congr_left hself, List.map_id']

/-- **However a number is sent, its digits come back.** -/
theorem eq_or_digits?_of_spells (hd : IsNumber d) (h : Spells d s) :
    s = d ∨ digits? s = some d := by
  obtain ⟨hmap, hall⟩ := map_restore_of_forall₂ h hd
  cases hany : s.toList.any fun c => (digit? c).isSome with
  | false =>
    rw [map_restore_of_any hany] at hmap
    exact .inl (String.toList_inj.1 hmap)
  | true =>
    rw [digits?, isCut, hany, hall, Bool.and_true, if_pos rfl, hmap, String.ofList_toList]
    exact .inr rfl

theorem digits?_of_isNumber (hd : IsNumber d) : digits? d = none := by
  have hany : (d.toList.any fun c => (digit? c).isSome) = false := by
    rw [List.any_eq_false]
    intro c hc
    rw [digit?_eq_none (notMem_of_isDigit (hd c hc))]
    exact Bool.false_ne_true
  rw [digits?, isCut, hany, Bool.false_and, if_neg Bool.false_ne_true]

theorem digits?_of_isForeign (h : ∃ c ∈ t.toList, IsForeign c) : digits? t = none := by
  obtain ⟨c, hc, hdigit, hletter⟩ := h
  have hall : (t.toList.all fun c => c.isDigit || (digit? c).isSome) = false := by
    rw [List.all_eq_false]
    refine ⟨c, hc, ?_⟩
    rw [hdigit, digit?_eq_none hletter]
    exact Bool.false_ne_true
  rw [digits?, isCut, hall, Bool.and_false, if_neg Bool.false_ne_true]

end CutNumber

namespace Field

open CutNumber

variable {f : Field} {d s t : String}

/-! ### Cut numbers in a field -/

theorem canonical?_of_cutForm?_eq_none (h : f.cutForm? t = none) :
    f.canonical? t = f.canonicalAsSent? t := by
  rw [canonical?, h]
  cases f.canonicalAsSent? t <;> rfl

theorem isLegal_of_cutForm?_eq_none (h : f.cutForm? t = none) :
    f.isLegal t = f.isLegalAsSent t := by
  rw [← isSome_canonical?, canonical?_of_cutForm?_eq_none h, isSome_canonicalAsSent?]

theorem cutForm?_eq_none (h : f.isNumeric = true → digits? t = none) : f.cutForm? t = none := by
  rw [cutForm?]
  split
  · exact h ‹_›
  · rfl

theorem canonicalAsSent?_of_isLegalAsSent (h : f.isLegalAsSent t = true) :
    f.canonicalAsSent? t = some ((f.spellings.canonical? t).getD t) := by
  obtain ⟨c, hc⟩ := Option.isSome_iff_exists.1 ((f.isSome_canonicalAsSent? t).trans h)
  rw [hc]
  rcases canonicalAsSent?_cases hc with he | ⟨he, -, rfl⟩
  · rw [he, Option.getD_some]
  · rw [he, Option.getD_none]

section Number

variable (hf : f.isNumeric = true) (hd : IsNumber d) (hs : Spells d s)
include hf hd hs

/-- **A cut number that is no value as it was sent stands for what its digits stand for.** -/
theorem canonical?_of_spells (h : f.canonicalAsSent? s = none) :
    f.canonical? s = f.canonical? d := by
  rcases eq_or_digits?_of_spells hd hs with rfl | hdigits
  · rfl
  · have hcut : f.cutForm? d = none := cutForm?_eq_none fun _ => digits?_of_isNumber hd
    rw [canonical?_of_canonicalAsSent?_eq_none h, canonical?_of_cutForm?_eq_none hcut, cutForm?,
      if_pos hf, hdigits, Option.bind_some]

/-- A number may be sent in any way that cuts it. -/
theorem isLegal_of_spells (h : f.isLegal d = true) : f.isLegal s = true := by
  cases hsent : f.canonicalAsSent? s with
  | some c => rw [← isSome_canonical?, canonical?_of_canonicalAsSent? hsent, Option.isSome_some]
  | none => rw [← isSome_canonical?, canonical?_of_spells hf hd hs hsent, isSome_canonical?, h]

end Number

/-- **Cut numbers and digits are the same to a field that is a number.**  A number that is a value
is one however it is cut.  If the token is no value as it was sent, it is a value if the digits
are, with the same canonical form; and if it is, it stands for what it stands for there.  With any
character besides, or in a field that is no number, a token is a value only as it was sent. -/
theorem cut_numbers_interchange (f : Field) :
    (f.isNumeric = true → ∀ d s, IsNumber d → Spells d s →
      (f.isLegal d = true → f.isLegal s = true) ∧
        (f.matchesPattern s = false → f.spellings.contains s = false →
          f.isLegal s = f.isLegal d ∧ f.canonical? s = f.canonical? d) ∧
        (f.matchesPattern s = true ∨ f.spellings.contains s = true →
          f.canonical? s = some ((f.spellings.canonical? s).getD s))) ∧
      ∀ t, f.isNumeric = false ∨ (∃ c ∈ t.toList, IsForeign c) →
        (f.isLegal t = true ↔ f.matchesPattern t = true ∨ f.spellings.contains t = true) := by
  refine ⟨fun hf d s hd hs => ⟨isLegal_of_spells hf hd hs, fun hp ht => ?_, fun h => ?_⟩,
    fun t ht => ?_⟩
  · have hcanonical := canonical?_of_spells hf hd hs (canonicalAsSent?_eq_none_iff.2 ⟨hp, ht⟩)
    exact ⟨by rw [← isSome_canonical?, hcanonical, isSome_canonical?], hcanonical⟩
  · have hsent : f.isLegalAsSent s = true := by rwa [isLegalAsSent, Bool.or_eq_true]
    exact canonical?_of_canonicalAsSent? (canonicalAsSent?_of_isLegalAsSent hsent)
  · have hcut : f.cutForm? t = none := by
      refine cutForm?_eq_none fun hf => digits?_of_isForeign (ht.resolve_left fun hnot => ?_)
      rw [hf] at hnot
      cases hnot
    rw [isLegal_of_cutForm?_eq_none hcut, isLegalAsSent, Bool.or_eq_true]

/-- A number of members, some with a letter after it, with one spelling that looks like a cut
number. -/
def membership : Field :=
  { ofName "MEMBER" with
    isNumeric := true
    pattern := some ⟨"^(?:[0-9]+[CTS]?)$", fun v =>
      v.toList.head?.any Char.isDigit &&
        [[], ['C'], ['T'], ['S']].contains (v.toList.dropWhile Char.isDigit)⟩
    spellings := .addAll .empty [.alternative "NONE" "NA"] }

/-- `12AT` is `1210`, but `123T` is a value of its own, and `NA` is no number. -/
theorem cut_numbers_interchange_membership :
    (membership.isLegal "12AT" = true ∧ membership.canonical? "12AT" = some "1210") ∧
      membership.canonical? "123T" = some "123T" ∧ membership.canonical? "NA" = some "NONE" ∧
      membership.isLegal "1E4" = false := by
  obtain ⟨hnumber, hsent⟩ := cut_numbers_interchange membership
  have hcut := hnumber rfl "1210" "12AT" (by decide +kernel) (by decide +kernel)
  have hmatches := hnumber rfl "1230" "123T" (by decide +kernel) (by decide +kernel)
  have hspelling := hnumber rfl "91" "NA" (by decide +kernel) (by decide +kernel)
  refine ⟨⟨hcut.1 (by decide +kernel), ?_⟩, ?_, ?_, ?_⟩
  · rw [(hcut.2.1 (by decide +kernel) (by decide +kernel)).2]
    decide +kernel
  · rw [hmatches.2.2 (by decide +kernel)]
    decide +kernel
  · rw [hspelling.2.2 (by decide +kernel)]
    decide +kernel
  · rw [Bool.eq_false_iff, Ne, hsent "1E4" (.inr ⟨'E', by decide +kernel, by decide⟩)]
    decide +kernel

end Field

end ContestExchange
