/-!
# Upper case

Callsigns, tokens and prefilled values are raised to upper case, and only the
26 small letters of ASCII take part, as in `Char.toUpper`: `é` stays `é`.
-/

namespace ContestExchange.Text

/-- The text with its small ASCII letters raised. -/
def upper (s : String) : String :=
  String.ofList (s.toList.map Char.toUpper)

def lower (s : String) : String :=
  String.ofList (s.toList.map Char.toLower)

/-- Equality of texts up to the case of ASCII letters. -/
def sameLetters (s t : String) : Bool :=
  upper s == upper t

def IsSmall (c : Char) : Prop :=
  'a'.val ≤ c.val ∧ c.val ≤ 'z'.val

theorem val_toUpper_of_small {c : Char} (h : IsSmall c) :
    c.toUpper.val = c.val + ('A'.val - 'a'.val) := by
  delta Char.toUpper
  split
  · rfl
  · exact absurd h ‹_›

theorem toUpper_of_not_small {c : Char} (h : ¬ IsSmall c) : c.toUpper = c :=
  dif_neg h

theorem toNat_toUpper_of_small {c : Char} (h : IsSmall c) : c.toUpper.toNat = c.toNat - 32 := by
  have hlo : 97 ≤ c.val.toNat := h.1
  have hhi : c.val.toNat ≤ 122 := h.2
  have hsub : ('A'.val - 'a'.val).toNat = 4294967264 := by decide
  show c.toUpper.val.toNat = c.val.toNat - 32
  rw [val_toUpper_of_small h, UInt32.toNat_add, hsub]
  omega

theorem not_small_toUpper (c : Char) : ¬ IsSmall c.toUpper := by
  by_cases h : IsSmall c
  · rintro ⟨lo, -⟩
    have hlo : 97 ≤ c.toUpper.toNat := lo
    have hhi : c.toNat ≤ 122 := h.2
    rw [toNat_toUpper_of_small h] at hlo
    omega
  · rwa [toUpper_of_not_small h]

theorem toUpper_toUpper (c : Char) : c.toUpper.toUpper = c.toUpper :=
  toUpper_of_not_small (not_small_toUpper c)

/-- **Raising to upper case is idempotent.** -/
theorem upper_upper (s : String) : upper (upper s) = upper s := by
  simp only [upper, String.toList_ofList, List.map_map, Function.comp_def, toUpper_toUpper]

theorem upper_eq_empty_iff {s : String} : upper s = "" ↔ s = "" := by
  constructor
  · intro h
    have hmap := congrArg String.toList h
    rw [upper, String.toList_ofList] at hmap
    rw [← String.ofList_toList (s := s), List.map_eq_nil_iff.1 hmap, String.ofList_nil]
  · rintro rfl
    rfl

@[simp] theorem upper_empty : upper "" = "" := rfl

end ContestExchange.Text
