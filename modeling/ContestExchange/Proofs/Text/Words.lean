import ContestExchange.Field.CutNumber
import ContestExchange.Text.Ascii
import ContestExchange.Text.Split

/-!
# Unbroken texts

A text is unbroken if it holds no blank.  The words of a text are
(`unbroken_of_mem_words`), raising the letters or restoring the digits of a cut
number leaves a text unbroken, and an unbroken text has nothing to trim.

A text that was trimmed has nothing to trim either, and so the parts that sheets
are cut into have none (`trim_of_mem_trimmedParts`).
-/

namespace ContestExchange

namespace Text

/-- The text holds no blank. -/
def Unbroken (s : String) : Prop :=
  ∀ c ∈ s.toList, isBlank c = false

theorem dropBlanks_eq_self {cs : List Char} (h : ∀ c ∈ cs, isBlank c = false) :
    dropBlanks cs = cs := by
  cases cs with
  | nil => rfl
  | cons c r => exact dropBlanks_cons_of_not_blank (h c List.mem_cons_self)

theorem Unbroken.trim_eq {s : String} (h : Unbroken s) : trim s = s := by
  have hrev : ∀ c ∈ s.toList.reverse, isBlank c = false := fun c hc => h c (List.mem_reverse.1 hc)
  rw [trim, trimChars, dropBlanks_eq_self h, dropBlanksEnd, dropBlanks_eq_self hrev,
    List.reverse_reverse, String.ofList_toList]

/-! ### Words -/

theorem eq_false_of_mem_splitOnP {α : Type} {p : α → Bool} {xs l : List α}
    (hl : l ∈ xs.splitOnP p) {c : α} (hc : c ∈ l) : p c = false := by
  induction xs generalizing l with
  | nil =>
    rw [List.splitOnP_nil, List.mem_singleton] at hl
    subst hl
    cases hc
  | cons x xs ih =>
    rw [List.splitOnP_cons_eq_if_modifyHead] at hl
    split at hl
    · rcases List.mem_cons.1 hl with rfl | hl
      · cases hc
      · exact ih hl hc
    · rename_i hx
      cases hxs : xs.splitOnP p with
      | nil => exact absurd hxs (List.splitOnP_ne_nil p xs)
      | cons first rest =>
        rw [hxs] at ih hl
        rcases List.mem_cons.1 hl with rfl | hl
        · rcases List.mem_cons.1 hc with rfl | hc
          · simpa using hx
          · exact ih List.mem_cons_self hc
        · exact ih (List.mem_cons_of_mem _ hl) hc

theorem unbroken_of_mem_words {s w : String} (h : w ∈ words s) : Unbroken w := by
  obtain ⟨l, hl, rfl⟩ := List.mem_map.1 h
  intro c hc
  rw [String.toList_ofList] at hc
  exact eq_false_of_mem_splitOnP (List.mem_filter.1 hl).1 hc

theorem not_blank_of_lt {c : Char} (h : 32 < c.toNat) (h' : c.toNat < 133) : isBlank c = false := by
  simp only [isBlank, Bool.or_eq_false_iff, Bool.and_eq_false_imp, decide_eq_true_eq,
    decide_eq_false_iff_not, beq_eq_false_iff_ne]
  omega

theorem unbroken_repr (n : Nat) : Unbroken n.repr := by
  intro c hc
  rw [Nat.toList_repr] at hc
  have hdigit := Nat.isDigit_of_mem_toDigits (by decide) (by decide) hc
  simp only [Char.isDigit, Bool.and_eq_true, decide_eq_true_eq] at hdigit
  have hlo : 48 ≤ c.toNat := hdigit.1
  have hhi : c.toNat ≤ 57 := hdigit.2
  exact not_blank_of_lt (by omega) (by omega)

theorem not_blank_toUpper {c : Char} (h : isBlank c = false) : isBlank c.toUpper = false := by
  by_cases hc : IsSmall c
  · have hlo : 97 ≤ c.toNat := hc.1
    have hhi : c.toNat ≤ 122 := hc.2
    have hval := toNat_toUpper_of_small hc
    exact not_blank_of_lt (by omega) (by omega)
  · rwa [toUpper_of_not_small hc]

theorem isBlank_toUpper (c : Char) : isBlank c.toUpper = isBlank c := by
  cases h : isBlank c with
  | false => exact not_blank_toUpper h
  | true =>
    have hc : ¬ IsSmall c := by
      rintro ⟨lo, hi⟩
      have hlo : 97 ≤ c.toNat := lo
      have hhi : c.toNat ≤ 122 := hi
      rw [not_blank_of_lt (by omega) (by omega)] at h
      cases h
    rwa [toUpper_of_not_small hc]

theorem Unbroken.upper {s : String} (h : Unbroken s) : Unbroken (upper s) := by
  intro c hc
  rw [Text.upper, String.toList_ofList] at hc
  obtain ⟨d, hd, rfl⟩ := List.mem_map.1 hc
  exact not_blank_toUpper (h d hd)

/-! ### Trimmed parts -/

theorem dropBlanks_map_toUpper (cs : List Char) :
    dropBlanks (cs.map Char.toUpper) = (dropBlanks cs).map Char.toUpper := by
  have hp : isBlank ∘ Char.toUpper = isBlank := funext isBlank_toUpper
  rw [dropBlanks, List.dropWhile_map, hp, dropBlanks]

/-- It does not matter whether the blanks go before the letters are raised or after. -/
theorem trim_upper (s : String) : trim (upper s) = upper (trim s) := by
  rw [trim, upper, upper, trim, String.toList_ofList, String.toList_ofList, trimChars, trimChars,
    dropBlanks_map_toUpper, dropBlanksEnd, dropBlanksEnd, ← List.map_reverse,
    dropBlanks_map_toUpper, List.map_reverse]

theorem trim_ofList_trimChars (cs : List Char) :
    trim (String.ofList (trimChars cs)) = String.ofList (trimChars cs) := by
  rw [trim, String.toList_ofList, trimChars_trimChars]

theorem trim_of_mem_trimmedParts {c : Char} {s p : String} (h : p ∈ trimmedParts c s) :
    trim p = p := by
  obtain ⟨cs, -, rfl⟩ := List.mem_map.1 (List.mem_filter.1 h).1
  exact trim_ofList_trimChars cs

theorem mem_of_mem_trimChars {c : Char} {cs : List Char} (h : c ∈ trimChars cs) : c ∈ cs := by
  have hend := List.mem_reverse.1 h
  exact List.dropWhile_sublist _ |>.mem (List.mem_reverse.1 (List.dropWhile_sublist _ |>.mem hend))

theorem trimmedParts_eq_singleton {c : Char} {s : String} (hc : c ∉ s.toList)
    (htrim : trim s = s) (hne : s ≠ "") : trimmedParts c s = [s] := by
  have hpart : (String.ofList ∘ trimChars) s.toList = s := htrim
  rw [trimmedParts, List.splitOn_eq_singleton hc, List.map_singleton, hpart,
    List.filter_eq_self]
  intro p hp
  rw [List.mem_singleton.1 hp, bne_iff_ne]
  exact hne

theorem notMem_of_mem_trimmedParts {c : Char} {s p : String} (h : p ∈ trimmedParts c s) :
    c ∉ p.toList := by
  obtain ⟨cs, hcs, rfl⟩ := List.mem_map.1 (List.mem_filter.1 h).1
  intro hc
  rw [Function.comp_apply, String.toList_ofList] at hc
  have hsep := eq_false_of_mem_splitOnP hcs (mem_of_mem_trimChars hc)
  simp at hsep

theorem ne_empty_of_mem_trimmedParts {c : Char} {s p : String} (h : p ∈ trimmedParts c s) :
    p ≠ "" :=
  bne_iff_ne.1 (List.mem_filter.1 h).2

theorem trimmedParts_of_mem {c : Char} {s p : String} (h : p ∈ trimmedParts c s) :
    trimmedParts c p = [p] :=
  trimmedParts_eq_singleton (notMem_of_mem_trimmedParts h) (trim_of_mem_trimmedParts h)
    (ne_empty_of_mem_trimmedParts h)

theorem dropBlanksEnd_append {w : List Char} (h : ∀ d ∈ w, isBlank d = false) (r : List Char) :
    dropBlanksEnd (w ++ r) = w ++ dropBlanksEnd r := by
  have hrev : dropBlanks w.reverse = w.reverse :=
    dropBlanks_eq_self fun d hd => h d (List.mem_reverse.1 hd)
  rw [dropBlanksEnd, dropBlanksEnd, List.reverse_append, dropBlanks, List.dropWhile_append]
  split
  · rename_i hempty
    rw [dropBlanks, List.isEmpty_iff.1 hempty, List.reverse_nil, List.append_nil]
    exact (congrArg List.reverse hrev).trans w.reverse_reverse
  · rw [List.reverse_append, List.reverse_reverse, dropBlanks]

theorem splitOn_append {c : Char} {w : List Char} (h : c ∉ w) (r : List Char) :
    (w ++ r).splitOn c = (r.splitOn c).modifyHead (w ++ ·) := by
  induction w with
  | nil =>
    rw [List.nil_append]
    cases r.splitOn c <;> rfl
  | cons d w ih =>
    have hd : (d == c) = false := beq_eq_false_iff_ne.2 fun he => h (he ▸ List.mem_cons_self)
    rw [List.cons_append, List.splitOn_cons_eq_if_modifyHead, if_neg (ne_true_of_eq_false hd),
      ih fun hw => h (List.mem_cons_of_mem d hw), List.modifyHead_modifyHead]
    rfl

/-- The first part starts as the whole text does, up to where a blank or a separator stands. -/
theorem trimmedParts_append {c d : Char} {w : List Char} (hblank : ∀ e ∈ d :: w, isBlank e = false)
    (hc : c ∉ d :: w) (r : List Char) :
    ∃ v rest, trimmedParts c (String.ofList (d :: w ++ r)) =
      String.ofList (d :: w ++ v) :: rest := by
  obtain ⟨first, rest, hr⟩ := List.exists_cons_of_ne_nil (List.splitOn_ne_nil c r)
  have htrim : trimChars (d :: w ++ first) = d :: w ++ dropBlanksEnd first := by
    rw [trimChars, List.cons_append,
      dropBlanks_cons_of_not_blank (hblank d List.mem_cons_self), ← List.cons_append,
      dropBlanksEnd_append hblank]
  refine ⟨dropBlanksEnd first, (rest.map (String.ofList ∘ trimChars)).filter (· != ""), ?_⟩
  rw [trimmedParts, String.toList_ofList, splitOn_append hc, hr, List.modifyHead_cons,
    List.map_cons, Function.comp_apply, htrim, List.filter_cons_of_pos]
  rw [bne_iff_ne, ← String.ofList_nil]
  exact fun he => List.cons_ne_nil _ _ (String.ofList_injective he)

end Text

theorem CutNumber.not_blank_of_digit? {a d : Char} (h : CutNumber.digit? a = some d) :
    Text.isBlank d = false := by
  unfold CutNumber.digit? at h
  split at h <;> cases h <;> decide

theorem CutNumber.unbroken_of_digits? {s d : String} (hs : Text.Unbroken s)
    (h : CutNumber.digits? s = some d) : Text.Unbroken d := by
  rw [CutNumber.digits?] at h
  split at h
  · obtain rfl := Option.some.inj h
    intro c hc
    rw [String.toList_ofList] at hc
    obtain ⟨a, ha, rfl⟩ := List.mem_map.1 hc
    cases hd : CutNumber.digit? a with
    | none => simpa [CutNumber.restore, hd] using hs a ha
    | some d => simpa [CutNumber.restore, hd] using CutNumber.not_blank_of_digit? hd
  · cases h

end ContestExchange
