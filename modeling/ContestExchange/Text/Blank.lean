/-!
# Blanks

A *blank* is a character with the Unicode property `White_Space`.  Received
texts are cut into words at blanks, and every name, value and callsign that is
read from a file loses the blanks around it.

`trim` is idempotent (`trim_trim`), and it is the identity exactly on texts
that carry no blank at either end; that is all the rest of the library uses
about it.
-/

namespace ContestExchange.Text

/-- The 25 characters with the Unicode property `White_Space`. -/
def isBlank (c : Char) : Bool :=
  let n := c.toNat
  (0x09 ≤ n && n ≤ 0x0D) || n == 0x20 || n == 0x85 || n == 0xA0 || n == 0x1680 ||
    (0x2000 ≤ n && n ≤ 0x200A) || n == 0x2028 || n == 0x2029 || n == 0x202F ||
    n == 0x205F || n == 0x3000

/-- The characters from the first non-blank on. -/
def dropBlanks (cs : List Char) : List Char :=
  cs.dropWhile isBlank

def dropBlanksEnd (cs : List Char) : List Char :=
  (dropBlanks cs.reverse).reverse

def trimChars (cs : List Char) : List Char :=
  dropBlanksEnd (dropBlanks cs)

/-- The text without the blanks at both ends. -/
def trim (s : String) : String :=
  String.ofList (trimChars s.toList)

/-! ### Trimming twice -/

theorem dropBlanks_cons_of_not_blank {c : Char} {cs : List Char} (h : isBlank c = false) :
    dropBlanks (c :: cs) = c :: cs := by
  simp [dropBlanks, h]

theorem head_dropBlanks (cs : List Char) :
    dropBlanks cs = [] ∨ ∃ c r, dropBlanks cs = c :: r ∧ isBlank c = false := by
  induction cs with
  | nil => exact Or.inl rfl
  | cons c r ih =>
    by_cases h : isBlank c
    · simpa [dropBlanks, h] using ih
    · refine Or.inr ⟨c, r, dropBlanks_cons_of_not_blank ?_, ?_⟩ <;> simpa using h

theorem dropBlanks_dropBlanks (cs : List Char) : dropBlanks (dropBlanks cs) = dropBlanks cs := by
  rcases head_dropBlanks cs with h | ⟨c, r, h, hc⟩
  · rw [h]; rfl
  · rw [h, dropBlanks_cons_of_not_blank hc]

theorem dropBlanksEnd_dropBlanksEnd (cs : List Char) :
    dropBlanksEnd (dropBlanksEnd cs) = dropBlanksEnd cs := by
  simp [dropBlanksEnd, dropBlanks_dropBlanks]

/-- A text that starts with no blank still does after its end is trimmed. -/
theorem dropBlanks_dropBlanksEnd {cs : List Char} (h : dropBlanks cs = cs) :
    dropBlanks (dropBlanksEnd cs) = dropBlanksEnd cs := by
  cases cs with
  | nil => rfl
  | cons c r =>
    have hc : isBlank c = false := by
      rcases head_dropBlanks (c :: r) with h' | ⟨d, t, h', hd⟩
      · rw [h] at h'; simp at h'
      · rw [h] at h'; simp only [List.cons.injEq] at h'; rw [h'.1]; exact hd
    have hne : dropBlanksEnd (c :: r) = c :: dropBlanksEnd r := by
      rw [dropBlanksEnd, dropBlanksEnd, dropBlanks, dropBlanks, List.reverse_cons,
        List.dropWhile_append]
      split
      · rename_i hempty
        rw [List.isEmpty_iff] at hempty
        simp [hempty, hc]
      · simp
    rw [hne, dropBlanks_cons_of_not_blank hc]

theorem trimChars_trimChars (cs : List Char) : trimChars (trimChars cs) = trimChars cs := by
  rw [trimChars, trimChars, dropBlanks_dropBlanksEnd (dropBlanks_dropBlanks cs),
    dropBlanksEnd_dropBlanksEnd]

/-- **Trimming is idempotent.** -/
theorem trim_trim (s : String) : trim (trim s) = trim s := by
  simp [trim, String.toList_ofList, trimChars_trimChars]

@[simp] theorem trim_empty : trim "" = "" := rfl

end ContestExchange.Text
