import ContestExchange.Field.Basic
import ContestExchange.Proofs.Field.Classes

/-!
# Canonical forms of values

A token is a value of a field if and only if it has a canonical form there
(`isSome_canonical?`).  A canonical form is one of the token as it was sent or, if it
has none, of the digits that it is cut to (`canonical?_cases`); there it is given by
the table, or the token matches the pattern and is its own (`canonicalAsSent?_cases`).

If the table is coherent, a canonical form stands for itself
(`canonicalAsSent?_of_canonical?`), whichever of these ways led to it: the table keeps
the canonical values of its classes, and it comes before the pattern.
-/

namespace ContestExchange

/-- A cut number holds a letter, and so does its number a digit. -/
theorem CutNumber.ne_empty_of_digits? {t d : String} (h : digits? t = some d) :
    t ≠ "" ∧ d ≠ "" := by
  rw [digits?] at h
  split at h
  · rename_i hcut
    obtain rfl := Option.some.inj h
    have hne : t.toList ≠ [] := by
      intro hnil
      simp [isCut, hnil] at hcut
    refine ⟨fun ht => hne (congrArg String.toList ht), fun hd => hne ?_⟩
    have hmap := congrArg String.toList hd
    rw [String.toList_ofList] at hmap
    exact List.map_eq_nil_iff.1 hmap
  · cases h

namespace Field

variable {f : Field} {t v d : String}

theorem isSome_canonicalAsSent? (f : Field) (v : String) :
    (f.canonicalAsSent? v).isSome = f.isLegalAsSent v := by
  rw [canonicalAsSent?, isLegalAsSent, Spellings.contains]
  cases f.spellings.canonical? v with
  | some c => simp
  | none => cases f.matchesPattern v <;> simp

/-- **The values of a field are the tokens with a canonical form.** -/
theorem isSome_canonical? (f : Field) (v : String) : (f.canonical? v).isSome = f.isLegal v := by
  rw [canonical?, isLegal, ← isSome_canonicalAsSent?]
  cases f.canonicalAsSent? v with
  | some c => rfl
  | none =>
    cases f.cutForm? v with
    | none => rfl
    | some d => simp [isSome_canonicalAsSent?]

/-! ### Where a canonical form comes from -/

theorem canonical?_of_canonicalAsSent? (h : f.canonicalAsSent? t = some v) :
    f.canonical? t = some v := by
  rw [canonical?, h]

theorem canonical?_of_canonicalAsSent?_eq_none (h : f.canonicalAsSent? t = none) :
    f.canonical? t = (f.cutForm? t).bind f.canonicalAsSent? := by
  rw [canonical?, h]

theorem canonicalAsSent?_eq_none_iff :
    f.canonicalAsSent? t = none ↔ f.matchesPattern t = false ∧ f.spellings.contains t = false := by
  rw [← Option.isNone_iff_eq_none, ← Option.not_isSome, isSome_canonicalAsSent?, isLegalAsSent,
    Bool.not_eq_true', Bool.or_eq_false_iff]

theorem digits?_of_cutForm? (h : f.cutForm? t = some d) : CutNumber.digits? t = some d := by
  rw [cutForm?] at h
  split at h
  · exact h
  · cases h

/-- A canonical form is one of the table, or it is the token. -/
theorem canonicalAsSent?_cases (h : f.canonicalAsSent? t = some v) :
    f.spellings.canonical? t = some v ∨
      f.spellings.canonical? t = none ∧ f.matchesPattern t = true ∧ v = t := by
  rw [canonicalAsSent?] at h
  split at h
  · rename_i c hc
    exact .inl (hc.trans h)
  · rename_i hc
    split at h
    · rename_i hp
      exact .inr ⟨hc, hp, (Option.some.inj h).symm⟩
    · cases h

/-- A canonical form is one of the token as it was sent, or of the digits that it is cut to. -/
theorem canonical?_cases (h : f.canonical? t = some v) :
    f.canonicalAsSent? t = some v ∨
      ∃ d, f.cutForm? t = some d ∧ f.canonicalAsSent? d = some v := by
  rw [canonical?] at h
  split at h
  · rename_i c hc
    exact .inl (hc.trans h)
  · exact .inr (Option.bind_eq_some_iff.1 h)

/-! ### Canonical forms stand for themselves -/

section Coherent

variable (hf : f.spellings.Coherent)
include hf

theorem canonicalAsSent?_self (h : f.canonicalAsSent? t = some v) :
    f.canonicalAsSent? v = some v := by
  rcases canonicalAsSent?_cases h with hc | ⟨-, -, rfl⟩
  · simp only [canonicalAsSent?, hf.closed hc]
  · exact h

/-- **A canonical form stands for itself.** -/
theorem canonicalAsSent?_of_canonical? (h : f.canonical? t = some v) :
    f.canonicalAsSent? v = some v := by
  rcases canonical?_cases h with h | ⟨d, -, h⟩
  · exact canonicalAsSent?_self hf h
  · exact canonicalAsSent?_self hf h

theorem canonical?_self (h : f.canonical? t = some v) : f.canonical? v = some v :=
  canonical?_of_canonicalAsSent? (canonicalAsSent?_of_canonical? hf h)

theorem isLegal_of_canonical? (h : f.canonical? t = some v) : f.isLegal v = true := by
  rw [← isSome_canonical?, canonical?_self hf h, Option.isSome_some]

/-- No text but the empty one stands for the empty text, and that for no other. -/
theorem canonicalAsSent?_eq_empty_iff (h : f.canonicalAsSent? t = some v) : v = "" ↔ t = "" := by
  rcases canonicalAsSent?_cases h with hc | ⟨-, -, rfl⟩
  · exact iff_of_false (hf.ne_empty (hf.closed hc)) (hf.ne_empty hc)
  · exact Iff.rfl

theorem canonical?_eq_empty_iff (h : f.canonical? t = some v) : v = "" ↔ t = "" := by
  rcases canonical?_cases h with h | ⟨d, hd, h⟩
  · exact canonicalAsSent?_eq_empty_iff hf h
  · obtain ⟨ht, hne⟩ := CutNumber.ne_empty_of_digits? (digits?_of_cutForm? hd)
    exact iff_of_false (fun hv => hne ((canonicalAsSent?_eq_empty_iff hf h).1 hv)) ht

/-- A canonical form is the canonical value of a class, or it matches the pattern. -/
theorem mem_canonicalValues_or (h : f.canonicalAsSent? t = some v) :
    v ∈ f.canonicalValues ∨ f.matchesPattern v = true ∧ v = t := by
  rcases canonicalAsSent?_cases h with hc | ⟨-, hp, rfl⟩
  · obtain ⟨m, hm, -⟩ := (hf.canonical?_iff t v).1 hc
    exact .inl (Spellings.mem_canonicalValues_iff.2 ⟨m, hm⟩)
  · exact .inr ⟨hp, rfl⟩

end Coherent

end Field

end ContestExchange
