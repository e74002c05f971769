import Mathlib.Data.List.Forall2
import ContestExchange.Exchange.Reading
import ContestExchange.Proofs.Field.Canonical
import ContestExchange.Proofs.Field.Catalogue

/-!
# Learning what is known

Two fields agree if they give the same canonical form to every token as it is sent;
then they take the same tokens at all.  Two catalogues agree if their fields do, one
by one, and then every text says the same with either of them (`Agrees.read`).

A field that learns a value which is its own canonical form already agrees with what
it was (`Field.agrees_addCanonical`): the value may become a new class, but the class
says of it what the pattern said before.  A canonical form is such a value
(`Field.canonicalAsSent?_of_canonical?`), and so is every value that a catalogue
gives (`Settles`).
-/

namespace ContestExchange

open Text

namespace Field

variable {f g k : Field}

/-- Both fields have one name and one place among the multipliers, and mean the same by every
token. -/
structure Agrees (f g : Field) : Prop where
  name : f.name = g.name
  isMult : f.isMult = g.isMult
  isNumeric : f.isNumeric = g.isNumeric
  canonicalAsSent? : ∀ v, f.canonicalAsSent? v = g.canonicalAsSent? v

theorem Agrees.refl (f : Field) : f.Agrees f :=
  ⟨rfl, rfl, rfl, fun _ => rfl⟩

theorem Agrees.trans (h : f.Agrees g) (h' : g.Agrees k) : f.Agrees k :=
  ⟨h.name.trans h'.name, h.isMult.trans h'.isMult, h.isNumeric.trans h'.isNumeric,
    fun v => (h.canonicalAsSent? v).trans (h'.canonicalAsSent? v)⟩

theorem Agrees.canonical? (h : f.Agrees g) (v : String) : f.canonical? v = g.canonical? v := by
  have hcut : f.cutForm? v = g.cutForm? v := by rw [cutForm?, cutForm?, h.isNumeric]
  rw [Field.canonical?, Field.canonical?, h.canonicalAsSent?, hcut, funext h.canonicalAsSent?]

theorem Agrees.isLegal (h : f.Agrees g) (v : String) : f.isLegal v = g.isLegal v := by
  rw [← isSome_canonical?, ← isSome_canonical?, h.canonical?]

/-! ### Learning a canonical form -/

theorem addCanonical_frame (f : Field) (v : String) :
    (f.addCanonical v).1.isMult = f.isMult ∧ (f.addCanonical v).1.isNumeric = f.isNumeric ∧
      (f.addCanonical v).1.matchesPattern = f.matchesPattern := by
  refine ⟨?_, ?_, funext fun w => ?_⟩ <;> simp only [addCanonical, matchesPattern]

/-- **Learning what stands for itself already changes nothing.** -/
theorem agrees_addCanonical {v : String} (h : f.canonicalAsSent? v = some v) (ht : trim v = v) :
    f.Agrees (f.addCanonical v).1 := by
  obtain ⟨hmult, hnumeric, hpattern⟩ := f.addCanonical_frame v
  refine ⟨(f.name_addCanonical v).symm, hmult.symm, hnumeric.symm, fun w => ?_⟩
  rw [Field.canonicalAsSent?, Field.canonicalAsSent?, hpattern, spellings_addCanonical, ht]
  rcases f.spellings.addCanonical_cases v with ⟨-, he⟩ | ⟨-, hnew, he⟩
  · rw [he]
  · rw [he, Spellings.canonical?_put]
    by_cases hw : w = v
    · subst hw
      rw [Field.canonicalAsSent?] at h
      rw [if_pos rfl, h]
    · rw [if_neg hw]

theorem trim_of_canonicalAsSent? (hf : f.spellings.Tidy) {t v : String} (ht : Unbroken t)
    (h : f.canonicalAsSent? t = some v) : trim v = v := by
  rcases canonicalAsSent?_cases h with hc | ⟨-, -, rfl⟩
  · exact (hf t v hc).2
  · exact ht.trim_eq

theorem trim_of_canonical? (hf : f.spellings.Tidy) {t v : String} (ht : Unbroken t)
    (h : f.canonical? t = some v) : trim v = v := by
  rcases canonical?_cases h with h | ⟨d, hd, h⟩
  · exact trim_of_canonicalAsSent? hf ht h
  · have hdigits := CutNumber.unbroken_of_digits? ht (digits?_of_cutForm? hd)
    exact trim_of_canonicalAsSent? hf hdigits h

end Field

namespace Catalogue

variable {c d e : Catalogue}

/-! ### Catalogues that agree -/

/-- The fields agree one by one, and the groups are the same. -/
structure Agrees (c d : Catalogue) : Prop where
  fields : List.Forall₂ Field.Agrees c.fields d.fields
  groups : c.groups = d.groups

theorem Agrees.refl (c : Catalogue) : c.Agrees c :=
  ⟨List.forall₂_same.2 fun f _ => .refl f, rfl⟩

theorem forall₂_agrees_trans {l m n : List Field} (h : List.Forall₂ Field.Agrees l m)
    (h' : List.Forall₂ Field.Agrees m n) : List.Forall₂ Field.Agrees l n := by
  induction h generalizing n with
  | nil => exact h'
  | cons hfg _ ih =>
    cases h' with
    | cons hgk hr => exact .cons (hfg.trans hgk) (ih hr)

theorem Agrees.trans (h : c.Agrees d) (h' : d.Agrees e) : c.Agrees e :=
  ⟨forall₂_agrees_trans h.fields h'.fields, h.groups.trans h'.groups⟩

theorem getElem?_of_forall₂ {l m : List Field} (h : List.Forall₂ Field.Agrees l m) (i : Nat) :
    l[i]? = none ∧ m[i]? = none ∨ ∃ f g, l[i]? = some f ∧ m[i]? = some g ∧ f.Agrees g := by
  induction h generalizing i with
  | nil => exact .inl ⟨rfl, rfl⟩
  | @cons f g l m hfg _ ih =>
    cases i with
    | zero => exact .inr ⟨f, g, rfl, rfl, hfg⟩
    | succ i => exact ih i

theorem Agrees.getElem? (h : c.Agrees d) (i : Nat) :
    c.fields[i]? = none ∧ d.fields[i]? = none ∨
      ∃ f g, c.fields[i]? = some f ∧ d.fields[i]? = some g ∧ f.Agrees g :=
  getElem?_of_forall₂ h.fields i

section Agreeing

variable (h : c.Agrees d)
include h

theorem Agrees.names : c.names = d.names := by
  have hl := h.fields
  rw [Catalogue.names, Catalogue.names]
  generalize c.fields = l at hl
  generalize d.fields = m at hl
  induction hl with
  | nil => rfl
  | cons hfg _ ih => rw [List.map_cons, List.map_cons, hfg.name, ih]

theorem Agrees.id? (name : String) : c.id? name = d.id? name := by
  refine Option.ext fun i => ?_
  rw [id?_eq_some_iff, id?_eq_some_iff, h.names]

theorem Agrees.isMult (name : String) : c.isMult name = d.isMult name := by
  rw [Catalogue.isMult, Catalogue.isMult, field?, field?, h.id?]
  cases d.id? name with
  | none => rfl
  | some i =>
    rw [Option.bind_some, Option.bind_some]
    rcases h.getElem? i with ⟨hc, hd⟩ | ⟨f, g, hf, hg, hfg⟩
    · rw [hc, hd]
    · rw [hf, hg, Option.any_some, Option.any_some, hfg.isMult]

theorem Agrees.kind? (name : String) : c.kind? name = d.kind? name := by
  rw [Catalogue.kind?, Catalogue.kind?, h.id?, h.groups]

theorem Agrees.takes (v : String) (id : Nat) : c.takes v id = d.takes v id := by
  rw [Catalogue.takes, Catalogue.takes]
  rcases h.getElem? id with ⟨hc, hd⟩ | ⟨f, g, hf, hg, hfg⟩
  · rw [hc, hd]
  · rw [hf, hg, Option.any_some, Option.any_some, hfg.isLegal]

theorem Agrees.resolve? (name v : String) : c.resolve? name v = d.resolve? name v := by
  rw [Catalogue.resolve?, Catalogue.resolve?, h.kind?, funext (h.takes v)]

theorem Agrees.isLegal (name v : String) : c.isLegal name v = d.isLegal name v := by
  rw [Catalogue.isLegal, Catalogue.isLegal, h.resolve?]

theorem Agrees.canonical? (name v : String) : c.canonical? name v = d.canonical? name v := by
  rw [Catalogue.canonical?, Catalogue.canonical?, h.resolve?]
  refine Option.bind_congr fun id _ => ?_
  rcases h.getElem? id with ⟨hc, hd⟩ | ⟨f, g, hf, hg, hfg⟩
  · rw [hc, hd]
  · rw [hf, hg, Option.bind_some, Option.bind_some, hfg.canonical?]

theorem Agrees.emptyEntry (slot : Slot) : c.emptyEntry slot = d.emptyEntry slot := by
  rw [Catalogue.emptyEntry, Catalogue.emptyEntry, h.isMult]

theorem Agrees.admits (token : String) (k : Kind) : c.admits token k = d.admits token k := by
  cases k with
  | single id => exact h.takes token id
  | group ids => rw [Catalogue.admits, Catalogue.admits, funext (h.takes token)]

theorem Agrees.candidates (template : Template) (token : String) :
    c.candidates template token = d.candidates template token := by
  rw [Catalogue.candidates, Catalogue.candidates, funext (h.admits token), funext h.kind?]

theorem Agrees.fieldFor? (token : String) (k : Kind) :
    c.fieldFor? token k = none ∧ d.fieldFor? token k = none ∨
      ∃ f g, c.fieldFor? token k = some f ∧ d.fieldFor? token k = some g ∧ f.Agrees g := by
  cases k with
  | single id => exact h.getElem? id
  | group ids =>
    rw [Catalogue.fieldFor?, Catalogue.fieldFor?, funext (h.takes token)]
    cases ids.find? (d.takes token) with
    | none => exact .inl ⟨rfl, rfl⟩
    | some id => exact h.getElem? id

theorem Agrees.filling? (slot : Slot) (token : Option String) :
    c.filling? slot token = none ∧ d.filling? slot token = none ∨
      ∃ f g t, c.filling? slot token = some (f, t) ∧ d.filling? slot token = some (g, t) ∧
        f.Agrees g := by
  rw [Catalogue.filling?, Catalogue.filling?, h.kind?]
  cases d.kind? slot.name with
  | none => exact .inl ⟨rfl, rfl⟩
  | some k =>
    cases token with
    | none => exact .inl ⟨rfl, rfl⟩
    | some t =>
      simp only [Option.bind_some]
      rcases h.fieldFor? t k with ⟨hc, hd⟩ | ⟨f, g, hf, hg, hfg⟩
      · rw [hc, hd]
        exact .inl ⟨rfl, rfl⟩
      · rw [hf, hg]
        exact .inr ⟨f, g, t, rfl, rfl, hfg⟩

theorem Agrees.entry (slot : Slot) (token : Option String) :
    c.entry slot token = d.entry slot token := by
  rw [Catalogue.entry, Catalogue.entry, h.emptyEntry]
  rcases h.filling? slot token with ⟨hc, hd⟩ | ⟨f, g, t, hf, hg, hfg⟩
  · rw [hc, hd]
  · rw [hf, hg]
    simp only [hfg.name, hfg.isMult, hfg.canonical?]

theorem Agrees.isSome_filling? (slot : Slot) (token : Option String) :
    (c.filling? slot token).isSome = (d.filling? slot token).isSome := by
  rcases h.filling? slot token with ⟨hc, hd⟩ | ⟨f, g, t, hf, hg, -⟩
  · rw [hc, hd]
  · rw [hf, hg]
    rfl

theorem Agrees.readTokens (template : Template) (received : List String) :
    c.readTokens template received = d.readTokens template received := by
  simp only [Catalogue.readTokens, h.candidates, h.entry, h.isSome_filling?]

/-- **With catalogues that agree every text says the same.** -/
theorem Agrees.read (template : Template) (text : String) :
    c.read template text = d.read template text :=
  h.readTokens template _

end Agreeing

/-! ### Learning what is settled -/

/-- The value is its own canonical form in the field with the name. -/
def Settles (c : Catalogue) (name v : String) : Prop :=
  trim v = v ∧
    ∃ i f, c.id? name = some i ∧ c.fields[i]? = some f ∧ f.canonicalAsSent? v = some v

theorem Settles.of_agrees {name v : String} (hs : c.Settles name v) (h : c.Agrees d) :
    d.Settles name v := by
  obtain ⟨ht, i, f, hi, hf, hv⟩ := hs
  refine ⟨ht, i, ?_⟩
  rcases h.getElem? i with ⟨hc, -⟩ | ⟨f', g, hf', hg, hfg⟩
  · rw [hf] at hc
    cases hc
  · rw [hf, Option.some.injEq] at hf'
    subst hf'
    exact ⟨g, (h.id? name).symm.trans hi, hg, (hfg.canonicalAsSent? v).symm.trans hv⟩

theorem forall₂_set {l : List Field} {i : Nat} {f g : Field} (hf : l[i]? = some f)
    (hfg : f.Agrees g) : List.Forall₂ Field.Agrees l (l.set i g) := by
  induction l generalizing i with
  | nil => cases hf
  | cons k r ih =>
    cases i with
    | zero =>
      obtain rfl := Option.some.inj hf
      exact .cons hfg (List.forall₂_same.2 fun f _ => .refl f)
    | succ i => exact .cons (.refl k) (ih hf)

/-- **Learning a settled value changes nothing.** -/
theorem Settles.agrees_learn {name v : String} (hs : c.Settles name v) :
    c.Agrees (c.learn name v).1 := by
  obtain ⟨ht, i, f, hi, hf, hv⟩ := hs
  rcases c.update_cases name fun f => f.name_addCanonical v with
    ⟨hnone, -⟩ | ⟨j, g, _, hj, hg, he⟩
  · rw [hi] at hnone
    cases hnone
  · rw [hi, Option.some.injEq] at hj
    subst hj
    rw [hf, Option.some.injEq] at hg
    subst hg
    rw [learn, he]
    exact ⟨forall₂_set hf (Field.agrees_addCanonical hv ht), rfl⟩

/-- So does learning any number of them. -/
theorem agrees_foldl_learn {l : List Entry} (h : ∀ e ∈ l, c.Settles e.field e.value) :
    c.Agrees (l.foldl (fun c e => (c.learn e.field e.value).1) c) := by
  induction l generalizing c with
  | nil => exact .refl c
  | cons e r ih =>
    have hlearn := (h e List.mem_cons_self).agrees_learn
    exact hlearn.trans (ih fun e' he' => (h e' (List.mem_cons_of_mem e he')).of_agrees hlearn)

end Catalogue

end ContestExchange
