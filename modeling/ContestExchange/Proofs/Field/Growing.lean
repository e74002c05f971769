import ContestExchange.Proofs.Field.Canonical

/-!
# Fields that grow

An addition to a table accepts nothing but its own texts (`canonical?_add_cases`), and
what was accepted before stays as it was.  So after any number of additions a text has
the canonical value that it had, or it had none and is one of the texts that were
added (`canonical?_addAll_cases`).

Additions to a field are additions to its table, with the blanks around the texts left
out (`addAll_eq`).  The table comes before the pattern and before the digits of a cut
number, so a value can get another canonical form: `addAll_monotone` says which ones
can.

Whatever else is done to a field (`Edit`), its table comes from additions
(`reached_editAll`), and so a canonical form always stands for itself
(`canonical?_of_edits`).
-/

namespace ContestExchange

open Text

namespace Spellings

variable {t u : Spellings} {v : String} {a : Addition}

/-! ### What an addition is about -/

/-- The texts of an addition. -/
def Addition.texts : Addition → List String
  | .canonical v => [v]
  | .alternative value alt => [value, alt]

/-- The addition without the blanks around its texts. -/
def Addition.trimmed : Addition → Addition
  | .canonical v => .canonical (trim v)
  | .alternative value alt => .alternative (trim value) (trim alt)

/-- The text is one of those of the additions, and not the empty one. -/
def Mentions (l : List Addition) (v : String) : Prop :=
  v ≠ "" ∧ ∃ a ∈ l, v ∈ a.texts

theorem Later.eq_none (h : Later t u) (hu : u.canonical? v = none) : t.canonical? v = none := by
  cases ht : t.canonical? v with
  | none => rfl
  | some c =>
    rw [h.stays ht] at hu
    cases hu

theorem canonical?_addCanonical_cases (t : Spellings) (value v : String) :
    (t.addCanonical value).1.canonical? v = t.canonical? v ∨
      t.canonical? v = none ∧ v ≠ "" ∧ v = value := by
  rcases t.addCanonical_cases value with ⟨-, he⟩ | ⟨hne, hnew, he⟩
  · rw [he]
    exact .inl rfl
  · rw [he, canonical?_put]
    by_cases hv : v = value
    · subst hv
      exact .inr ⟨hnew, hne, rfl⟩
    · exact .inl (if_neg hv)

/-- **An addition accepts nothing but its own texts.** -/
theorem canonical?_add_cases (t : Spellings) (a : Addition) (v : String) :
    (t.add a).1.canonical? v = t.canonical? v ∨
      t.canonical? v = none ∧ v ≠ "" ∧ v ∈ a.texts := by
  cases a with
  | canonical value =>
    rcases t.canonical?_addCanonical_cases value v with he | ⟨hnone, hne, hv⟩
    · exact .inl he
    · exact .inr ⟨hnone, hne, List.mem_singleton.2 hv⟩
  | alternative value alt =>
    -- the value is added first, and then the alternative
    have hvalue := t.canonical?_addCanonical_cases value v
    have hlater := (t.adds_addCanonical value).later
    show (t.addAlternative value alt).1.canonical? v = _ ∨ _
    rcases t.addAlternative_cases value alt with ⟨-, he⟩ | ⟨-, c, -, ⟨-, he⟩ | ⟨hne, hnew, he⟩⟩
    · rw [he]
      exact .inl rfl
    · rw [he]
      rcases hvalue with he | ⟨hnone, hne, rfl⟩
      · exact .inl he
      · exact .inr ⟨hnone, hne, List.mem_cons_self⟩
    · rw [he, canonical?_put]
      by_cases hv : v = alt
      · subst hv
        exact .inr ⟨hlater.eq_none hnew, hne, List.mem_cons_of_mem value List.mem_cons_self⟩
      · rw [if_neg hv]
        rcases hvalue with he | ⟨hnone, hne, rfl⟩
        · exact .inl he
        · exact .inr ⟨hnone, hne, List.mem_cons_self⟩

/-- **After any number of additions a text has the canonical value that it had, or it had
none and was mentioned.** -/
theorem canonical?_addAll_cases (t : Spellings) (l : List Addition) (v : String) :
    (t.addAll l).canonical? v = t.canonical? v ∨ t.canonical? v = none ∧ Mentions l v := by
  induction l generalizing t with
  | nil => exact .inl rfl
  | cons a r ih =>
    rcases ih (t.add a).1 with he | ⟨hnone, hne, b, hb, hv⟩
    · rcases t.canonical?_add_cases a v with ha | ⟨hnone, hne, hv⟩
      · exact .inl (he.trans ha)
      · exact .inr ⟨hnone, hne, a, List.mem_cons_self, hv⟩
    · exact .inr ⟨(t.adds_add a).later.eq_none hnone, hne, b, List.mem_cons_of_mem a hb, hv⟩

theorem Later.knows (h : Later t u) (ha : t.Knows a) : u.Knows a := by
  cases a with
  | canonical v =>
    rcases ha with hv | hv
    · exact .inl hv
    · exact .inr (h.contains hv)
  | alternative value alt =>
    rcases ha with hv | ⟨hv, halt | halt⟩
    · exact .inl hv
    · exact .inr ⟨h.contains hv, .inl halt⟩
    · exact .inr ⟨h.contains hv, .inr (h.contains halt)⟩

theorem knows_addAll (t : Spellings) {l : List Addition} (ha : a ∈ l) : (t.addAll l).Knows a := by
  induction l generalizing t with
  | nil => cases ha
  | cons b r ih =>
    rcases List.mem_cons.1 ha with rfl | ha
    · exact (later_addAll _ r).knows (t.knows_add a)
    · exact ih _ ha

end Spellings

namespace Field

open Spellings (Addition)

variable {f : Field} {v : String}

/-! ### Additions to a field -/

/-- Makes an addition; tells whether it changed anything. -/
def add (f : Field) : Addition → Field × Bool
  | .canonical v => f.addCanonical v
  | .alternative value alt => f.addAlternative value alt

def addAll (f : Field) (l : List Addition) : Field :=
  l.foldl (fun f a => (f.add a).1) f

theorem add_eq (f : Field) (a : Addition) :
    (f.add a).1 = { f with spellings := (f.spellings.add a.trimmed).1 } := by
  cases a <;> rfl

/-- **Additions to a field are additions to its table**, blanks aside. -/
theorem addAll_eq (f : Field) (l : List Addition) :
    f.addAll l = { f with spellings := f.spellings.addAll (l.map Addition.trimmed) } := by
  induction l generalizing f with
  | nil => rfl
  | cons a r ih =>
    show (f.add a).1.addAll r = _
    rw [ih, add_eq]
    rfl

section Frame

variable (f : Field) (l : List Addition)

theorem spellings_addAll :
    (f.addAll l).spellings = f.spellings.addAll (l.map Addition.trimmed) := by
  rw [addAll_eq]

theorem matchesPattern_addAll : (f.addAll l).matchesPattern = f.matchesPattern := by
  rw [addAll_eq]
  rfl

theorem cutForm?_addAll : (f.addAll l).cutForm? = f.cutForm? := by
  rw [addAll_eq]
  rfl

theorem contains_addAll (h : f.spellings.contains v = true) :
    (f.addAll l).spellings.contains v = true := by
  rw [spellings_addAll]
  exact (Spellings.later_addAll _ _).contains h

theorem isLegalAsSent_addAll (h : f.isLegalAsSent v = true) :
    (f.addAll l).isLegalAsSent v = true := by
  rw [isLegalAsSent, Bool.or_eq_true] at h ⊢
  rw [matchesPattern_addAll]
  exact h.imp_right (f.contains_addAll l)

/-- **What was a value still is.** -/
theorem isLegal_addAll (h : f.isLegal v = true) : (f.addAll l).isLegal v = true := by
  rw [isLegal, Bool.or_eq_true] at h ⊢
  rw [cutForm?_addAll]
  rcases h with h | h
  · exact .inl (f.isLegalAsSent_addAll l h)
  · obtain ⟨d, hd, h⟩ := (Option.any_eq_true _ _).1 h
    exact .inr ((Option.any_eq_true _ _).2 ⟨d, hd, f.isLegalAsSent_addAll l h⟩)

theorem canonicalAsSent?_addAll_cases (v : String) :
    (f.addAll l).canonicalAsSent? v = f.canonicalAsSent? v ∨
      Spellings.Mentions (l.map Addition.trimmed) v := by
  rw [canonicalAsSent?, canonicalAsSent?, spellings_addAll, matchesPattern_addAll]
  rcases f.spellings.canonical?_addAll_cases (l.map Addition.trimmed) v with he | ⟨-, hv⟩
  · rw [he]
    exact .inl rfl
  · exact .inr hv

/-- **A token stands for what it stood for, unless it was mentioned or the digits were that it
is cut to.** -/
theorem canonical?_addAll_cases (v : String) :
    (f.addAll l).canonical? v = f.canonical? v ∨
      ∃ x, (x = v ∨ f.cutForm? v = some x) ∧
        Spellings.Mentions (l.map Addition.trimmed) x := by
  rcases f.canonicalAsSent?_addAll_cases l v with hv | hv
  · -- as it was sent nothing has changed, so only what it is cut to can have
    rw [canonical?, canonical?, hv, cutForm?_addAll]
    cases hd : f.cutForm? v with
    | none => exact .inl rfl
    | some d =>
      rcases f.canonicalAsSent?_addAll_cases l d with he | hd'
      · rw [Option.bind_some, Option.bind_some, he]
        exact .inl rfl
      · exact .inr ⟨d, .inr rfl, hd'⟩
  · exact .inr ⟨v, .inl rfl, hv⟩

end Frame

/-- **Fields only grow.**  After any additions a value is still a value, and a spelling of the
table keeps its canonical form.  If a token changes its canonical form, then the token or the
digits that it is cut to are one of the texts that were added, blanks aside.  And whatever was
added is there. -/
theorem addAll_monotone (f : Field) (l : List Addition) :
    (∀ v, f.isLegal v = true → (f.addAll l).isLegal v = true) ∧
      (∀ v c, f.spellings.canonical? v = some c →
        f.canonical? v = some c ∧ (f.addAll l).canonical? v = some c) ∧
      (∀ v, (f.addAll l).canonical? v ≠ f.canonical? v →
        ∃ x, (x = v ∨ f.cutForm? v = some x) ∧
          Spellings.Mentions (l.map Addition.trimmed) x) ∧
      ∀ a ∈ l, (f.addAll l).spellings.Knows a.trimmed := by
  refine ⟨fun v hv => f.isLegal_addAll l hv, fun v c hc => ?_, fun v hne => ?_, fun a ha => ?_⟩
  · have hlater := Spellings.later_addAll f.spellings (l.map Addition.trimmed)
    refine ⟨canonical?_of_canonicalAsSent? ?_, canonical?_of_canonicalAsSent? ?_⟩
    · simp only [canonicalAsSent?, hc]
    · simp only [canonicalAsSent?, spellings_addAll, hlater.stays hc]
  · exact (f.canonical?_addAll_cases l v).resolve_left hne
  · rw [spellings_addAll]
    exact f.spellings.knows_addAll (List.mem_map_of_mem ha)

/-- Some digits and nothing else. -/
def digitsPattern : TokenPattern :=
  ⟨"^(?:[0-9]+)$", fun v => v != "" && v.toList.all Char.isDigit⟩

/-- A power in watts, with a spelling for a kilowatt. -/
def power : Field :=
  { ofName "POWER" with
    isNumeric := true
    pattern := some digitsPattern
    spellings := .addAll .empty [.alternative "K" "KW"] }

/-- A thousand watts become a spelling of a kilowatt, and so does the cut number. -/
theorem addAll_monotone_power :
    let added : List Addition := [.canonical " ", .alternative " K" "1000 "]
    (power.addAll added).isLegal "1TTT" = true ∧
      (power.addAll added).canonical? "KW" = some "K" ∧
      (power.canonical? "1TTT" = some "1000" ∧ (power.addAll added).canonical? "1TTT" = some "K" ∧
        ∃ x, (x = "1TTT" ∨ power.cutForm? "1TTT" = some x) ∧
          Spellings.Mentions (added.map Addition.trimmed) x) ∧
      (power.addAll added).spellings.Knows (.alternative "K" "1000") := by
  intro added
  obtain ⟨hlegal, hstays, hchanged, hknows⟩ := addAll_monotone power added
  have hbefore : power.canonical? "1TTT" = some "1000" := by decide +kernel
  have hafter : (power.addAll added).canonical? "1TTT" = some "K" := by decide +kernel
  refine ⟨hlegal "1TTT" (by decide +kernel), (hstays "KW" "K" (by decide +kernel)).2,
    ⟨hbefore, hafter, hchanged "1TTT" ?_⟩, ?_⟩
  · rw [hbefore, hafter]
    decide
  · exact hknows (.alternative " K" "1000 ") (List.mem_cons_of_mem _ List.mem_cons_self)

/-! ### Every field -/

/-- What can be done to a field. -/
inductive Edit where
  | pattern (p : Option TokenPattern)
  | table (l : List Addition)
  | numeric (b : Bool)
  | mult (b : Bool)
  | add (a : Addition)

/-- Gives the field a pattern, the table of some additions or a flag, or adds to its table. -/
def edit (f : Field) : Edit → Field
  | .pattern p => { f with pattern := p }
  | .table l => { f with spellings := Spellings.empty.addAll l }
  | .numeric b => { f with isNumeric := b }
  | .mult b => { f with isMult := b }
  | .add a => (f.add a).1

def editAll (f : Field) (l : List Edit) : Field :=
  l.foldl edit f

theorem reached_edit (h : f.spellings.Reached) (e : Edit) : (f.edit e).spellings.Reached := by
  cases e with
  | pattern p => exact h
  | table l => exact ⟨l, rfl⟩
  | numeric b => exact h
  | mult b => exact h
  | add a =>
    rw [edit, add_eq]
    exact h.add a.trimmed

/-- However a field is edited, its table comes from additions. -/
theorem reached_editAll (h : f.spellings.Reached) (l : List Edit) :
    (f.editAll l).spellings.Reached := by
  induction l generalizing f with
  | nil => exact h
  | cons e r ih => exact ih (reached_edit h e)

/-- **In every field the values are the tokens with a canonical form, and a canonical form is a
value that stands for itself.**  It is the canonical value of a class, or it matches the pattern
and is the token or the digits that the token is cut to. -/
theorem canonical?_of_edits (name : String) (l : List Edit) (v : String) :
    let f := (ofName name).editAll l
    (f.isLegal v = true ↔ (f.canonical? v).isSome = true) ∧
      ∀ c, f.canonical? v = some c →
        f.isLegal c = true ∧ f.canonical? c = some c ∧
          (c ∈ f.canonicalValues ∨
            f.matchesPattern c = true ∧ (c = v ∨ f.cutForm? v = some c)) := by
  intro f
  have hf : f.spellings.Coherent := (reached_editAll Spellings.reached_empty l).coherent
  refine ⟨by rw [isSome_canonical?], fun c hc => ?_⟩
  refine ⟨isLegal_of_canonical? hf hc, canonical?_self hf hc, ?_⟩
  rcases canonical?_cases hc with hc | ⟨d, hd, hc⟩
  · exact (mem_canonicalValues_or hf hc).imp_right fun ⟨hp, he⟩ => ⟨hp, .inl he⟩
  · exact (mem_canonicalValues_or hf hc).imp_right fun ⟨hp, he⟩ => ⟨hp, .inr (he ▸ hd)⟩

/-- A cut number whose digits are another spelling of a value, though they match the pattern
too. -/
theorem canonical?_of_edits_power :
    let f := (ofName "POWER").editAll [.table [.alternative "K" "KW"], .pattern none,
      .add (.alternative "KW " " 1000"), .numeric true, .pattern (some digitsPattern), .mult true]
    f.isLegal "1TTT" = true ∧ (f.canonical? "1TTT").isSome = true ∧ f.isLegal "K" = true ∧
      f.canonical? "K" = some "K" := by
  intro f
  obtain ⟨hiff, hcanonical⟩ := canonical?_of_edits "POWER" [.table [.alternative "K" "KW"],
    .pattern none, .add (.alternative "KW " " 1000"), .numeric true,
    .pattern (some digitsPattern), .mult true] "1TTT"
  have hlegal : f.isLegal "1TTT" = true := by decide +kernel
  obtain ⟨hvalue, hself, -⟩ := hcanonical "K" (by decide +kernel)
  exact ⟨hlegal, hiff.1 hlegal, hvalue, hself⟩

end Field

end ContestExchange
