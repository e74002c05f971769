import ContestExchange.Proofs.Field.Mentions
import ContestExchange.Proofs.Text.Joined
import ContestExchange.Proofs.Text.Order

/-!
# Values for a country

A contest's value for a country, `value|alternative|…`, and a line of a sheet of
values, `value=alternative,…`, are two ways to write one class.  The line is
`CountryValue.line?`; where the parts of the value can stand on a line at all
(`CountryValue.IsPlain`), reading the line comes to the same as adding the value
(`addEntry_line`), and so the values of a contest are lines at the end of the sheet
(`addOverrides_parse`).
-/

namespace ContestExchange

open Text

/-! ### Lines of classes -/

/-- The line of a sheet of values for a class. -/
def classLine (value : String) : List String → String
  | [] => value
  | alts => value ++ "=" ++ joinWith "," alts

theorem classLine_cons (value a : String) (r : List String) :
    classLine value (a :: r) = value ++ "=" ++ joinWith "," (a :: r) := rfl

/-- A text that can stand on the line of a class. -/
structure IsPart (p : String) : Prop where
  trim_eq : trim p = p
  ne_empty : p ≠ ""
  free : ',' ∉ p.toList ∧ '=' ∉ p.toList ∧ '\n' ∉ p.toList

section Line

variable {value : String} {alts : List String}

theorem trim_classLine (h : ∀ p ∈ value :: alts, IsPart p) :
    trim (classLine value alts) = classLine value alts := by
  have hvalue := h value List.mem_cons_self
  cases alts with
  | nil => exact hvalue.trim_eq
  | cons a r =>
    have hne := (h a (List.mem_cons_of_mem value List.mem_cons_self)).ne_empty
    have halts : trim (joinWith "," (a :: r)) = joinWith "," (a :: r) :=
      trim_joinWith "," fun p hp =>
        have hpart := h p (List.mem_cons_of_mem value hp)
        ⟨hpart.trim_eq, hpart.ne_empty⟩
    exact trim_append hvalue.trim_eq hvalue.ne_empty halts (joinWith_ne_empty "," hne r) "="

theorem lineEnd_notMem_classLine (h : ∀ p ∈ value :: alts, IsPart p) :
    '\n' ∉ (classLine value alts).toList := by
  cases alts with
  | nil => exact (h value List.mem_cons_self).free.2.2
  | cons a r =>
    rw [classLine_cons, String.toList_append, String.toList_append, List.mem_append,
      List.mem_append]
    rintro ((hmem | hmem) | hmem)
    · exact (h value List.mem_cons_self).free.2.2 hmem
    · revert hmem
      decide
    · rcases mem_joinWith hmem with hmem | ⟨p, hp, hmem⟩
      · revert hmem
        decide
      · exact (h p (List.mem_cons_of_mem value hp)).free.2.2 hmem

theorem isEntry_of_not_comment {s : String} (hne : s ≠ "") (hsemicolon : ¬ [';'] <+: s.toList)
    (hstrokes : ¬ ['/', '/'] <+: s.toList) : Sheet.isEntry s = true := by
  rw [Sheet.isEntry]
  split
  · rename_i h
    exact absurd (String.toList_eq_nil_iff.1 h) hne
  · rename_i r h
    exact absurd ⟨r, h.symm⟩ hsemicolon
  · rename_i r h
    exact absurd ⟨r, h.symm⟩ hstrokes
  · rfl

theorem isEntry_classLine (hne : value ≠ "") (hsemicolon : ¬ [';'] <+: value.toList)
    (hstrokes : ¬ ['/', '/'] <+: value.toList) : Sheet.isEntry (classLine value alts) = true := by
  cases alts with
  | nil => exact isEntry_of_not_comment hne hsemicolon hstrokes
  | cons a r =>
    have hlist : (classLine value (a :: r)).toList =
        value.toList ++ '=' :: (joinWith "," (a :: r)).toList := by
      rw [classLine_cons, String.toList_append, String.toList_append, List.append_assoc]
      rfl
    obtain ⟨c, cs, hvalue⟩ : ∃ c cs, value.toList = c :: cs :=
      List.exists_cons_of_ne_nil (String.toList_eq_nil_iff.not.2 hne)
    rw [hvalue] at hlist hsemicolon hstrokes
    apply isEntry_of_not_comment
    · rintro he
      rw [he] at hlist
      cases hlist
    · rw [hlist, List.cons_append, List.cons_prefix_cons]
      rintro ⟨rfl, -⟩
      exact hsemicolon ⟨cs, rfl⟩
    · -- behind a lone stroke stands the equals sign
      rw [hlist, List.cons_append, List.cons_prefix_cons]
      rintro ⟨rfl, hsecond⟩
      cases cs with
      | nil =>
        rw [List.nil_append, List.cons_prefix_cons] at hsecond
        exact absurd hsecond.1 (by decide)
      | cons d r =>
        rw [List.cons_append, List.cons_prefix_cons] at hsecond
        obtain ⟨rfl, -⟩ := hsecond
        exact hstrokes ⟨r, rfl⟩

/-- **The line of a class is read as the class.** -/
theorem addEntry_classLine (h : ∀ p ∈ value :: alts, IsPart p) (t : Spellings) :
    t.addEntry (classLine value alts) = t.addClass value alts := by
  have hvalue := h value List.mem_cons_self
  cases alts with
  | nil =>
    rw [Spellings.addEntry, classLine, splitOnce_eq_none hvalue.free.2.1]
    rfl
  | cons a r =>
    have hcut : splitOnce '=' (classLine value (a :: r)) =
        some (value, joinWith "," (a :: r)) := by
      refine splitOnce_eq_some hvalue.free.2.1 ?_
      rw [classLine_cons, String.toList_append, String.toList_append, List.append_assoc]
      rfl
    have halts : trimmedParts ',' (joinWith "," (a :: r)) = a :: r :=
      trimmedParts_joinWith fun p hp =>
        have hpart := h p (List.mem_cons_of_mem value hp)
        ⟨hpart.trim_eq, hpart.ne_empty, hpart.free.1⟩
    rw [Spellings.addEntry, hcut]
    simp only [hvalue.trim_eq, halts]

end Line

namespace CountryValue

/-- The line of a sheet of values that says what a contest's value for a country says, if it
says anything. -/
def line? (text : String) : Option String :=
  match trimmedParts '|' text with
  | [] => none
  | value :: alts => some (classLine value alts)

/-- No part holds a comma, an equals sign or a line end, and the first one does not begin as a
comment does. -/
structure IsPlain (text : String) : Prop where
  free : ∀ p ∈ trimmedParts '|' text, ',' ∉ p.toList ∧ '=' ∉ p.toList ∧ '\n' ∉ p.toList
  entry : ∀ p ∈ (trimmedParts '|' text).head?, ¬ [';'] <+: p.toList ∧ ¬ ['/', '/'] <+: p.toList

instance (text : String) : Decidable (IsPlain text) :=
  decidable_of_iff
    ((∀ p ∈ trimmedParts '|' text, ',' ∉ p.toList ∧ '=' ∉ p.toList ∧ '\n' ∉ p.toList) ∧
      ∀ p ∈ (trimmedParts '|' text).head?, ¬ [';'] <+: p.toList ∧ ¬ ['/', '/'] <+: p.toList)
    ⟨fun h => ⟨h.1, h.2⟩, fun h => ⟨h.free, h.entry⟩⟩

variable {text line : String}

theorem IsPlain.isPart (h : IsPlain text) {p : String} (hp : p ∈ trimmedParts '|' text) :
    IsPart p :=
  ⟨trim_of_mem_trimmedParts hp, ne_empty_of_mem_trimmedParts hp, h.free p hp⟩

theorem exists_of_line? (h : line? text = some line) :
    ∃ value alts, trimmedParts '|' text = value :: alts ∧ line = classLine value alts := by
  rw [line?] at h
  split at h
  · cases h
  · rename_i value alts hparts
    exact ⟨value, alts, hparts, (Option.some.inj h).symm⟩

theorem entry_line (h : IsPlain text) (hline : line? text = some line) :
    trim line = line ∧ '\n' ∉ line.toList ∧ Sheet.isEntry line = true := by
  obtain ⟨value, alts, hparts, rfl⟩ := exists_of_line? hline
  have hpart : ∀ p ∈ value :: alts, IsPart p := fun p hp => h.isPart (hparts ▸ hp)
  obtain ⟨hsemicolon, hstrokes⟩ := h.entry value (by rw [hparts]; rfl)
  exact ⟨trim_classLine hpart, lineEnd_notMem_classLine hpart,
    isEntry_classLine (hpart value List.mem_cons_self).ne_empty hsemicolon hstrokes⟩

/-- **The line says what the value says**, and without a line the value says nothing. -/
theorem addOverride_eq (h : IsPlain text) (t : Spellings) :
    t.addOverride text = ((line? text).elim t t.addEntry) := by
  rw [Spellings.addOverride, line?]
  cases hparts : trimmedParts '|' text with
  | nil => rfl
  | cons value alts =>
    have hpart : ∀ p ∈ value :: alts, IsPart p := fun p hp => h.isPart (hparts ▸ hp)
    exact (addEntry_classLine hpart t).symm

theorem foldl_addOverride {texts : List String} (h : ∀ o ∈ texts, IsPlain o) (t : Spellings) :
    texts.foldl Spellings.addOverride t = (texts.filterMap line?).foldl Spellings.addEntry t := by
  rw [List.foldl_filterMap]
  refine List.foldl_ext _ _ _ fun t o ho => (addOverride_eq (h o ho) t).trans ?_
  cases line? o <;> rfl

end CountryValue

theorem Spellings.parse_append (s r : String) :
    parse (s ++ "\n" ++ r) = (Sheet.entries r).foldl addEntry (parse s) := by
  rw [parse, Sheet.entries_append, List.foldl_append]
  rfl

/-- **The values of a contest for a country are lines at the end of the sheet**, in ascending
order of the values, with or without a line end behind the last one. -/
theorem Spellings.addOverrides_parse (text : String) (texts : List String)
    (h : ∀ o ∈ texts, CountryValue.IsPlain o) :
    ∀ ending ∈ ["", "\n"], (parse text).addOverrides texts =
      parse (text ++ "\n" ++ joinWith "\n" ((sortUnique texts).filterMap CountryValue.line?) ++
        ending) := by
  have hplain : ∀ o ∈ sortUnique texts, CountryValue.IsPlain o := fun o ho =>
    h o (List.mem_eraseDups.1 (mem_sort.1 ho))
  have hentries : Sheet.entries
      (joinWith "\n" ((sortUnique texts).filterMap CountryValue.line?)) =
        (sortUnique texts).filterMap CountryValue.line? :=
    Sheet.entries_joinWith fun line hline => by
      obtain ⟨o, ho, hline⟩ := List.mem_filterMap.1 hline
      exact CountryValue.entry_line (hplain o ho) hline
  have hlines : (parse text).addOverrides texts =
      parse (text ++ "\n" ++ joinWith "\n" ((sortUnique texts).filterMap CountryValue.line?)) := by
    rw [addOverrides, CountryValue.foldl_addOverride hplain, parse_append, hentries]
  intro ending hending
  rcases List.mem_cons.1 hending with rfl | hending
  · rw [String.append_empty, hlines]
  · obtain rfl := List.mem_singleton.1 hending
    have hend := parse_append
      (text ++ "\n" ++ joinWith "\n" ((sortUnique texts).filterMap CountryValue.line?)) ""
    rw [String.append_empty] at hend
    rw [hend, hlines]
    rfl

/-- Values that share spellings with one another and with the sheet. -/
theorem Spellings.addOverrides_parse_budapest :
    let text := "BP=BUDAPEST\n; Hungary"
    let texts := [" | ", "/|;", "BUDAPEST|PEST|", "GY | GYOR|PEST"]
    (∀ o ∈ texts, CountryValue.IsPlain o) ∧
      (parse text).addOverrides texts =
        parse "BP=BUDAPEST\n; Hungary\n/=;\nBUDAPEST=PEST\nGY=GYOR,PEST" ∧
      ((parse text).addOverrides texts).canonical? "PEST" = some "BP" := by
  intro text texts
  have hplain : ∀ o ∈ texts, CountryValue.IsPlain o := by decide +kernel
  have hparse := addOverrides_parse text texts hplain "" List.mem_cons_self
  have hsorted : sortUnique texts = texts := sortUnique_of_pairwise (by decide +kernel)
  rw [hsorted] at hparse
  have hlines : text ++ "\n" ++
      joinWith "\n" (texts.filterMap CountryValue.line?) ++ "" =
        "BP=BUDAPEST\n; Hungary\n/=;\nBUDAPEST=PEST\nGY=GYOR,PEST" := by decide +kernel
  rw [hlines] at hparse
  exact ⟨hplain, hparse, by rw [hparse]; decide +kernel⟩

end ContestExchange
