import Mathlib.Data.List.Basic
import ContestExchange.Proofs.Field.Classes
import ContestExchange.Proofs.Text.Words

/-!
# Sheets of values

A sheet of values is a list of mentions (`Mention.ofSheet`): a line mentions the value
at its front as a spelling of itself, and then each alternative as a spelling of that
value.  The table that is read from the sheet is told by these mentions alone, and of
those of one spelling by the first (`parse_firstMentions`).

What carries the proof is that every mention is grounded: the value that it names has
been mentioned by then (`Grounded`).  So one more mention accepts its spelling and
nothing else, and the canonical value that the spelling gets is known already
(`canonical?_mention`).
-/

namespace ContestExchange

open Text

/-- A spelling, and the value that it is given as a spelling of. -/
structure Mention where
  value : String
  spelling : String
deriving DecidableEq

namespace Mention

/-- The mentions of a class: its value, and then its alternatives.  Without a value there
are none. -/
def ofClass (value : String) (alts : List String) : List Mention :=
  if value = "" then [] else ⟨value, value⟩ :: alts.map (Mention.mk value)

/-- The mentions on a line: the value stands before the first equals sign, and the
alternatives behind it, with commas between them. -/
def ofLine (line : String) : List Mention :=
  ofClass (trim (String.ofList (line.toList.takeWhile (· != '='))))
    (trimmedParts ',' (String.ofList (line.toList.dropWhile (· != '=')).tail))

/-- The mentions on a sheet in reading order, comments left out. -/
def ofSheet (text : String) : List Mention :=
  (Sheet.entries text).flatMap ofLine

/-- The first mention of a spelling. -/
def first? (l : List Mention) (v : String) : Option Mention :=
  l.find? (·.spelling = v)

theorem first?_eq_some_iff {l : List Mention} {v : String} {m : Mention} :
    first? l v = some m ↔ m.spelling = v ∧
      ∃ before after, l = before ++ m :: after ∧ ∀ n ∈ before, n.spelling ≠ v := by
  simp [first?, List.find?_eq_some_iff_append]

theorem first?_eq_none_iff {l : List Mention} {v : String} :
    first? l v = none ↔ ∀ n ∈ l, n.spelling ≠ v := by
  simp [first?]

theorem exists_first? {l : List Mention} {v : String} (h : ∃ m ∈ l, m.spelling = v) :
    ∃ m, first? l v = some m := by
  rw [← Option.isSome_iff_exists, first?, List.find?_isSome]
  simpa using h

end Mention

namespace Spellings

variable {t : Spellings} {l : List Mention} {m : Mention} {v w : String}

/-! ### One more mention -/

/-- Takes a mention into the table. -/
def mention (t : Spellings) (m : Mention) : Spellings :=
  (t.addAlternative m.value m.spelling).1

/-- The table that mentions lead to. -/
def ofMentions (l : List Mention) : Spellings :=
  l.foldl mention empty

theorem ofMentions_concat (l : List Mention) (m : Mention) :
    ofMentions (l ++ [m]) = (ofMentions l).mention m := by
  rw [ofMentions, List.foldl_append]
  rfl

theorem mention_self (t : Spellings) (v : String) : t.mention ⟨v, v⟩ = (t.addCanonical v).1 := by
  show (t.addAlternative v v).1 = _
  rcases t.addAlternative_cases v v with ⟨rfl, he⟩ | ⟨-, c, hc, ⟨-, he⟩ | ⟨-, hnew, -⟩⟩
  · rw [he, addCanonical_of_knows (.inl rfl)]
  · rw [he]
  · rw [hc] at hnew
    cases hnew

/-- The mention names a value that is accepted already, unless it names its own spelling; and it
names nothing empty. -/
structure Admits (t : Spellings) (m : Mention) : Prop where
  value_ne : m.value ≠ ""
  spelling_ne : m.spelling ≠ ""
  known : m.value = m.spelling ∨ t.contains m.value = true

/-- **A mention accepts its spelling and nothing else**: what was accepted stays as it was, and
a new spelling gets the canonical value of the value that it is a spelling of. -/
theorem canonical?_mention (h : t.Admits m) (w : String) :
    (t.mention m).canonical? w = (t.canonical? w).or
      (if m.spelling = w then if m.value = w then some w else t.canonical? m.value else none) := by
  obtain ⟨value, spelling⟩ := m
  obtain ⟨hvalue, hspelling, hknown⟩ := h
  simp only at hvalue hspelling hknown ⊢
  by_cases hself : value = spelling
  · subst hself
    rw [mention_self]
    rcases t.addCanonical_cases value with ⟨hv, he⟩ | ⟨-, hnew, he⟩
    · obtain ⟨c, hc⟩ := contains_iff.1 (hv.resolve_left hvalue)
      rw [he]
      by_cases hw : value = w
      · rw [← hw, hc, Option.some_or]
      · rw [if_neg hw, Option.or_none]
    · rw [he, canonical?_put]
      by_cases hw : value = w
      · rw [← hw, hnew, if_pos rfl, if_pos rfl, Option.none_or]
      · rw [if_neg (Ne.symm hw), if_neg hw, Option.or_none]
  · have hcontains := hknown.resolve_left hself
    obtain ⟨c, hc⟩ := contains_iff.1 hcontains
    have hadd := addCanonical_of_knows (.inr hcontains : t.Knows (.canonical value))
    show (t.addAlternative value spelling).1.canonical? w = _
    rcases t.addAlternative_cases value spelling with
      ⟨hv, -⟩ | ⟨-, d, hd, ⟨halt, he⟩ | ⟨-, hnew, he⟩⟩
    · exact absurd hv hvalue
    · rw [hadd] at he halt
      rw [he]
      by_cases hw : spelling = w
      · obtain ⟨e, he⟩ := contains_iff.1 (halt.resolve_left hspelling)
        rw [← hw, he, Option.some_or]
      · rw [if_neg hw, Option.or_none]
    · rw [hadd] at he hd hnew
      rw [he, canonical?_put]
      by_cases hw : spelling = w
      · subst hw
        rw [if_pos rfl, if_pos rfl, if_neg hself, hnew, hd, Option.none_or]
      · rw [if_neg (Ne.symm hw), if_neg hw, Option.or_none]

theorem contains_mention (h : t.Admits m) (v : String) :
    (t.mention m).contains v = true ↔ t.contains v = true ∨ m.spelling = v := by
  rw [contains, canonical?_mention h, Option.isSome_or, Bool.or_eq_true, contains]
  refine or_congr_right ⟨fun hv => ?_, ?_⟩
  · by_contra hne
    rw [if_neg hne] at hv
    cases hv
  · rintro rfl
    rw [if_pos rfl]
    split
    · rfl
    · exact h.known.resolve_left ‹_›

theorem later_mention (t : Spellings) (m : Mention) : Later t (t.mention m) :=
  (t.adds_addAlternative m.value m.spelling).later

theorem later_foldl_mention (t : Spellings) (l : List Mention) : Later t (l.foldl mention t) := by
  induction l generalizing t with
  | nil => exact .refl
  | cons m r ih => exact (later_mention t m).trans (ih _)

theorem coherent_ofMentions (l : List Mention) : (ofMentions l).Coherent :=
  (later_foldl_mention empty l).coherent coherent_empty

theorem canonical?_ofMentions_append {c : String} (h : (ofMentions l).canonical? v = some c)
    (r : List Mention) : (ofMentions (l ++ r)).canonical? v = some c := by
  rw [ofMentions, List.foldl_append]
  exact (later_foldl_mention _ r).stays h

/-! ### Grounded mentions -/

/-- Every mention names a value that has been mentioned by then, and nothing empty. -/
inductive Grounded : List Mention → Prop
  | nil : Grounded []
  | concat {l : List Mention} {m : Mention} (h : Grounded l) (hvalue : m.value ≠ "")
    (hspelling : m.spelling ≠ "") (hknown : m.value = m.spelling ∨ ∃ n ∈ l, n.spelling = m.value) :
    Grounded (l ++ [m])

/-- **Accepted is what has been mentioned.** -/
theorem Grounded.contains_iff (h : Grounded l) (v : String) :
    (ofMentions l).contains v = true ↔ ∃ m ∈ l, m.spelling = v := by
  induction h generalizing v with
  | nil =>
    constructor
    · intro hv
      cases hv
    · rintro ⟨m, hm, -⟩
      cases hm
  | @concat l m _ hvalue hspelling hknown ih =>
    have hadmits : (ofMentions l).Admits m :=
      ⟨hvalue, hspelling, hknown.imp_right (ih m.value).2⟩
    rw [ofMentions_concat, contains_mention hadmits, ih]
    simp [or_and_right, exists_or]

/-- In front of a mention stand grounded ones, and it names one of their spellings or its own. -/
theorem Grounded.split (h : Grounded l) {before after : List Mention}
    (hl : l = before ++ m :: after) : Grounded before ∧ m.value ≠ "" ∧ m.spelling ≠ "" ∧
      (m.value = m.spelling ∨ ∃ n ∈ before, n.spelling = m.value) := by
  induction h generalizing after with
  | nil => simp at hl
  | @concat l n h hvalue hspelling hknown ih =>
    rcases List.eq_nil_or_concat after with rfl | ⟨after, o, rfl⟩
    · obtain ⟨rfl, hn⟩ := List.append_inj' hl rfl
      obtain rfl := List.singleton_inj.1 hn
      exact ⟨h, hvalue, hspelling, hknown⟩
    · rw [List.concat_eq_append, ← List.cons_append, ← List.append_assoc] at hl
      exact ih (List.append_inj' hl rfl).1

/-- **The first mention of a spelling decides.**  It makes the spelling a value, if it names the
spelling itself; or the spelling means what the value means, and the value has been mentioned
before. -/
theorem Grounded.canonical?_first (h : Grounded l) {before after : List Mention}
    (hl : l = before ++ m :: after) (hfirst : ∀ n ∈ before, n.spelling ≠ m.spelling) :
    m.value = m.spelling ∧ (ofMentions l).canonical? m.spelling = some m.spelling ∨
      m.value ≠ m.spelling ∧ (∃ n ∈ before, n.spelling = m.value) ∧
        ∃ c, c ≠ m.spelling ∧ (ofMentions l).canonical? m.value = some c ∧
          (ofMentions l).canonical? m.spelling = some c := by
  obtain ⟨hbefore, hvalue, hspelling, hknown⟩ := h.split hl
  have hadmits : (ofMentions before).Admits m :=
    ⟨hvalue, hspelling, hknown.imp_right (hbefore.contains_iff m.value).2⟩
  have hnew : (ofMentions before).canonical? m.spelling = none := by
    rw [← Option.not_isSome_iff_eq_none]
    intro hsome
    obtain ⟨n, hn, he⟩ := (hbefore.contains_iff m.spelling).1 hsome
    exact hfirst n hn he
  -- the table behind the mention, which all that follows leaves as it is
  have hthen : ∀ {v c}, (ofMentions (before ++ [m])).canonical? v = some c →
      (ofMentions l).canonical? v = some c := by
    intro v c hc
    rw [hl, List.append_cons]
    exact canonical?_ofMentions_append hc after
  have hgets := canonical?_mention hadmits m.spelling
  rw [← ofMentions_concat, hnew, Option.none_or, if_pos rfl] at hgets
  by_cases hself : m.value = m.spelling
  · rw [if_pos hself] at hgets
    exact .inl ⟨hself, hthen hgets⟩
  · rw [if_neg hself] at hgets
    obtain ⟨c, hc⟩ := Spellings.contains_iff.1 (hadmits.known.resolve_left hself)
    refine .inr ⟨hself, hknown.resolve_left hself, c, ?_, ?_, hthen (hgets.trans hc)⟩
    · rintro rfl
      have hclosed := (coherent_ofMentions before).closed hc
      rw [hnew] at hclosed
      cases hclosed
    · exact hthen (canonical?_ofMentions_append hc [m])

theorem Coherent.mem_canonicalValues_iff (h : t.Coherent) :
    v ∈ t.canonicalValues ↔ t.canonical? v = some v := by
  rw [Spellings.mem_canonicalValues_iff, h.canonical?_iff]
  exact exists_congr fun _ => (and_iff_left_of_imp h.key_mem).symm

/-- **The canonical values are the spellings that are first mentioned for themselves.** -/
theorem Grounded.mem_canonicalValues_iff (h : Grounded l) (v : String) :
    v ∈ (ofMentions l).canonicalValues ↔ Mention.first? l v = some ⟨v, v⟩ := by
  rw [(coherent_ofMentions l).mem_canonicalValues_iff]
  constructor
  · intro hv
    have hmentioned := (h.contains_iff v).1 (Spellings.contains_iff.2 ⟨v, hv⟩)
    obtain ⟨⟨value, spelling⟩, hm⟩ := Mention.exists_first? hmentioned
    obtain ⟨rfl, before, after, hl, hfirst⟩ := Mention.first?_eq_some_iff.1 hm
    rcases h.canonical?_first hl hfirst with ⟨hself, -⟩ | ⟨-, -, c, hne, -, hc⟩
    · obtain rfl : value = spelling := hself
      exact hm
    · rw [hv] at hc
      exact absurd (Option.some.inj hc).symm hne
  · intro hm
    obtain ⟨-, before, after, hl, hfirst⟩ := Mention.first?_eq_some_iff.1 hm
    rcases h.canonical?_first hl hfirst with ⟨-, hv⟩ | ⟨hne, -⟩
    · exact hv
    · exact absurd rfl hne

/-! ### The mentions of a sheet -/

theorem addClass_eq (t : Spellings) (value : String) (alts : List String) :
    t.addClass value alts = (Mention.ofClass value alts).foldl mention t := by
  rw [addClass, Mention.ofClass]
  split
  · rename_i hv
    subst hv
    rw [addCanonical_of_knows (.inl rfl), List.foldl_nil]
    induction alts with
    | nil => rfl
    | cons a r ih => exact ih
  · rw [List.foldl_cons, mention_self, List.foldl_map]
    rfl

theorem addEntry_eq {line : String} (htrim : trim line = line) (t : Spellings) :
    t.addEntry line = (Mention.ofLine line).foldl mention t := by
  rw [addEntry, splitOnce, Mention.ofLine, ← addClass_eq]
  cases hbehind : line.toList.dropWhile (· != '=') with
  | nil =>
    have hall : line.toList.takeWhile (· != '=') = line.toList := by
      have happend := List.takeWhile_append_dropWhile (p := (· != '=')) (l := line.toList)
      rwa [hbehind, List.append_nil] at happend
    rw [hall, String.ofList_toList, htrim]
    rfl
  | cons c behind => rfl

theorem trim_of_mem_entries {text line : String} (h : line ∈ Sheet.entries text) :
    trim line = line := by
  obtain ⟨cs, -, rfl⟩ := List.mem_map.1 (List.mem_filter.1 h).1
  exact trim_ofList_trimChars cs

/-- **A sheet is read by its mentions.** -/
theorem parse_eq_ofMentions (text : String) : parse text = ofMentions (Mention.ofSheet text) := by
  rw [ofMentions, Mention.ofSheet, List.foldl_flatMap, parse]
  exact List.foldl_ext _ _ _ fun t line hline => addEntry_eq (trim_of_mem_entries hline) t

theorem Grounded.append_ofClass (h : Grounded l) {value : String} {alts : List String}
    (halts : ∀ a ∈ alts, a ≠ "") : Grounded (l ++ Mention.ofClass value alts) := by
  rw [Mention.ofClass]
  split
  · rwa [List.append_nil]
  · rename_i hvalue
    have hclass : Grounded (l ++ [⟨value, value⟩]) := h.concat hvalue hvalue (.inl rfl)
    have hknown : ∃ n ∈ l ++ [⟨value, value⟩], Mention.spelling n = value :=
      ⟨⟨value, value⟩, List.mem_append_right _ List.mem_cons_self, rfl⟩
    rw [List.append_cons]
    generalize l ++ [⟨value, value⟩] = l' at hclass hknown
    induction alts generalizing l' with
    | nil => rwa [List.map_nil, List.append_nil]
    | cons a r ih =>
      obtain ⟨n, hn, he⟩ := hknown
      rw [List.map_cons, List.append_cons]
      refine ih (fun b hb => halts b (List.mem_cons_of_mem a hb)) _ ?_ ?_
      · exact hclass.concat hvalue (halts a List.mem_cons_self) (.inr ⟨n, hn, he⟩)
      · exact ⟨n, List.mem_append_left _ hn, he⟩

theorem grounded_ofSheet (text : String) : Grounded (Mention.ofSheet text) := by
  rw [Mention.ofSheet]
  suffices h : ∀ (lines : List String) {l : List Mention}, Grounded l →
      Grounded (l ++ lines.flatMap Mention.ofLine) from h _ .nil
  intro lines
  induction lines with
  | nil =>
    intro l h
    rwa [List.flatMap_nil, List.append_nil]
  | cons line r ih =>
    intro l h
    rw [List.flatMap_cons, ← List.append_assoc]
    exact ih (h.append_ofClass fun a => ne_empty_of_mem_trimmedParts)

/-- A spelling that is taken already stays where it is, and one that is no value can have
alternatives, too. -/
example : Mention.ofSheet " ; HA\nBP = BUDAPEST, BPEST\n\nBPEST=PEST,BP\n=GYOR" =
      [⟨"BP", "BP"⟩, ⟨"BP", "BUDAPEST"⟩, ⟨"BP", "BPEST"⟩, ⟨"BPEST", "BPEST"⟩, ⟨"BPEST", "PEST"⟩,
        ⟨"BPEST", "BP"⟩] ∧
    (parse " ; HA\nBP = BUDAPEST, BPEST\n\nBPEST=PEST,BP\n=GYOR").canonical? "PEST" = some "BP" := by
  decide +kernel

end Spellings

end ContestExchange
