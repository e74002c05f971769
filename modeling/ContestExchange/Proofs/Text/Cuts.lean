import Mathlib.Data.List.Basic
import ContestExchange.Proofs.Text.Joined

/-!
# Texts and their parts

The parts of a text are told by what the text looks like: `Cut` says of which parts a text
consists and what stands between them, and there is one such list for every text
(`parts_eq_iff`).  What carries this is that the parts on the two sides of a separator have
nothing to do with each other (`parts_append_cons`).

So it makes no difference whether a text is cut as it is or trimmed first
(`parts_trim`, `map_trim_splitOnce_trim`), and what sheets say can be read off their
lines as they stand (`filterMap_entries`).
-/

namespace ContestExchange

namespace Text

variable {p : Char → Bool} {seps cs : List Char} {s w : String} {l : List String}

/-- The text consists of these parts, which hold no separator, and of separators: some in front of
each part and behind the last one, and at least one between two parts. -/
inductive Cut (p : Char → Bool) : List Char → List String → Prop where
  | done {seps : List Char} (hseps : ∀ c ∈ seps, p c = true) : Cut p seps []
  | part {seps rest : List Char} {w : String} {l : List String}
      (hseps : ∀ c ∈ seps, p c = true) (hne : w ≠ "") (hfree : ∀ c ∈ w.toList, p c = false)
      (hends : ∀ c ∈ rest.head?, p c = true) (hrest : Cut p rest l) :
      Cut p (seps ++ w.toList ++ rest) (w :: l)

/-! ### Between separators -/

@[simp] theorem parts_empty (p : Char → Bool) : parts p "" = [] := by
  simp [parts]

/-- **A separator parts a text.** -/
theorem parts_append_cons {d : Char} (hd : p d = true) (xs ys : List Char) :
    parts p (String.ofList (xs ++ d :: ys)) =
      parts p (String.ofList xs) ++ parts p (String.ofList ys) := by
  simp only [parts, String.toList_ofList]
  rw [List.splitOnP_append_cons xs ys hd, List.filter_append, List.map_append]

theorem parts_cons {d : Char} (hd : p d = true) (ys : List Char) :
    parts p (String.ofList (d :: ys)) = parts p (String.ofList ys) := by
  have h := parts_append_cons hd [] ys
  rwa [String.ofList_nil, parts_empty, List.nil_append, List.nil_append] at h

theorem parts_append_left (h : ∀ c ∈ seps, p c = true) (cs : List Char) :
    parts p (String.ofList (seps ++ cs)) = parts p (String.ofList cs) := by
  induction seps with
  | nil => rw [List.nil_append]
  | cons d seps ih =>
    rw [List.cons_append, parts_cons (h d List.mem_cons_self),
      ih fun c hc => h c (List.mem_cons_of_mem d hc)]

theorem parts_of_seps (h : ∀ c ∈ seps, p c = true) : parts p (String.ofList seps) = [] := by
  have hseps := parts_append_left h []
  rwa [List.append_nil, String.ofList_nil, parts_empty] at hseps

theorem parts_append_right (h : ∀ c ∈ seps, p c = true) (cs : List Char) :
    parts p (String.ofList (cs ++ seps)) = parts p (String.ofList cs) := by
  cases seps with
  | nil => rw [List.append_nil]
  | cons d seps =>
    rw [parts_append_cons (h d List.mem_cons_self),
      parts_of_seps fun c hc => h c (List.mem_cons_of_mem d hc), List.append_nil]

theorem parts_of_free (hne : w ≠ "") (hfree : ∀ c ∈ w.toList, p c = false) : parts p w = [w] := by
  have hlist : w.toList ≠ [] := String.toList_eq_nil_iff.not.2 hne
  rw [parts, List.splitOnP_eq_singleton hfree, List.filter_cons_of_pos (by simpa using hlist),
    List.filter_nil, List.map_singleton, String.ofList_toList]

theorem parts_append_of_free (hne : w ≠ "") (hfree : ∀ c ∈ w.toList, p c = false)
    (hends : ∀ c ∈ cs.head?, p c = true) :
    parts p (String.ofList (w.toList ++ cs)) = w :: parts p (String.ofList cs) := by
  cases cs with
  | nil =>
    rw [List.append_nil, String.ofList_toList, parts_of_free hne hfree, String.ofList_nil,
      parts_empty]
  | cons d cs =>
    have hd := hends d rfl
    rw [parts_append_cons hd, parts_cons hd, String.ofList_toList, parts_of_free hne hfree,
      List.singleton_append]

/-! ### The parts of a text -/

theorem Cut.parts_eq (h : Cut p cs l) : parts p (String.ofList cs) = l := by
  induction h with
  | done hseps => exact parts_of_seps hseps
  | part hseps hne hfree hends _ ih =>
    rw [List.append_assoc, parts_append_left hseps, parts_append_of_free hne hfree hends, ih]

theorem Cut.cons_sep {d : Char} (hd : p d = true) (h : Cut p cs l) : Cut p (d :: cs) l := by
  cases h with
  | done hseps => exact .done (List.forall_mem_cons.2 ⟨hd, hseps⟩)
  | part hseps hne hfree hends hrest =>
    exact .part (List.forall_mem_cons.2 ⟨hd, hseps⟩) hne hfree hends hrest

/-- A character that is no separator is a part of its own or makes the first part longer. -/
theorem Cut.exists_cons {d : Char} (hd : p d = false) (h : Cut p cs l) :
    ∃ l, Cut p (d :: cs) l := by
  by_cases hends : ∀ c ∈ cs.head?, p c = true
  · refine ⟨String.singleton d :: l, ?_⟩
    have hcut := Cut.part (List.forall_mem_nil _) (String.singleton_ne_empty)
      (w := String.singleton d) (by simpa using hd) hends h
    rwa [String.toList_singleton, List.nil_append, List.singleton_append] at hcut
  · cases h with
    | done hseps => exact absurd (fun c hc => hseps c (List.mem_of_mem_head? hc)) hends
    | @part seps rest w l hseps hne hfree hrestEnds hrest =>
      cases seps with
      | cons s seps =>
        refine absurd (fun c hc => ?_) hends
        rw [← Option.some.inj hc]
        exact hseps s List.mem_cons_self
      | nil =>
        refine ⟨String.ofList (d :: w.toList) :: l, ?_⟩
        have hcut := Cut.part (List.forall_mem_nil _) (w := String.ofList (d :: w.toList))
          (by simp [← String.toList_eq_nil_iff]) (by simpa using ⟨hd, hfree⟩) hrestEnds hrest
        rwa [String.toList_ofList, List.nil_append] at hcut

theorem exists_cut (p : Char → Bool) (cs : List Char) : ∃ l, Cut p cs l := by
  induction cs with
  | nil => exact ⟨[], .done (List.forall_mem_nil _)⟩
  | cons d cs ih =>
    obtain ⟨l, hl⟩ := ih
    cases hd : p d with
    | true => exact ⟨l, hl.cons_sep hd⟩
    | false => exact hl.exists_cons hd

/-- **The parts of a text are those that it consists of.** -/
theorem parts_eq_iff : parts p s = l ↔ Cut p s.toList l := by
  constructor
  · rintro rfl
    obtain ⟨l, hl⟩ := exists_cut p s.toList
    have h := hl.parts_eq
    rw [String.ofList_toList] at h
    rwa [h]
  · intro h
    rw [← h.parts_eq, String.ofList_toList]

theorem words_joinWith (h : ∀ w ∈ l, w ≠ "" ∧ Unbroken w) : words (joinWith " " l) = l := by
  fun_induction joinWith " " l with
  | case1 => exact parts_empty _
  | case2 s =>
    obtain ⟨hne, hfree⟩ := h s List.mem_cons_self
    exact parts_of_free hne hfree
  | case3 s t r ih =>
    obtain ⟨hne, hfree⟩ := h s List.mem_cons_self
    have hrest := ih fun w hw => h w (List.mem_cons_of_mem s hw)
    have hlist : s ++ " " ++ joinWith " " (t :: r) =
        String.ofList (s.toList ++ ' ' :: (joinWith " " (t :: r)).toList) := by
      rw [← String.toList_inj, String.toList_ofList, String.toList_append, String.toList_append,
        List.append_assoc]
      rfl
    rw [words, hlist, parts_append_cons (by decide), String.ofList_toList, String.ofList_toList,
      parts_of_free hne hfree, List.singleton_append]
    exact congrArg (s :: ·) hrest

/-! ### Blanks at both ends -/

theorem trim_append_left {blanks : List Char} (h : ∀ c ∈ blanks, isBlank c = true)
    (cs : List Char) : trim (String.ofList (blanks ++ cs)) = trim (String.ofList cs) := by
  rw [trim, trim, String.toList_ofList, String.toList_ofList, trimChars, trimChars, dropBlanks,
    List.dropWhile_append_of_pos h, dropBlanks]

theorem dropBlanksEnd_append_right {blanks : List Char} (h : ∀ c ∈ blanks, isBlank c = true)
    (cs : List Char) : dropBlanksEnd (cs ++ blanks) = dropBlanksEnd cs := by
  have hrev : ∀ c ∈ blanks.reverse, isBlank c = true := fun c hc => h c (List.mem_reverse.1 hc)
  rw [dropBlanksEnd, List.reverse_append, dropBlanks, List.dropWhile_append_of_pos hrev,
    dropBlanksEnd, dropBlanks]

theorem trim_append_right {blanks : List Char} (h : ∀ c ∈ blanks, isBlank c = true)
    (cs : List Char) : trim (String.ofList (cs ++ blanks)) = trim (String.ofList cs) := by
  rw [trim, trim, String.toList_ofList, String.toList_ofList, trimChars, trimChars]
  congr 1
  by_cases hcs : dropBlanks cs = []
  · have hall : dropBlanks blanks = [] := List.dropWhile_eq_nil_iff.2 h
    rw [dropBlanks, List.dropWhile_append, ← dropBlanks, hcs, ← dropBlanks, hall]
    rfl
  · rw [dropBlanks, List.dropWhile_append, ← dropBlanks, if_neg (by simpa using hcs),
      dropBlanksEnd_append_right h]

/-- Trimming takes off nothing but blanks. -/
theorem exists_trim (s : String) : ∃ front behind : List Char,
    s.toList = front ++ (trim s).toList ++ behind ∧ (∀ c ∈ front, isBlank c = true) ∧
      ∀ c ∈ behind, isBlank c = true := by
  refine ⟨s.toList.takeWhile isBlank, ((dropBlanks s.toList).reverse.takeWhile isBlank).reverse,
    ?_, fun c hc => List.mem_takeWhile_imp hc,
    fun c hc => List.mem_takeWhile_imp (List.mem_reverse.1 hc)⟩
  have hend : dropBlanks s.toList = dropBlanksEnd (dropBlanks s.toList) ++
      ((dropBlanks s.toList).reverse.takeWhile isBlank).reverse := by
    rw [dropBlanksEnd, ← List.reverse_append]
    exact (List.reverse_eq_iff.2 List.takeWhile_append_dropWhile).symm
  rw [trim, String.toList_ofList, trimChars, List.append_assoc, ← hend, dropBlanks,
    List.takeWhile_append_dropWhile]

/-- Where blanks are separators it does not matter whether a text is trimmed first. -/
theorem parts_trim (hp : ∀ c, isBlank c = true → p c = true) (s : String) :
    parts p (trim s) = parts p s := by
  obtain ⟨front, behind, hs, hfront, hbehind⟩ := exists_trim s
  have hparts := parts_append_right (fun c hc => hp c (hbehind c hc)) (front ++ (trim s).toList)
  rwa [← hs, parts_append_left fun c hc => hp c (hfront c hc), String.ofList_toList,
    String.ofList_toList, eq_comm] at hparts

/-! ### The first separator of a text -/

theorem splitOnce_eq_some_iff {c : Char} {left right : String} :
    splitOnce c s = some (left, right) ↔
      c ∉ left.toList ∧ s.toList = left.toList ++ c :: right.toList := by
  refine ⟨fun h => ?_, fun h => splitOnce_eq_some h.1 h.2⟩
  by_cases hc : c ∈ s.toList
  · obtain ⟨a, b, hsplit, ha⟩ := List.eq_append_cons_of_mem hc
    rw [← String.toList_ofList (l := a)] at hsplit ha
    rw [← String.toList_ofList (l := b)] at hsplit
    rw [splitOnce_eq_some ha hsplit, Option.some.injEq, Prod.mk.injEq] at h
    obtain ⟨rfl, rfl⟩ := h
    exact ⟨ha, hsplit⟩
  · rw [splitOnce_eq_none hc] at h
    cases h

/-- Where a text is parted it does not matter whether it is trimmed first, if what is in front of
the separator and what is behind it are trimmed in the end. -/
theorem map_trim_splitOnce_trim {c : Char} (hc : isBlank c = false) (s : String) :
    (splitOnce c (trim s)).map (Prod.map trim trim) = (splitOnce c s).map (Prod.map trim trim) := by
  obtain ⟨front, behind, hs, hfront, hbehind⟩ := exists_trim s
  have hfree : ∀ {blanks : List Char}, (∀ d ∈ blanks, isBlank d = true) → c ∉ blanks := by
    intro blanks h hmem
    rw [h c hmem] at hc
    cases hc
  by_cases hmem : c ∈ (trim s).toList
  · obtain ⟨a, b, hsplit, ha⟩ := List.eq_append_cons_of_mem hmem
    have htrim : splitOnce c (trim s) = some (String.ofList a, String.ofList b) :=
      splitOnce_eq_some (by rwa [String.toList_ofList])
        (by rw [String.toList_ofList, String.toList_ofList, hsplit])
    have hwhole : splitOnce c s = some (String.ofList (front ++ a), String.ofList (b ++ behind)) := by
      refine splitOnce_eq_some ?_ ?_
      · rw [String.toList_ofList, List.mem_append, not_or]
        exact ⟨hfree hfront, ha⟩
      · rw [String.toList_ofList, String.toList_ofList, hs, hsplit, List.append_assoc,
          List.append_assoc, List.append_assoc, List.cons_append]
    rw [htrim, hwhole, Option.map_some, Option.map_some, Prod.map, Prod.map,
      trim_append_left hfront, trim_append_right hbehind]
  · have hnone : c ∉ s.toList := by
      rw [hs, List.mem_append, List.mem_append, not_or, not_or]
      exact ⟨⟨hfree hfront, hmem⟩, hfree hbehind⟩
    rw [splitOnce_eq_none hmem, splitOnce_eq_none hnone]

end Text

namespace Sheet

open Text

variable {α : Type} {f : String → Option α} {a : α}

/-! ### What the lines of a sheet say -/

def lines (text : String) : List String :=
  (text.toList.splitOn '\n').map String.ofList

/-- A line that starts with a semicolon or two strokes, blanks not counted. -/
def IsComment (line : String) : Prop :=
  [';'] <+: (trim line).toList ∨ ['/', '/'] <+: (trim line).toList

/-- What a line says, where `f` is what an entry says. -/
def saying? (f : String → Option α) (line : String) : Option α :=
  if isEntry (trim line) then f (trim line) else none

theorem isEntry_trim_iff (line : String) :
    isEntry (trim line) = true ↔ trim line ≠ "" ∧ ¬ IsComment line := by
  rw [isEntry, IsComment, Ne, ← String.toList_eq_nil_iff]
  generalize (trim line).toList = cs
  split
  · exact iff_of_false nofun fun h => h.1 rfl
  · exact iff_of_false nofun fun h => h.2 (.inl (List.prefix_append [';'] _))
  · exact iff_of_false nofun fun h => h.2 (.inr (List.prefix_append ['/', '/'] _))
  · rename_i hnil hsemicolon hstrokes
    refine iff_of_true rfl ⟨hnil, ?_⟩
    rintro (⟨r, rfl⟩ | ⟨r, rfl⟩)
    · exact hsemicolon r rfl
    · exact hstrokes r rfl

/-- A blank line needs no thought if nothing is said by an empty entry. -/
theorem saying?_eq_some_iff (hf : f "" = none) {line : String} :
    saying? f line = some a ↔ ¬ IsComment line ∧ f (trim line) = some a := by
  have hfilled : f (trim line) = some a → trim line ≠ "" := by
    intro h hempty
    rw [hempty, hf] at h
    cases h
  rw [saying?]
  split
  · rename_i hentry
    exact (and_iff_right ((isEntry_trim_iff line).1 hentry).2).symm
  · rename_i hentry
    refine iff_of_false nofun fun h => hentry ?_
    exact (isEntry_trim_iff line).2 ⟨hfilled h.2, h.1⟩

/-- **A sheet says what its lines say.** -/
theorem filterMap_entries (f : String → Option α) (text : String) :
    (entries text).filterMap f = (lines text).filterMap (saying? f) := by
  rw [entries, lines, List.filterMap_filter, List.filterMap_map, List.filterMap_map]
  refine List.filterMap_congr fun cs _ => ?_
  rw [Function.comp_apply, Function.comp_apply, Function.comp_apply, saying?, trim,
    String.toList_ofList]

end Sheet

end ContestExchange
