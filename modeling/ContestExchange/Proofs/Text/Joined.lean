import Mathlib.Data.List.TakeWhile
import ContestExchange.Sheet
import ContestExchange.Proofs.Text.Words

/-!
# Joined texts

Texts that are joined with a separator are found again by cutting at it, if none of
them holds it: at the first separator (`splitOnce_eq_some`), at every one
(`trimmedParts_joinWith`), and line by line (`entries_joinWith`).

A text is trimmed if and only if no blank stands at either end (`trim_eq_self_iff`), so
what stands between two trimmed texts does not matter (`trim_append`).
-/

namespace ContestExchange

namespace Text

/-! ### The first separator -/

theorem splitOnce_eq_some {c : Char} {s left right : String} (hleft : c ∉ left.toList)
    (hs : s.toList = left.toList ++ c :: right.toList) :
    splitOnce c s = some (left, right) := by
  have hpos : ∀ d ∈ left.toList, (d != c) = true := by
    intro d hd
    rw [bne_iff_ne]
    rintro rfl
    exact hleft hd
  have hdrop : s.toList.dropWhile (· != c) = c :: right.toList := by
    rw [hs, List.dropWhile_append_of_pos hpos, List.dropWhile_cons_of_neg (by simp)]
  have htake : s.toList.takeWhile (· != c) = left.toList := by
    rw [hs, List.takeWhile_append_of_pos hpos, List.takeWhile_cons_of_neg (by simp),
      List.append_nil]
  rw [splitOnce, hdrop]
  simp only [htake, String.ofList_toList]

theorem splitOnce_eq_none {c : Char} {s : String} (h : c ∉ s.toList) : splitOnce c s = none := by
  have hdrop : s.toList.dropWhile (· != c) = [] := by
    rw [List.dropWhile_eq_nil_iff]
    intro d hd
    rw [bne_iff_ne]
    rintro rfl
    exact h hd
  rw [splitOnce, hdrop]

/-! ### Trimmed texts -/

theorem dropBlanks_eq_self_iff {cs : List Char} :
    dropBlanks cs = cs ↔ ∀ c ∈ cs.head?, isBlank c = false := by
  cases cs with
  | nil => simp [dropBlanks]
  | cons c r =>
    refine ⟨fun h => ?_, fun h => dropBlanks_cons_of_not_blank (h c rfl)⟩
    rcases head_dropBlanks (c :: r) with he | ⟨d, r', he, hd⟩
    · rw [h] at he
      cases he
    · rw [h] at he
      obtain ⟨rfl, -⟩ := List.cons.inj he
      rintro _ ⟨⟩
      exact hd

theorem dropBlanksEnd_eq_self_iff {cs : List Char} :
    dropBlanksEnd cs = cs ↔ ∀ c ∈ cs.getLast?, isBlank c = false := by
  rw [dropBlanksEnd, List.reverse_eq_iff, dropBlanks_eq_self_iff, List.head?_reverse]

theorem trimChars_eq_self_iff {cs : List Char} :
    trimChars cs = cs ↔ dropBlanks cs = cs ∧ dropBlanksEnd cs = cs := by
  refine ⟨fun h => ⟨?_, ?_⟩, fun h => by rw [trimChars, h.1, h.2]⟩
  · have hstart := dropBlanks_dropBlanksEnd (dropBlanks_dropBlanks cs)
    rwa [← trimChars, h] at hstart
  · have hend := dropBlanksEnd_dropBlanksEnd (dropBlanks cs)
    rwa [← trimChars, h] at hend

/-- **A text is trimmed if and only if no blank stands at either end.** -/
theorem trim_eq_self_iff {s : String} :
    trim s = s ↔ (∀ c ∈ s.toList.head?, isBlank c = false) ∧
      ∀ c ∈ s.toList.getLast?, isBlank c = false := by
  rw [← dropBlanks_eq_self_iff, ← dropBlanksEnd_eq_self_iff, ← trimChars_eq_self_iff, trim]
  refine ⟨fun h => ?_, fun h => by rw [h, String.ofList_toList]⟩
  have hs := congrArg String.toList h
  rwa [String.toList_ofList] at hs

/-- What stands between two trimmed texts does not matter. -/
theorem trim_append {s t : String} (hs : trim s = s) (hs' : s ≠ "") (ht : trim t = t) (ht' : t ≠ "")
    (m : String) : trim (s ++ m ++ t) = s ++ m ++ t := by
  have hs'' : s.toList ≠ [] := String.toList_eq_nil_iff.not.2 hs'
  have ht'' : t.toList ≠ [] := String.toList_eq_nil_iff.not.2 ht'
  rw [trim_eq_self_iff] at hs ht ⊢
  have hlast : (s ++ m ++ t).toList.getLast? = t.toList.getLast? := by
    rw [String.toList_append, List.getLast?_append, List.getLast?_eq_some_getLast ht'',
      Option.some_or]
  have hhead : (s ++ m ++ t).toList.head? = s.toList.head? := by
    rw [String.toList_append, String.toList_append, List.append_assoc, List.head?_append,
      List.head?_eq_some_head hs'', Option.some_or]
  rw [hlast, hhead]
  exact ⟨hs.1, ht.2⟩

/-! ### Every separator -/

theorem toList_joinWith (sep : String) (l : List String) :
    (joinWith sep l).toList = sep.toList.intercalate (l.map String.toList) := by
  fun_induction joinWith sep l with
  | case1 => rfl
  | case2 s => simp
  | case3 s t r ih => simp [ih, List.intercalate_cons_cons]

theorem mem_joinWith {sep : String} {l : List String} {c : Char}
    (h : c ∈ (joinWith sep l).toList) : c ∈ sep.toList ∨ ∃ s ∈ l, c ∈ s.toList := by
  fun_induction joinWith sep l with
  | case1 => cases h
  | case2 s => exact .inr ⟨s, List.mem_cons_self, h⟩
  | case3 s t r ih =>
    rw [String.toList_append, List.mem_append, String.toList_append, List.mem_append] at h
    rcases h with (h | h) | h
    · exact .inr ⟨s, List.mem_cons_self, h⟩
    · exact .inl h
    · exact (ih h).imp_right fun ⟨u, hu, hc⟩ => ⟨u, List.mem_cons_of_mem s hu, hc⟩

theorem joinWith_ne_empty (sep : String) {s : String} (hs : s ≠ "") (r : List String) :
    joinWith sep (s :: r) ≠ "" := by
  cases r with
  | nil => exact hs
  | cons t r =>
    intro h
    rw [joinWith, String.append_eq_empty_iff, String.append_eq_empty_iff] at h
    exact hs h.1.1

theorem trim_joinWith (sep : String) {l : List String} (h : ∀ s ∈ l, trim s = s ∧ s ≠ "") :
    trim (joinWith sep l) = joinWith sep l := by
  fun_induction joinWith sep l with
  | case1 => rfl
  | case2 s => exact (h s List.mem_cons_self).1
  | case3 s t r ih =>
    obtain ⟨hs, hs'⟩ := h s List.mem_cons_self
    have hrest := ih fun u hu => h u (List.mem_cons_of_mem s hu)
    have ht := (h t (List.mem_cons_of_mem s List.mem_cons_self)).2
    exact trim_append hs hs' hrest (joinWith_ne_empty sep ht r) sep

/-- Trimmed texts that do not hold the separator are what stands between the separators. -/
theorem map_trim_splitOn_joinWith {c : Char} {s : String} {r : List String}
    (h : ∀ t ∈ s :: r, trim t = t ∧ c ∉ t.toList) :
    ((joinWith (String.singleton c) (s :: r)).toList.splitOn c).map (String.ofList ∘ trimChars) =
      s :: r := by
  have hcut : (joinWith (String.singleton c) (s :: r)).toList.splitOn c =
      (s :: r).map String.toList := by
    rw [toList_joinWith, String.toList_singleton]
    refine List.splitOn_intercalate c ?_ (by simp)
    intro _ hl
    obtain ⟨t, ht, rfl⟩ := List.mem_map.1 hl
    exact (h t ht).2
  rw [hcut, List.map_map]
  exact (List.map_congr_left fun t ht => (h t ht).1).trans (List.map_id _)

/-- **Trimmed texts are the parts of what they are joined to.** -/
theorem trimmedParts_joinWith {c : Char} {l : List String}
    (h : ∀ s ∈ l, trim s = s ∧ s ≠ "" ∧ c ∉ s.toList) :
    trimmedParts c (joinWith (String.singleton c) l) = l := by
  cases l with
  | nil => rfl
  | cons s r =>
    rw [trimmedParts, map_trim_splitOn_joinWith fun t ht => ⟨(h t ht).1, (h t ht).2.2⟩,
      List.filter_eq_self]
    exact fun t ht => bne_iff_ne.2 (h t ht).2.1

end Text

namespace Sheet

open Text

/-! ### Lines -/

/-- **A sheet is read line by line.** -/
theorem entries_append (s r : String) : entries (s ++ "\n" ++ r) = entries s ++ entries r := by
  have hlist : (s ++ "\n" ++ r).toList = s.toList ++ '\n' :: r.toList := by
    rw [String.toList_append, String.toList_append, List.append_assoc]
    rfl
  rw [entries, hlist, List.splitOn_append_cons_self, List.map_append, List.filter_append]
  rfl

/-- Lines that are trimmed and hold something are the entries of what they are joined to. -/
theorem entries_joinWith {lines : List String}
    (h : ∀ line ∈ lines, trim line = line ∧ '\n' ∉ line.toList ∧ isEntry line = true) :
    entries (joinWith "\n" lines) = lines := by
  cases lines with
  | nil => rfl
  | cons line r =>
    rw [entries]
    have hcut := map_trim_splitOn_joinWith (c := '\n') fun t ht => ⟨(h t ht).1, (h t ht).2.1⟩
    rw [show String.singleton '\n' = "\n" from rfl] at hcut
    rw [hcut, List.filter_eq_self]
    exact fun t ht => (h t ht).2.2

end Sheet

end ContestExchange
