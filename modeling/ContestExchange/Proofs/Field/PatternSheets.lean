import ContestExchange.Field.Sheets
import ContestExchange.Proofs.Dictionary
import ContestExchange.Proofs.Text.Cuts

/-!
# Sheets of patterns

What a line of a sheet of patterns gives can be told from the line as it stands
(`PatternSheet.Gives`): the field is in front of the first colon, the pattern behind it, and
one of the two missing makes the line say nothing.  So a line without a pattern does not
claim the field.

Of the lines that give a field a pattern the first counts, and what is added to the sheet later
counts for the fields that no line gives one (`get?_insertAll_parse`).
-/

namespace ContestExchange

open Text

namespace PatternSheet

variable {text line field pattern : String}

/-! ### Lines of patterns -/

/-- The line gives the field a pattern. -/
structure Gives (line field pattern : String) : Prop where
  not_comment : ¬ Sheet.IsComment line
  /-- Only the first colon parts the two. -/
  parted : ∃ left right : String, ':' ∉ left.toList ∧
    line.toList = left.toList ++ ':' :: right.toList ∧ trim left = field ∧ trim right = pattern
  field_ne : field ≠ ""
  pattern_ne : pattern ≠ ""

theorem entry?_eq_some_iff : entry? line = some (field, pattern) ↔
    (splitOnce ':' line).map (Prod.map trim trim) = some (field, pattern) ∧
      field ≠ "" ∧ pattern ≠ "" := by
  unfold entry?
  cases splitOnce ':' line with
  | none => exact iff_of_false nofun fun h => nomatch h.1
  | some e =>
    obtain ⟨left, right⟩ := e
    simp only [Option.map_some, Prod.map, Option.some.injEq, Prod.mk.injEq]
    split
    · rename_i hempty
      rw [Bool.or_eq_true, decide_eq_true_eq, decide_eq_true_eq] at hempty
      refine iff_of_false nofun ?_
      rintro ⟨⟨rfl, rfl⟩, hfield, hpattern⟩
      exact hempty.elim hfield hpattern
    · rename_i hfull
      rw [Bool.or_eq_true, decide_eq_true_eq, decide_eq_true_eq, not_or] at hfull
      rw [Option.some.injEq, Prod.mk.injEq]
      refine ⟨fun h => ⟨h, ?_⟩, And.left⟩
      rwa [h.1, h.2] at hfull

theorem saying?_eq_some_iff_gives :
    Sheet.saying? entry? line = some (field, pattern) ↔ Gives line field pattern := by
  rw [Sheet.saying?_eq_some_iff rfl, entry?_eq_some_iff, map_trim_splitOnce_trim (by decide)]
  constructor
  · rintro ⟨hcomment, hparted, hfield, hpattern⟩
    obtain ⟨⟨left, right⟩, hcut, htrim⟩ := Option.map_eq_some_iff.1 hparted
    obtain ⟨hleft, hline⟩ := splitOnce_eq_some_iff.1 hcut
    obtain ⟨htrim₁, htrim₂⟩ := Prod.mk.inj htrim
    exact ⟨hcomment, ⟨left, right, hleft, hline, htrim₁, htrim₂⟩, hfield, hpattern⟩
  · rintro ⟨hcomment, ⟨left, right, hleft, hline, rfl, rfl⟩, hfield, hpattern⟩
    refine ⟨hcomment, ?_, hfield, hpattern⟩
    rw [splitOnce_eq_some hleft hline]
    rfl

/-- The first line that gives the field a pattern gives it this one. -/
def FirstGives (text field pattern : String) : Prop :=
  ∃ above line below, Sheet.lines text = above ++ line :: below ∧ Gives line field pattern ∧
    ∀ l ∈ above, ∀ p, ¬ Gives l field p

/-! ### Patterns one after the other -/

def insertAll (s : PatternSheet) (l : List (String × String)) : PatternSheet :=
  l.foldl (fun s e => s.insert e.1 e.2) s

theorem insertAll_append (s : PatternSheet) (l m : List (String × String)) :
    s.insertAll (l ++ m) = (s.insertAll l).insertAll m :=
  List.foldl_append

theorem insertAll_cons_of_get? {s : PatternSheet} (h : s.get? field = some pattern) (p : String)
    (l : List (String × String)) : s.insertAll ((field, p) :: l) = s.insertAll l := by
  rw [insertAll, List.foldl_cons, insert, Dictionary.putNew_of_get? h, insertAll]

theorem patterns_insertAll (s : PatternSheet) (l : List (String × String)) :
    (s.insertAll l).patterns = l.foldl (fun d e => d.putNew e.1 e.2) s.patterns :=
  (List.foldl_hom patterns fun _ _ => rfl).symm

theorem get?_insertAll (s : PatternSheet) (l : List (String × String)) (field : String) :
    (s.insertAll l).get? field = (s.get? field).or (l.lookup field) := by
  rw [get?, patterns_insertAll, Dictionary.get?_foldl_putNew, get?]

theorem parse_eq_insertAll (text : String) :
    parse text = empty.insertAll ((Sheet.lines text).filterMap (Sheet.saying? entry?)) := by
  rw [parse, Sheet.filterMap_entries, insertAll]

/-- **A sheet is read by the first lines that give patterns.** -/
theorem get?_parse_eq_some_iff : (parse text).get? field = some pattern ↔
    FirstGives text field pattern := by
  have hget : (parse text).get? field =
      ((Sheet.lines text).filterMap (Sheet.saying? entry?)).lookup field := by
    rw [parse_eq_insertAll, get?_insertAll]
    exact Option.none_or
  simp only [hget, Dictionary.lookup_filterMap_eq_some_iff, saying?_eq_some_iff_gives, FirstGives,
    Ne]

/-- A line changes nothing if it gives no pattern, or one to a field that has been given one. -/
theorem parse_of_idle {text' : String} {above below : List String}
    (h : Sheet.lines text = above ++ line :: below) (h' : Sheet.lines text' = above ++ below)
    (hidle : ∀ field pattern, Gives line field pattern → ∃ l ∈ above, ∃ p, Gives l field p) :
    parse text = parse text' := by
  rw [parse_eq_insertAll, parse_eq_insertAll, h, h', List.filterMap_append, List.filterMap_append,
    insertAll_append, insertAll_append]
  cases hline : Sheet.saying? entry? line with
  | none => rw [List.filterMap_cons_none hline]
  | some e =>
    obtain ⟨field, pattern⟩ := e
    obtain ⟨l, hl, p, hp⟩ := hidle field pattern (saying?_eq_some_iff_gives.1 hline)
    have hknown : ∃ q,
        (empty.insertAll (above.filterMap (Sheet.saying? entry?))).get? field = some q := by
      rw [get?_insertAll, ← Option.isSome_iff_exists, Option.isSome_or, Bool.or_eq_true,
        Dictionary.lookup_isSome_iff]
      exact .inr (List.mem_map.2
        ⟨(field, p), List.mem_filterMap.2 ⟨l, hl, saying?_eq_some_iff_gives.2 hp⟩, rfl⟩)
    obtain ⟨q, hq⟩ := hknown
    rw [List.filterMap_cons_some hline, insertAll_cons_of_get? hq]

/-- **The first pattern of a field counts**: the one that the first line gives it or, without such
a line, the first one that is added.  The size is the number of the fields that have a pattern;
and a line may as well be left out if it gives no pattern, as a comment, a line without a colon
and one with nothing behind the colon do not, or if a line above gives the field one. -/
theorem get?_insertAll_parse (text : String) (added : List (String × String)) :
    let s := (parse text).insertAll added
    (∀ field pattern, FirstGives text field pattern → s.get? field = some pattern) ∧
      (∀ field, (∀ pattern, ¬ FirstGives text field pattern) →
        s.get? field = added.lookup field) ∧
      (∃ fields : List String, fields.Nodup ∧ (∀ f, f ∈ fields ↔ s.get? f ≠ none) ∧
        s.patterns.size = fields.length) ∧
      ∀ text' above line below, Sheet.lines text = above ++ line :: below →
        Sheet.lines text' = above ++ below →
        (∀ field pattern, Gives line field pattern → ∃ l ∈ above, ∃ p, Gives l field p) →
          parse text = parse text' := by
  intro s
  refine ⟨fun field pattern h => ?_, fun field h => ?_, s.patterns.exists_keys,
    fun text' above line below => parse_of_idle⟩
  · rw [get?_insertAll, get?_parse_eq_some_iff.2 h, Option.some_or]
  · have hnone : (parse text).get? field = none :=
      Option.eq_none_iff_forall_ne_some.2 fun p hp => h p (get?_parse_eq_some_iff.1 hp)
    rw [get?_insertAll, hnone, Option.none_or]

/-- The empty pattern does not claim the field, and a pattern may hold colons. -/
example : ((parse "CQZONE:\n ; RST: 5\nCQZONE: 4|5\nCQZONE: 99\nTIME: [0-2]:[0-5]").insertAll
      [("TIME", "1"), (" RST", "5 ")]).patterns.entries =
    [("CQZONE", "4|5"), ("TIME", "[0-2]:[0-5]"), (" RST", "5 ")] := by
  decide +kernel

end PatternSheet

end ContestExchange
