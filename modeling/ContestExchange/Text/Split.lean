import ContestExchange.Text.Blank

/-!
# Cutting texts at separators
-/

namespace ContestExchange.Text

/-- The texts before and behind the first `c`, if there is one. -/
def splitOnce (c : Char) (s : String) : Option (String × String) :=
  match s.toList.dropWhile (· != c) with
  | [] => none
  | _ :: behind => some (String.ofList (s.toList.takeWhile (· != c)), String.ofList behind)

/-- The texts between the separators that `p` names, without the empty ones. -/
def parts (p : Char → Bool) (s : String) : List String :=
  ((s.toList.splitOnP p).filter (!·.isEmpty)).map String.ofList

/-- The maximal runs of non-blanks, in order. -/
def words (s : String) : List String :=
  parts isBlank s

/-- The texts between the `c`s, trimmed, without the empty ones. -/
def trimmedParts (c : Char) (s : String) : List String :=
  ((s.toList.splitOn c).map (String.ofList ∘ trimChars)).filter (· != "")

/-- The texts of a list with a separator between them. -/
def joinWith (sep : String) : List String → String
  | [] => ""
  | [s] => s
  | s :: t :: r => s ++ sep ++ joinWith sep (t :: r)

end ContestExchange.Text
