import ContestExchange.Text.Split

/-!
# Sheets

The files that contests are described by are sheets: one entry a line, and
nothing on lines that are blank or a comment.  A comment starts with a semicolon
or two strokes.
-/

namespace ContestExchange.Sheet

open Text

/-- Whether a trimmed line holds an entry. -/
def isEntry (line : String) : Bool :=
  match line.toList with
  | [] => false
  | ';' :: _ => false
  | '/' :: '/' :: _ => false
  | _ => true

def entries (text : String) : List String :=
  ((text.toList.splitOn '\n').map (String.ofList ∘ trimChars)).filter isEntry

end ContestExchange.Sheet
