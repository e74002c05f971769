import ContestExchange.Text.Split

/-!
# Paths

Paths are texts whose components are parted by strokes.  Joining and taking
apart work on the text alone: a component such as `..` stays where it is.
-/

namespace ContestExchange.Path

def isAbsolute (p : String) : Bool :=
  p.toList.head? == some '/'

/-- The path `p`, taken from the directory `base` unless it is absolute. -/
def join (base p : String) : String :=
  if isAbsolute p then p
  else if base = "" || base.toList.getLast? == some '/' then base ++ p
  else base ++ "/" ++ p

/-- A path, read from its end, without strokes and empty or single-dot
components at its end. -/
def stripEnd : List Char → List Char
  | ['/'] => ['/']
  | ['.', '/'] => ['/']
  | '/' :: r => stripEnd r
  | '.' :: '/' :: r => stripEnd r
  | r => r

/-- The last component of a path, read from the path's end. -/
def lastComponent (p : String) : List Char :=
  (stripEnd p.toList.reverse).takeWhile (· != '/')

def parent (p : String) : String :=
  String.ofList (stripEnd ((stripEnd p.toList.reverse).dropWhile (· != '/'))).reverse

/-- What stands behind the last dot of the last component, unless that dot
starts the component. -/
def extension? (p : String) : Option String :=
  match lastComponent p with
  | ['.', '.'] => none
  | name =>
    match name.dropWhile (· != '.') with
    | [] => none
    | [_] => none
    | _ => some (String.ofList (name.takeWhile (· != '.')).reverse)

def components (p : String) : List String :=
  (p.toList.splitOn '/').map String.ofList

end ContestExchange.Path
