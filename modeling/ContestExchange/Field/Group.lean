import ContestExchange.Text.Split

/-!
# Groups of fields

A slot of an exchange may take any of several fields, as in `ITUZONE+SOCIETY`.
Such a group is named by its members with plus signs between them.
-/

namespace ContestExchange.Group

open Text

/-- The members that a name lists, in their order. -/
def members (name : String) : List String :=
  trimmedParts '+' name

def isGroup (name : String) : Bool :=
  2 ≤ (members name).length

def nameOf (members : List String) : String :=
  joinWith "+" members

end ContestExchange.Group
