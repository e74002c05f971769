/-!
# JSON values

Contest definitions, rosters and journal payloads are JSON texts.  A text is a
sequence of bytes, and two things in it need not be what they look like: a
string may hold bytes or escapes that are no characters, and a number may be
written with a sign, a fraction or an exponent, or be too large for anything.
Such parts are harmless where nobody reads them, so a value keeps them as they
were written (`JsonString.broken`, `Json.number`) and only whoever wants a text
or a natural number finds out.
-/

namespace ContestExchange

/-- The content of a JSON string. -/
inductive JsonString where
  | text (s : String)
  /-- Something else, with the bytes between its quotes. -/
  | broken (written : List UInt8)
deriving DecidableEq

/-- JSON values; the members of an object stand in the order of the text. -/
inductive Json where
  | null
  | bool (b : Bool)
  /-- A number that is written with digits only. -/
  | natural (n : Nat)
  /-- A number that is written in any other way, with its bytes. -/
  | number (written : List UInt8)
  | string (s : JsonString)
  | array (items : List Json)
  | object (members : List (JsonString × Json))

namespace Json

def text (s : String) : Json :=
  .string (.text s)

/-- The object with the given members. -/
def record (members : List (String × Json)) : Json :=
  .object (members.map fun m => (.text m.1, m.2))

def texts (l : List String) : Json :=
  .array (l.map text)

/-- The value of something that may be missing. -/
def ofOption {α : Type} (f : α → Json) : Option α → Json
  | none => .null
  | some a => f a

end Json

end ContestExchange
