import ContestExchange.Json.Basic

/-!
# Writing JSON

The compact form: no blanks, members in their order, and in strings an escape
for the quote, the backslash and the control characters, and for nothing else.
-/

namespace ContestExchange.Json

/-- The bytes of a text in UTF-8. -/
def utf8 (s : String) : List UInt8 :=
  s.toUTF8.toList

def hexDigit (n : UInt8) : UInt8 :=
  if n < 10 then 0x30 + n else 0x57 + n

def escapeByte (b : UInt8) : List UInt8 :=
  if b = 0x22 then utf8 "\\\""
  else if b = 0x5C then utf8 "\\\\"
  else if b = 0x08 then utf8 "\\b"
  else if b = 0x09 then utf8 "\\t"
  else if b = 0x0A then utf8 "\\n"
  else if b = 0x0C then utf8 "\\f"
  else if b = 0x0D then utf8 "\\r"
  else if b < 0x20 then utf8 "\\u00" ++ [hexDigit (b / 16), hexDigit (b % 16)]
  else [b]

def writeString : JsonString → List UInt8
  | .text s => 0x22 :: (utf8 s).flatMap escapeByte ++ [0x22]
  | .broken written => 0x22 :: written ++ [0x22]

mutual

/-- The compact form of a value. -/
def write : Json → List UInt8
  | null => utf8 "null"
  | bool true => utf8 "true"
  | bool false => utf8 "false"
  | natural n => utf8 (toString n)
  | number written => written
  | string s => writeString s
  | array items => 0x5B :: writeItems items ++ [0x5D]
  | object members => 0x7B :: writeMembers members ++ [0x7D]

def writeItems : List Json → List UInt8
  | [] => []
  | [v] => write v
  | v :: w :: r => write v ++ 0x2C :: writeItems (w :: r)

def writeMembers : List (JsonString × Json) → List UInt8
  | [] => []
  | [(k, v)] => writeString k ++ 0x3A :: write v
  | (k, v) :: m :: r => writeString k ++ 0x3A :: (write v ++ 0x2C :: writeMembers (m :: r))

end

end ContestExchange.Json
