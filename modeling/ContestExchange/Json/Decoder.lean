import ContestExchange.Dictionary
import ContestExchange.Json.Reader
import ContestExchange.Json.Writer

/-!
# Reading values out of JSON

A *decoder* takes a JSON value to a value of some type, or says that it is none.

A record with named fields is written as an object or as an array of its fields
in their order (`fields?`).  In an object the order is free, a field must not
stand twice, and names that the record does not have are passed over; what
their values are does not matter.  In an array no more fields may stand than
the record has.  Whether a field may be missing is for the field to say:
`required` never, `optional` in an object only, `withDefault` in either form.
-/

namespace ContestExchange.Json

/-- The readings of JSON values as values of a type. -/
abbrev Decoder (α : Type) :=
  Json → Option α

def text? : Decoder String
  | .string (.text s) => some s
  | _ => none

def bool? : Decoder Bool
  | .bool b => some b
  | _ => none

/-- A natural number below a bound. -/
def natBelow? (bound : Nat) : Decoder Nat
  | .natural n => if n < bound then some n else none
  | _ => none

def word64? (v : Json) : Option UInt64 :=
  (natBelow? UInt64.size v).map (·.toUInt64)

def word16? (v : Json) : Option UInt16 :=
  (natBelow? UInt16.size v).map (·.toUInt16)

def nullable? {α : Type} (d : Decoder α) : Decoder (Option α)
  | .null => some none
  | v => (d v).map some

def list? {α : Type} (d : Decoder α) : Decoder (List α)
  | .array items => items.mapM d
  | _ => none

/-- The members of an object; of two with one key the last counts. -/
def dictionary? {α : Type} (d : Decoder α) : Decoder (Dictionary String α)
  | .object members =>
    members.foldlM
      (fun dict m =>
        match m.1, d m.2 with
        | .text k, some v => some (dict.put k v)
        | _, _ => none)
      Dictionary.empty
  | _ => none

/-- The name of a case without content: a string, or an object with that name
as its only key and `null` as its value. -/
def caseName? : Decoder String
  | .string (.text s) => some s
  | .object [(.text s, .null)] => some s
  | _ => none

/-! ### Records -/

/-- The fields of a record that were found, and how. -/
structure Fields where
  found : List (String × Json)
  /-- Whether they were found by their position in an array. -/
  byPosition : Bool

/-- The members of an object that carry one of the names. -/
def namedFields? (names : List String) :
    List (JsonString × Json) → List (String × Json) → Option (List (String × Json))
  | [], found => some found.reverse
  | (.broken _, _) :: _, _ => none
  | (.text k, v) :: r, found =>
    if names.contains k then
      if found.any (·.1 == k) then none else namedFields? names r ((k, v) :: found)
    else namedFields? names r found

/-- The fields with the given names, in either form of a record. -/
def fields? (names : List String) : Decoder Fields
  | .object members => (namedFields? names members []).map (⟨·, false⟩)
  | .array items => if items.length ≤ names.length then some ⟨names.zip items, true⟩ else none
  | _ => none

namespace Fields

def required {α : Type} (f : Fields) (name : String) (d : Decoder α) : Option α :=
  match f.found.lookup name with
  | none => none
  | some v => d v

/-- A field that may be `null`, and missing in an object. -/
def optional {α : Type} (f : Fields) (name : String) (d : Decoder α) : Option (Option α) :=
  match f.found.lookup name with
  | none => if f.byPosition then none else some none
  | some v => nullable? d v

def withDefault {α : Type} (f : Fields) (name : String) (value : α) (d : Decoder α) : Option α :=
  match f.found.lookup name with
  | none => some value
  | some v => d v

end Fields

/-! ### Whole texts -/

def decodeBytes? {α : Type} (d : Decoder α) (bs : List UInt8) : Option α :=
  (parse bs).bind d

def decode? {α : Type} (d : Decoder α) (s : String) : Option α :=
  decodeBytes? d (utf8 s)

end ContestExchange.Json
