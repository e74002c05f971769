import ContestExchange.Pattern.CharSet

/-!
# Properties of characters

A pattern can ask for the characters with a property, by a name such as `\p{Greek}` or
by a property and one of its values, `\p{Script=Greek}`.  Which characters these are is
not for patterns to say: they are read with a `Properties`, which tells what the names
stand for, and everything that is said of reading is said for all of them.

`NamedSet.find?` looks a name up in a table, in the way in which such names are compared.
-/

namespace ContestExchange.Pattern

/-! ### Names in patterns -/

/-- What an escape asks for. -/
inductive PropertyName where
  | set (name : String)
  /-- The characters for which the property has the value, or with `negated` the others. -/
  | value (property value : String) (negated : Bool)

/-- What stands before and behind the first `sign`, if there is one. -/
def cutAt? (sign : List Char) : List Char → Option (List Char × List Char)
  | [] => none
  | c :: cs =>
    if sign.isPrefixOf (c :: cs) then some ([], (c :: cs).drop sign.length)
    else (cutAt? sign cs).map fun r => (c :: r.1, r.2)

namespace PropertyName

/-- What a name in braces asks for.  The unequal sign is looked for before the two signs
that can stand between a property and its value. -/
def ofBraces (cs : List Char) : PropertyName :=
  match cutAt? ['!', '='] cs with
  | some (property, v) => value (String.ofList property) (String.ofList v) true
  | none =>
    match (cutAt? [':'] cs).or (cutAt? ['='] cs) with
    | some (property, v) => value (String.ofList property) (String.ofList v) false
    | none => set (String.ofList cs)

def isNegated : PropertyName → Bool
  | set _ => false
  | value _ _ negated => negated

end PropertyName

/-! ### What names stand for -/

/-- What the names of properties stand for. -/
structure Properties where
  set? : (name : String) → Option CharSet
  /-- The characters for which the property has the value. -/
  value? : (property value : String) → Option CharSet

def Properties.find? (p : Properties) : PropertyName → Option CharSet
  | .set name => p.set? name
  | .value property value _ => p.value? property value

/-! ### Tables of names -/

/-- A name without blanks, dashes, underscores and a leading `is`, in lower case; but `isc`
is another name than `c`. -/
def plainName (name : String) : String :=
  let plain := fun (cs : List Char) =>
    (cs.filter fun c => c.toNat < 0x80 && c != ' ' && c != '_' && c != '-').map Char.toLower
  match name.toList with
  | i :: s :: cs =>
    if i.toLower == 'i' && s.toLower == 's' then
      if plain cs == ['c'] then "isc" else String.ofList (plain cs)
    else String.ofList (plain name.toList)
  | cs => String.ofList (plain cs)

/-- A set of characters, and what it is called. -/
structure NamedSet where
  names : List String
  set : CharSet

namespace NamedSet

/-- The characters that are in one of the sets. -/
def anyOf (l : List NamedSet) : CharSet :=
  .unions (l.map set)

def find? (table : List NamedSet) (name : String) : Option CharSet :=
  let plain := plainName name
  (table.find? fun s => s.names.any (plainName · == plain)).map set

end NamedSet

end ContestExchange.Pattern
