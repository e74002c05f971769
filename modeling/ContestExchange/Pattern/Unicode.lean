import ContestExchange.Pattern.Categories
import ContestExchange.Pattern.Scripts

/-!
# Properties in Unicode

The names that are tabled: the general categories, the scripts, and four properties of
single characters.  The other properties that Unicode has (script extensions, ages, breaks,
and the remaining ones that a character has or has not) have no tables here; who needs
one reads patterns with another `Properties`.
-/

namespace ContestExchange.Pattern

namespace Unicode

/-- The bounds of the characters in lower case that are not letters in lower case. -/
def otherLowerBounds : List Nat :=
  [
    0xAA, 0xAB, 0xBA, 0xBB, 0x2B0, 0x2B9, 0x2C0, 0x2C2, 0x2E0, 0x2E5, 0x345, 0x346, 0x37A, 0x37B,
    0x10FC, 0x10FD, 0x1D2C, 0x1D6B, 0x1D78, 0x1D79, 0x1D9B, 0x1DC0, 0x2071, 0x2072, 0x207F,
    0x2080, 0x2090, 0x209D, 0x2170, 0x2180, 0x24D0, 0x24EA, 0x2C7C, 0x2C7E, 0xA69C, 0xA69E,
    0xA770, 0xA771, 0xA7F2, 0xA7F5, 0xA7F8, 0xA7FA, 0xAB5C, 0xAB60, 0xAB69, 0xAB6A, 0x10780,
    0x10781, 0x10783, 0x10786, 0x10787, 0x107B1, 0x107B2, 0x107BB, 0x1E030, 0x1E06E
  ]

/-- The bounds of the characters in upper case that are not letters in upper case. -/
def otherUpperBounds : List Nat :=
  [
    0x2160, 0x2170, 0x24B6, 0x24D0, 0x1F130, 0x1F14A, 0x1F150, 0x1F16A, 0x1F170, 0x1F18A
  ]

/-- The properties that a character has or has not. -/
def properties : List NamedSet :=
  [
    ⟨["Alpha", "Alphabetic"], alphabetic⟩,
    ⟨["Lower", "Lowercase"],
      .union (.within (boundsOfRuns lowerRuns)) (.within otherLowerBounds)⟩,
    ⟨["Upper", "Uppercase"],
      .union (.within (boundsOfRuns upperRuns)) (.within otherUpperBounds)⟩,
    ⟨["WSpace", "White_Space", "space"], .blank⟩
  ]

end Unicode

open Unicode in
/-- What the tabled names stand for.  By itself a name is first taken for a property, then
for a category and then for a script. -/
def Properties.unicode : Properties where
  set? := NamedSet.find? (properties ++ categories ++ scripts)
  value? property value :=
    match plainName property with
    | "gc" | "generalcategory" => NamedSet.find? categories value
    | "sc" | "script" => NamedSet.find? scripts value
    | _ => none

end ContestExchange.Pattern
