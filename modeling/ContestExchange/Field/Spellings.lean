import ContestExchange.Dictionary
import ContestExchange.Text.Order

/-!
# Spellings

The values that a field enumerates, each with the spellings that mean it.  One
spelling of a class is its canonical value.  A table is kept twice, as the classes
under their canonical values and as the canonical value of every spelling; both are
written together, by `put`.

The first mention of a spelling decides: `addCanonical` and `addAlternative`
leave what is known as it is, and tell whether they changed anything.
-/

namespace ContestExchange

/-- The classes of spellings, each in ascending order under its canonical value, and the
canonical value of every accepted spelling. -/
structure Spellings where
  members : Dictionary String (List String)
  canonical : Dictionary String String

namespace Spellings

def empty : Spellings :=
  ⟨.empty, .empty⟩

instance : Inhabited Spellings :=
  ⟨empty⟩

def canonical? (t : Spellings) (v : String) : Option String :=
  t.canonical.get? v

def contains (t : Spellings) (v : String) : Bool :=
  (t.canonical? v).isSome

/-- The spellings with the canonical value `c`, in ascending order. -/
def class? (t : Spellings) (c : String) : Option (List String) :=
  t.members.get? c

/-- Makes `m` the class of `c` and `c` the canonical value of `v`. -/
def put (t : Spellings) (v c : String) (m : List String) : Spellings :=
  ⟨t.members.put c m, t.canonical.put v c⟩

/-- Adds `v` as a class of its own, unless it is empty or accepted already. -/
def addCanonical (t : Spellings) (v : String) : Spellings × Bool :=
  if v = "" || t.contains v then (t, false) else (t.put v v [v], true)

/-- Adds `alt` to the class of `value`, which comes into being if need be. -/
def addAlternative (t : Spellings) (value alt : String) : Spellings × Bool :=
  if value = "" then (t, false)
  else
    let (t', created) := t.addCanonical value
    match t'.canonical? value with
    | none => (t', created)
    | some c =>
      if alt = "" || t'.contains alt then (t', created)
      else (t'.put alt c (Text.sortedInsert alt ((t'.class? c).getD [])), true)

def isEmpty (t : Spellings) : Bool :=
  t.members.isEmpty

def size (t : Spellings) : Nat :=
  t.members.size

def canonicalValues (t : Spellings) : List String :=
  Text.sort t.members.keys

def classes (t : Spellings) : List (String × List String) :=
  t.canonicalValues.map fun c => (c, (t.class? c).getD [])

end Spellings

end ContestExchange
