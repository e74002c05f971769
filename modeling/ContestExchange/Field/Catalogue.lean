import ContestExchange.Contest.Basic
import ContestExchange.Field.Sheets

/-!
# The fields of a contest

A catalogue holds the fields that a contest uses, each under its own name and
with a fixed index, and the groups among them.  The name of a slot stands for a
field or, if there is no such field, for a group; a value of a group is a value
of the first member that takes it.

The indices are kept under the names.  That they are the places of the fields is
part of the type (`ids_iff`): a field is added at the end under a new name
(`push`) or put in the place of the one with its name (`replace`), and there is
no other way to change the fields.

A catalogue grows and changes while a contest is on: operators' values are
learned and multipliers come and go.  An index never changes its name, so a
group keeps meaning the same members.
-/

namespace ContestExchange

/-- The fields and groups of a contest. -/
structure Catalogue where
  /-- The fields; a field's index is its place here. -/
  fields : List Field
  /-- The index of each field under its name. -/
  ids : Dictionary String Nat
  groups : Dictionary String (List Nat)
  ids_iff : ∀ name i, ids.get? name = some i ↔ (fields.map Field.name)[i]? = some name

/-- What the name of a slot stands for. -/
inductive Kind where
  | single (id : Nat)
  | group (ids : List Nat)
deriving DecidableEq

namespace Kind

/-- The indices of the fields, in the order in which they are tried. -/
def ids : Kind → List Nat
  | single id => [id]
  | group ids => ids

end Kind

namespace Catalogue

/-- The catalogue without fields. -/
def empty : Catalogue where
  fields := []
  ids := .empty
  groups := .empty
  ids_iff _ _ := by simp

instance : Inhabited Catalogue :=
  ⟨empty⟩

/-- The index of a field. -/
def id? (c : Catalogue) (name : String) : Option Nat :=
  c.ids.get? name

/-- The field with a name. -/
def field? (c : Catalogue) (name : String) : Option Field :=
  (c.id? name).bind (c.fields[·]?)

def names (c : Catalogue) : List String :=
  c.fields.map Field.name

/-- **An index is under a name if and only if the field there has that name.** -/
theorem id?_eq_some_iff {c : Catalogue} {name : String} {i : Nat} :
    c.id? name = some i ↔ c.names[i]? = some name :=
  c.ids_iff name i

theorem lt_of_id? {c : Catalogue} {name : String} {i : Nat} (h : c.id? name = some i) :
    i < c.fields.length := by
  obtain ⟨hi, -⟩ := List.getElem?_eq_some_iff.1 (id?_eq_some_iff.1 h)
  rwa [names, List.length_map] at hi

theorem id?_of_getElem? {c : Catalogue} {i : Nat} {f : Field} (hf : c.fields[i]? = some f) :
    c.id? f.name = some i := by
  rw [id?_eq_some_iff, names, List.getElem?_map, hf, Option.map_some]

theorem map_name_set {l : List Field} {i : Nat} {f : Field}
    (h : (l.map Field.name)[i]? = some f.name) : (l.set i f).map Field.name = l.map Field.name := by
  obtain ⟨hi, he⟩ := List.getElem?_eq_some_iff.1 h
  rw [List.map_set, ← he, List.set_getElem_self]

/-- Puts a field in the place of the one with its name. -/
def replace (c : Catalogue) (i : Nat) (f : Field) (h : c.id? f.name = some i) : Catalogue where
  fields := c.fields.set i f
  ids := c.ids
  groups := c.groups
  ids_iff name j := by
    rw [map_name_set (id?_eq_some_iff.1 h)]
    exact c.ids_iff name j

/-- Adds a field with a new name. -/
def push (c : Catalogue) (f : Field) (h : c.id? f.name = none) : Catalogue where
  fields := c.fields ++ [f]
  ids := c.ids.put f.name c.fields.length
  groups := c.groups
  ids_iff name i := by
    rw [Dictionary.get?_put, List.map_append, List.map_singleton, List.getElem?_append,
      List.length_map]
    by_cases hi : i < c.fields.length
    · rw [if_pos hi, ← c.ids_iff]
      by_cases hn : name = f.name
      · -- the new name has no index yet, and `i` is not the one that it gets
        rw [if_pos hn, hn, show c.ids.get? f.name = none from h, Option.some.injEq]
        simp only [reduceCtorEq, iff_false]
        omega
      · rw [if_neg hn]
    · rw [if_neg hi]
      by_cases hn : name = f.name
      · rw [if_pos hn, hn, Option.some.injEq, List.getElem?_singleton]
        constructor
        · rintro rfl
          rw [if_pos (Nat.sub_self _)]
        · intro he
          split at he
          · omega
          · cases he
      · rw [if_neg hn, List.getElem?_singleton]
        constructor
        · intro he
          exact absurd (lt_of_id? he) hi
        · intro he
          split at he
          · exact absurd (Option.some.inj he).symm hn
          · cases he

/-- Adds a field, in the place of the one with its name if there is one; tells
its index. -/
def insert (c : Catalogue) (f : Field) : Catalogue × Nat :=
  match h : c.id? f.name with
  | some i => (c.replace i f h, i)
  | none => (c.push f h, c.fields.length)

/-- Adds the group of the given members, if there are at least two and all of
them are known; tells whether it did. -/
def insertGroup (c : Catalogue) (members : List String) : Catalogue × Bool :=
  match members.mapM c.id? with
  | none => (c, false)
  | some ids =>
    if 2 ≤ ids.length then
      ({ c with groups := c.groups.put (Group.nameOf members) ids }, true)
    else (c, false)

/-- What a name stands for. -/
def kind? (c : Catalogue) (name : String) : Option Kind :=
  match c.id? name with
  | some i => some (.single i)
  | none => (c.groups.get? name).map .group

def takes (c : Catalogue) (v : String) (id : Nat) : Bool :=
  (c.fields[id]?).any (·.isLegal v)

/-- The index of the first field of a name that takes the value. -/
def resolve? (c : Catalogue) (name v : String) : Option Nat :=
  (c.kind? name).bind fun k => k.ids.find? (c.takes v)

def isLegal (c : Catalogue) (name v : String) : Bool :=
  (c.resolve? name v).isSome

def canonical? (c : Catalogue) (name v : String) : Option String :=
  (c.resolve? name v).bind fun id => (c.fields[id]?).bind (·.canonical? v)

/-- Whether the values of a field are multipliers; a group's are not. -/
def isMult (c : Catalogue) (name : String) : Bool :=
  (c.field? name).any (·.isMult)

def canonicalValues (c : Catalogue) (name : String) : List String :=
  ((c.field? name).map Field.canonicalValues).getD []

/-- Changes the field with a name, by a change that keeps the name and tells
something about itself; without such a field nothing changes and the answer is
`false`. -/
def update (c : Catalogue) (name : String) (change : Field → Field × Bool)
    (keeps : ∀ f, (change f).1.name = f.name) : Catalogue × Bool :=
  match h : c.id? name with
  | none => (c, false)
  | some i =>
    have hi : i < c.fields.length := c.lt_of_id? h
    have hf : c.id? (change c.fields[i]).1.name = some i :=
      (keeps c.fields[i]).symm ▸ id?_of_getElem? (List.getElem?_eq_getElem hi)
    (c.replace i (change c.fields[i]).1 hf, (change c.fields[i]).2)

/-- Makes the values of a field multipliers or not; tells whether the field is
known. -/
def setMult (c : Catalogue) (name : String) (b : Bool) : Catalogue × Bool :=
  c.update name (fun f => ({ f with isMult := b }, true)) fun _ => rfl

def learn (c : Catalogue) (name v : String) : Catalogue × Bool :=
  c.update name (·.addCanonical v) fun f => f.name_addCanonical v

def addAlternative (c : Catalogue) (name value alt : String) : Catalogue × Bool :=
  c.update name (·.addAlternative value alt) fun f => f.name_addAlternative value alt

end Catalogue

/-! ### The catalogue of a contest -/

/-- Where the grammar of fields comes from. -/
structure Grammar where
  pattern? : String → Option String
  values? : String → Option String

namespace Field

/-- The field that a contest and its grammar describe.  A pattern that is none
is left out. -/
def load (contest : Contest) (g : Grammar) (name : String) : Field :=
  let table := ((g.values? name).map Spellings.parse).getD .empty
  let own := (countryOf? name).bind contest.countryValues.get?
  { name
    isMult := contest.isMult name
    isNumeric := contest.isNumeric name
    pattern := (g.pattern? name).bind fun text => (TokenPattern.compile text).toOption
    spellings := (own.map table.addOverrides).getD table }

end Field

namespace Catalogue

/-- Makes sure that a field is there; tells its index. -/
def ensure (contest : Contest) (g : Grammar) (c : Catalogue) (name : String) : Catalogue × Nat :=
  match c.id? name with
  | some i => (c, i)
  | none => c.insert (Field.load contest g name)

def ensureAll (contest : Contest) (g : Grammar) (c : Catalogue) :
    List String → Catalogue × List Nat
  | [] => (c, [])
  | name :: r =>
    let here := ensure contest g c name
    let rest := ensureAll contest g here.1 r
    (rest.1, here.2 :: rest.2)

/-- Adds what the name of a slot stands for. -/
def addSlot (contest : Contest) (g : Grammar) (c : Catalogue) (name : String) : Catalogue :=
  if Group.isGroup name then
    let r := ensureAll contest g c (Group.members name)
    { r.1 with groups := r.1.groups.put name r.2 }
  else (ensure contest g c name).1

/-- The catalogue of all fields and groups that a contest uses. -/
def ofContest (contest : Contest) (g : Grammar) : Catalogue :=
  contest.slotNames.foldl (addSlot contest g) empty

end Catalogue

end ContestExchange
