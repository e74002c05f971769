import ContestExchange.Callsign
import ContestExchange.Exchange.Basic
import ContestExchange.Exchange.Placement
import ContestExchange.Field.Catalogue

/-!
# Reading exchanges

The order in which a station sends its exchange does not matter: a token goes
where it is legal, and `Placement.solve` decides between several places.  A token
with dots in it is a corrected callsign, sent as such; so is a single token that
fits nowhere and looks like a callsign.
-/

namespace ContestExchange

/-- Why an exchange cannot be read at all. -/
inductive ReadError where
  | tooFewTokens (expected found : Nat)
  | unreadable (received : String)
deriving DecidableEq

namespace ReadError

def message : ReadError → String
  | tooFewTokens expected found =>
    let e := toString expected
    let f := toString found
    s!"expected {e} exchange fields, found {f}"
  | unreadable received => s!"unable to parse exchange: {received}"

end ReadError

namespace Exchange

def validated (x : Exchange) : Except ReadError Exchange :=
  if x.isValid then .ok x else .error (.unreadable x.receivedText)

end Exchange

namespace Catalogue

/-- Whether a token is a corrected callsign that was sent as such. -/
def isDotted (token : String) : Bool :=
  token.toList.contains '.'

def undotted (token : String) : String :=
  String.ofList (token.toList.filter (· != '.'))

/-- The first dotted token that holds more than dots, without its dots. -/
def dottedCall? (tokens : List String) : Option String :=
  ((tokens.filter isDotted).map undotted).find? (· != "")

/-- Whether a slot that stands for this may take the token. -/
def admits (c : Catalogue) (token : String) : Kind → Bool
  | .single id => c.takes token id
  | .group ids => ids.any (c.takes token)

/-- The slots of a template that may take the token, in order. -/
def candidates (c : Catalogue) (template : Template) (token : String) : List Nat :=
  (List.range template.length).filter fun i =>
    (template[i]?).any fun slot => (c.kind? slot.name).any (c.admits token)

/-- The field that shows the token in a slot that stands for this.  A single field is not asked
whether it takes the token. -/
def fieldFor? (c : Catalogue) (token : String) : Kind → Option Field
  | .single id => c.fields[id]?
  | .group ids => (ids.find? (c.takes token)).bind (c.fields[·]?)

/-- What a slot shows: the token that it got, if any, and the field for it. -/
def filling? (c : Catalogue) (slot : Slot) (token : Option String) : Option (Field × String) :=
  (c.kind? slot.name).bind fun k => token.bind fun t => (c.fieldFor? t k).map (·, t)

def emptyEntry (c : Catalogue) (slot : Slot) : Entry :=
  ⟨slot.name, slot.name, "", c.isMult slot.name⟩

def entry (c : Catalogue) (slot : Slot) (token : Option String) : Entry :=
  match c.filling? slot token with
  | none => c.emptyEntry slot
  | some (f, t) => ⟨f.name, slot.name, (f.canonical? t).getD t, f.isMult⟩

def readTokens (c : Catalogue) (template : Template) (received : List String) :
    Except ReadError Exchange :=
  let tokens := received.filter (!isDotted ·)
  if tokens.length < template.requiredCount then
    .error (.tooFewTokens template.requiredCount tokens.length)
  else
    let placement := Placement.solve (tokens.map fun t => .undecided (c.candidates template t))
    let leftovers := placement.leftovers.filterMap (tokens[·]?)
    let correction :=
      match dottedCall? received, leftovers with
      | some call, _ => (some call, leftovers.isEmpty)
      | none, [t] => if Callsign.isPlausible t then (some t, true) else (none, false)
      | none, l => (none, l.isEmpty)
    let found := (List.range template.length).map fun i => (placement.token? i).bind (tokens[·]?)
    let filled := (template.zip found).all fun s =>
      s.1.isOptional || (c.filling? s.1 s.2).isSome
    .ok {
      entries := (template.zip found).map fun s => c.entry s.1 s.2
      correction := correction.1
      isValid := filled && correction.2
      received }

/-- Reads a received text: its words, in upper case. -/
def read (c : Catalogue) (template : Template) (text : String) : Except ReadError Exchange :=
  c.readTokens template ((Text.words text).map Text.upper)

end Catalogue

end ContestExchange
