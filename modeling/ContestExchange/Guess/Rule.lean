import ContestExchange.Field.Group
import ContestExchange.Guess.Roster
import ContestExchange.Guess.Zones

/-!
# Where guesses come from

A rule says which of the things known about a station would be sent in a field.
The rules of fields are fixed (`ofField?`); the rule of a group asks the rules of
its members in their order.  One group has an order of its own: the stations of
a national society send the society in place of a zone, so in `ITUZONE+SOCIETY`
the society is asked first.
-/

namespace ContestExchange

/-- How the value of a field is guessed. -/
inductive GuessRule where
  /-- By an attribute of the station. -/
  | known (a : Attribute)
  /-- By an attribute of the station, or else by the place its callsign tells. -/
  | knownOrZone (a : Attribute) (k : ZoneKind)
  /-- By the first of several rules that gives something. -/
  | firstOf (rules : List GuessRule)

namespace GuessRule

mutual

/-- What a rule gives for a station. -/
def evaluate (record : Option StationRecord) (zone? : ZoneKind → Option UInt32) :
    GuessRule → Option String
  | known a => record.bind (·.get? a)
  | knownOrZone a k =>
    match record.bind (·.get? a) with
    | some v => some v
    | none => (zone? k).map toString
  | firstOf rules => evaluateFirst record zone? rules

def evaluateFirst (record : Option StationRecord) (zone? : ZoneKind → Option UInt32) :
    List GuessRule → Option String
  | [] => none
  | r :: rs =>
    match evaluate record zone? r with
    | some v => some v
    | none => evaluateFirst record zone? rs

end

theorem evaluateFirst_eq_findSome? (record : Option StationRecord)
    (zone? : ZoneKind → Option UInt32) (rules : List GuessRule) :
    evaluateFirst record zone? rules = rules.findSome? (evaluate record zone?) := by
  induction rules with
  | nil => rw [evaluateFirst, List.findSome?_nil]
  | cons r rs ih =>
    rw [evaluateFirst, List.findSome?_cons, ih]
    cases evaluate record zone? r <;> rfl

/-- The rule of a field that has one by its name alone. -/
def ofName? : String → Option GuessRule
  | "AGE" => some (known .age)
  | "CHECK" => some (known .check)
  | "CQZONE" => some (knownOrZone .cqZone .cq)
  | "ITUZONE" => some (knownOrZone .ituZone .itu)
  | "CWPOWER" => some (known .cwPower)
  | "SSBPOWER" => some (known .ssbPower)
  | "POWER" => some (firstOf [known .cwPower, known .ssbPower])
  | "PREC" => some (known .precedence)
  | "NAME" => some (known .name)
  | "QTH" => some (known .qth)
  | "SECTION" => some (known .societySection)
  | "STATE" => some (known .state)
  | "10MSTATE" => some (known .state)
  | "160MSTATE" => some (known .state)
  | "SOCIETY" => some (known .society)
  | "GRID" => some (known .grid)
  | "FOC" => some (known .foc)
  | "SKCC" => some (known .skcc)
  | "DOK" => some (known .dok)
  | "10MNUM" => some (known .tenTen)
  | _ => none

/-- Whether a field is the place within some country. -/
def isPlace (field : String) : Bool :=
  ['Q', 'T', 'H', 'X', '['].isPrefixOf field.toList

def ofField? (field : String) : Option GuessRule :=
  match ofName? field with
  | some r => some r
  | none => if isPlace field then some (known .qth) else none

/-- The rule of a group, unless no member has one. -/
def ofGroup? (name : String) : Option GuessRule :=
  match (Group.members name).filterMap ofField? with
  | [] => none
  | rules => some (firstOf rules)

def of? (name : String) : Option GuessRule :=
  match ofField? name with
  | some r => some r
  | none =>
    if name = "ITUZONE+SOCIETY" then
      some (firstOf [known .society, knownOrZone .ituZone .itu])
    else if Group.isGroup name then ofGroup? name
    else none

end GuessRule

end ContestExchange
