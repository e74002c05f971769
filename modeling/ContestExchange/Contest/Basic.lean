import ContestExchange.Exchange.Template
import ContestExchange.Field.CutNumber
import ContestExchange.Mode
import ContestExchange.Text.Ascii
import ContestExchange.Text.Order

/-!
# Contests

A contest says what is exchanged with whom.  Its clauses are asked in their
order, and the first one that covers the other station's country and the mode
gives the template; fields and the rest of the definition are shared by all
clauses.
-/

namespace ContestExchange

open Text

/-- What is exchanged with the stations of some countries on some modes. -/
structure Clause where
  /-- The countries, by prefix; `*` stands for any. -/
  countries : List String
  /-- The modes; none stands for any. -/
  modes : List Mode
  fields : List String
  optionalFields : List String

namespace Clause

def covers (c : Clause) (country : String) (mode : Mode) : Bool :=
  c.countries.any (fun d => d == "*" || sameLetters d country) &&
    (c.modes.isEmpty || c.modes.contains mode)

def template (c : Clause) : Template :=
  c.fields.map fun f => ⟨trim f, c.optionalFields.any fun o => trim o == trim f⟩

end Clause

structure Contest where
  name : String
  multFields : List String
  /-- The fields that are numbers, besides those that always are. -/
  numericFields : List String
  clauses : List Clause
  /-- The values that the stations of a country use, by prefix, in ascending
  order. -/
  countryValues : Dictionary String (List String)
  patternFile : Option String
  valuesDir : Option String
  /-- The files of expected values, by field. -/
  prefillFiles : Dictionary String String

namespace Contest

def empty : Contest :=
  ⟨"", [], [], [], .empty, none, none, .empty⟩

instance : Inhabited Contest :=
  ⟨empty⟩

/-- The slot names of all clauses, each once, in the order of first mention. -/
def slotNames (c : Contest) : List String :=
  ((c.clauses.flatMap Clause.fields).map trim).eraseDups

def isMult (c : Contest) (field : String) : Bool :=
  c.multFields.contains field

def isNumeric (c : Contest) (field : String) : Bool :=
  CutNumber.numericFields.contains field || c.numericFields.contains field

/-- The template for a country and a mode. -/
def template? (c : Contest) (country : String) (mode : Mode) : Option Template :=
  (c.clauses.find? (·.covers country mode)).map Clause.template

end Contest

end ContestExchange
