import ContestExchange.Field.CutNumber
import ContestExchange.Field.Spellings
import ContestExchange.Pattern.Automaton
import ContestExchange.Pattern.Parser
import ContestExchange.Pattern.Unicode

/-!
# Fields

A field of an exchange says which tokens are its values and what their canonical
form is.  Its grammar has two parts that are tried side by side: a pattern, whose
matches are canonical as they are, and a table of spellings.  A field that is a
number also takes the cut form of a value, but only for a token that is no value
as it was sent; a field with neither part takes nothing.

Of the pattern a field needs no more than which tokens it takes, so that is all
a `TokenPattern` keeps besides the text it came from.
-/

namespace ContestExchange

/-- A pattern for whole tokens. -/
structure TokenPattern where
  /-- The pattern's text, with the anchors around it. -/
  source : String
  accepts : String → Bool

namespace TokenPattern

/-- The text that a field's pattern is read from: the pattern between the two
anchors of a token. -/
def anchored (text : String) : String :=
  "^(?:" ++ Text.trim text ++ ")$"

/-- Reads the pattern of a field; without being told, names of properties stand for what
the tables say. -/
def compile (text : String) (properties : Pattern.Properties := .unicode) :
    Except Pattern.Error TokenPattern :=
  match Pattern.parse properties (anchored text) with
  | .error e => .error e
  | .ok p => if p.fits then .ok ⟨anchored text, p.occursIn⟩ else .error .tooLarge

end TokenPattern

/-- One field of an exchange. -/
structure Field where
  name : String
  isMult : Bool
  /-- Whether it is a number, so that cut numbers are taken. -/
  isNumeric : Bool
  pattern : Option TokenPattern
  spellings : Spellings

namespace Field

/-- The field that takes nothing. -/
def ofName (name : String) : Field :=
  ⟨name, false, false, none, .empty⟩

/-- Whether the field has no grammar at all. -/
def acceptsNothing (f : Field) : Bool :=
  f.pattern.isNone && f.spellings.isEmpty

def matchesPattern (f : Field) (v : String) : Bool :=
  f.pattern.any (·.accepts v)

/-- Whether the token is a value as it was sent. -/
def isLegalAsSent (f : Field) (v : String) : Bool :=
  f.matchesPattern v || f.spellings.contains v

/-- The canonical form of a token that is a value as it was sent. -/
def canonicalAsSent? (f : Field) (v : String) : Option String :=
  match f.spellings.canonical? v with
  | some c => some c
  | none => if f.matchesPattern v then some v else none

/-- The digits of a cut number, in a field that is a number. -/
def cutForm? (f : Field) (v : String) : Option String :=
  if f.isNumeric then CutNumber.digits? v else none

def isLegal (f : Field) (v : String) : Bool :=
  f.isLegalAsSent v || (f.cutForm? v).any f.isLegalAsSent

def canonical? (f : Field) (v : String) : Option String :=
  match f.canonicalAsSent? v with
  | some c => some c
  | none => (f.cutForm? v).bind f.canonicalAsSent?

/-- Adds a canonical value; tells whether it is new. -/
def addCanonical (f : Field) (v : String) : Field × Bool :=
  let r := f.spellings.addCanonical (Text.trim v)
  ({ f with spellings := r.1 }, r.2)

/-- Adds another spelling of a canonical value; tells whether that changed
anything. -/
def addAlternative (f : Field) (value alt : String) : Field × Bool :=
  let r := f.spellings.addAlternative (Text.trim value) (Text.trim alt)
  ({ f with spellings := r.1 }, r.2)

def canonicalValues (f : Field) : List String :=
  f.spellings.canonicalValues

theorem name_addCanonical (f : Field) (v : String) : (f.addCanonical v).1.name = f.name := rfl

theorem name_addAlternative (f : Field) (value alt : String) :
    (f.addAlternative value alt).1.name = f.name := rfl

end Field

end ContestExchange
