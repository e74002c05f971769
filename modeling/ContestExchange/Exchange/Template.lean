import ContestExchange.Field.Group
import ContestExchange.Json.Decoder

/-!
# Templates

What an exchange has to hold: a slot for each field or group of fields, in the
order in which they are usually sent.
-/

namespace ContestExchange

/-- A place of an exchange. -/
structure Slot where
  /-- The field or group of fields that belongs there. -/
  name : String
  isOptional : Bool
deriving DecidableEq

abbrev Template :=
  List Slot

namespace Template

/-- How many places must be filled. -/
def requiredCount (t : Template) : Nat :=
  t.countP (!·.isOptional)

end Template

end ContestExchange
