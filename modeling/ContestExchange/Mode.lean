import ContestExchange.Json.Decoder

/-!
# Modes

The kinds of emission that contests tell apart.
-/

namespace ContestExchange

/-- The kind of emission a station is worked on. -/
inductive Mode where
  /-- Morse. -/
  | cw
  /-- Telephony. -/
  | ssb
  | digital
  | other
deriving DecidableEq, Repr

namespace Mode

/-- The mode as messages show it. -/
def label : Mode → String
  | cw => "CW"
  | ssb => "SSB"
  | digital => "DIGI"
  | other => "OTHER"

/-- The mode as contest definitions write it. -/
def name : Mode → String
  | cw => "CW"
  | ssb => "SSB"
  | digital => "Digital"
  | other => "Other"

def ofName? : String → Option Mode
  | "CW" => some cw
  | "SSB" => some ssb
  | "Digital" => some digital
  | "Other" => some other
  | _ => none

theorem ofName?_name (m : Mode) : ofName? m.name = some m := by
  cases m <;> rfl

def decoder : Json.Decoder Mode := fun v =>
  (Json.caseName? v).bind ofName?

end Mode

end ContestExchange
