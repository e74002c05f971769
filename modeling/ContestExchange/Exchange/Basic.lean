import ContestExchange.Json.Decoder
import ContestExchange.Text.Split

/-!
# Exchanges

A received exchange once its tokens have been told apart: one entry for each
slot of the template, in the template's order.
-/

namespace ContestExchange

open Json

/-- What was found for a slot. -/
structure Entry where
  /-- The field; for a group, the member that took the token. -/
  field : String
  slot : String
  /-- The canonical value; empty if the slot was not filled. -/
  value : String
  isMult : Bool
deriving DecidableEq

/-- A received exchange. -/
structure Exchange where
  entries : List Entry
  /-- The callsign that the other station corrected its own to. -/
  correction : Option String
  /-- Whether every required slot was filled and no token is left over. -/
  isValid : Bool
  received : List String
deriving DecidableEq

namespace Exchange

/-- The value under a name, be it a field's or a slot's. -/
def value? (x : Exchange) (name : String) : Option String :=
  (x.entries.find? fun e => e.field == name || e.slot == name).map Entry.value

def mults (x : Exchange) : List Entry :=
  x.entries.filter fun e => e.isMult && e.value != ""

def receivedText (x : Exchange) : String :=
  Text.joinWith " " x.received

end Exchange

/-! ### Exchanges in JSON -/

namespace Entry

def decoder : Decoder Entry := fun v => do
  let f ← fields? ["name", "slot", "value", "is_mult"] v
  let field ← f.required "name" text?
  let slot ← f.required "slot" text?
  let value ← f.required "value" text?
  let isMult ← f.required "is_mult" bool?
  return ⟨field, slot, value, isMult⟩

def toJson (e : Entry) : Json :=
  .record [
    ("name", .text e.field),
    ("slot", .text e.slot),
    ("value", .text e.value),
    ("is_mult", .bool e.isMult)]

end Entry

namespace Exchange

def decoder : Decoder Exchange := fun v => do
  let f ← fields? ["fields", "replacement_call", "valid", "received"] v
  let entries ← f.required "fields" (list? Entry.decoder)
  let correction ← f.optional "replacement_call" text?
  let isValid ← f.required "valid" bool?
  let received ← f.required "received" (list? text?)
  return ⟨entries, correction, isValid, received⟩

def toJson (x : Exchange) : Json :=
  .record [
    ("fields", .array (x.entries.map Entry.toJson)),
    ("replacement_call", .ofOption .text x.correction),
    ("valid", .bool x.isValid),
    ("received", .texts x.received)]

end Exchange

end ContestExchange
