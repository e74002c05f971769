import ContestExchange.Callsign
import ContestExchange.Json.Decoder

/-!
# Observations

What a station was heard to send in a field.  Observations are what outlives a
session: they are kept in journals and snapshots, and there they are JSON.
-/

namespace ContestExchange

open Json

/-- A value that a station sent. -/
structure Observation where
  call : String
  /-- The field or group. -/
  field : String
  /-- The canonical value. -/
  value : String
deriving DecidableEq

namespace Observation

/-- The observation of a station by any spelling of its callsign. -/
def of (call field value : String) : Observation :=
  ⟨Callsign.normalize call, field, value⟩

def key (o : Observation) : String × String :=
  (o.call, o.field)

/-- The order of observations: by callsign, then by field, then by value. -/
def precedes (o p : Observation) : Bool :=
  if o.call = p.call then
    if o.field = p.field then decide (o.value ≤ p.value) else decide (o.field ≤ p.field)
  else decide (o.call ≤ p.call)

def sort (l : List Observation) : List Observation :=
  l.mergeSort precedes

def decoder : Decoder Observation := fun v => do
  let f ← fields? ["call", "field", "value"] v
  let call ← f.required "call" text?
  let field ← f.required "field" text?
  let value ← f.required "value" text?
  return ⟨call, field, value⟩

def toJson (o : Observation) : Json :=
  .record [("call", .text o.call), ("field", .text o.field), ("value", .text o.value)]

end Observation

end ContestExchange
