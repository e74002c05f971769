import ContestExchange.Exchange.Reading
import ContestExchange.Journal.Basic

/-!
# What a session is asked and what it tells

A session takes commands one at a time and answers each of them.  Besides, it
tells everybody who listens what happens: an `Event` for every exchange that was
read, for every change of the fields, and for every number up to which the
observations are known to be safe.
-/

namespace ContestExchange

/-- What a session tells those who listen. -/
inductive Event where
  | parsed (isValid : Bool)
  | tooFewTokens (expected found : Nat)
  /-- The tokens of an exchange do not fill its slots. -/
  | unparseable (received : String)
  | correctedCall (call : String)
  | learned (field value : String)
  /-- The values of a field are multipliers from now on, or not any more. -/
  | multChanged (field : String) (isMult : Bool)
  /-- The observations up to a number are safe. -/
  | durable (seq : UInt64)
deriving DecidableEq

/-- Why a command fails. -/
inductive SessionError where
  /-- The exchange cannot be read, or must not be logged. -/
  | exchange (e : ReadError)
  | journal (e : JournalError)
  | notRunning
  | unknownTemplate (country : String) (mode : Mode)
deriving DecidableEq

namespace SessionError

def message : SessionError → String
  | exchange e => e.message
  | journal e =>
    let m := e.message
    s!"persistence failed: {m}"
  | notRunning => "exchange runtime is not running"
  | unknownTemplate country mode =>
    let m := mode.label
    s!"no exchange template for {country} on {m}"

end SessionError

/-- What a session can be asked. -/
inductive Command where
  | parse (text country : String) (mode : Mode)
  | log (call : String) (x : Exchange) (time : UInt64)
  | learn (field value : String)
  /-- Make the values of a field multipliers, or not any more. -/
  | setMult (field : String) (isMult : Bool)
  /-- See that all observations are safe. -/
  | flush
  /-- Write a snapshot. -/
  | checkpoint
  /-- See that all observations are safe, and end. -/
  | shutdown
deriving DecidableEq

/-- What a session answers. -/
inductive Answer where
  | exchange (x : Exchange)
  /-- The number of an observation. -/
  | seq (n : UInt64)
  | flag (b : Bool)
  | done
  | failed (e : SessionError)
deriving DecidableEq

end ContestExchange
