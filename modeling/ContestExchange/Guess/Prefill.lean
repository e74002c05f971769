import ContestExchange.Callsign
import ContestExchange.Dictionary
import ContestExchange.Sheet
import ContestExchange.Text.Split

/-!
# Expected values

Operators may know beforehand what some stations are going to send in a field.
A sheet of expected values has a callsign and a value on each line, parted by
blanks or commas; further columns do not count, and neither does a line with
fewer.  Of two values for one station the later one counts.
-/

namespace ContestExchange

open Text

/-- The values that are expected from stations. -/
structure Prefill where
  values : Dictionary (String × String) String

namespace Prefill

def empty : Prefill :=
  ⟨.empty⟩

instance : Inhabited Prefill :=
  ⟨empty⟩

def get? (p : Prefill) (field call : String) : Option String :=
  p.values.get? (field, call)

def isEmpty (p : Prefill) : Bool :=
  p.values.isEmpty

def insert (p : Prefill) (field call value : String) : Prefill :=
  ⟨p.values.put (field, Callsign.normalize call) (upper (trim value))⟩

/-- **What is expected after `insert`**: the value for the field and the callsign,
and all else as before. -/
theorem get?_insert (p : Prefill) (field call value field' call' : String) :
    (p.insert field call value).get? field' call' =
      if (field', call') = (field, Callsign.normalize call) then some (upper (trim value))
      else p.get? field' call' :=
  Dictionary.get?_put _ _ _ _

def entry? (line : String) : Option (String × String) :=
  match parts (fun c => c == ',' || isBlank c) line with
  | call :: value :: _ => some (call, value)
  | _ => none

def rows (text : String) : List (String × String) :=
  (Sheet.entries text).filterMap entry?

/-- Expects what a sheet says for a field; tells how many values that are. -/
def addSheet (p : Prefill) (field text : String) : Prefill × Nat :=
  ((rows text).foldl (fun p r => p.insert field r.1 r.2) p, (rows text).length)

end Prefill

end ContestExchange
