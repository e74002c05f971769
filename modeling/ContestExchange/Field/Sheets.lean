import ContestExchange.Field.Basic
import ContestExchange.Sheet

/-!
# What sheets say about fields

Two kinds of sheets describe fields.  A sheet of patterns has lines `FIELD:
pattern`, and the first pattern of a field counts.  A sheet of values has lines
`VALUE` or `VALUE=alternative,…`.  A contest may add values for the stations of
one country, written `value|alternative|…`; they go into the fields named
`FIELD[COUNTRY]`.
-/

namespace ContestExchange

open Text

/-- The patterns of fields, by the field's name. -/
structure PatternSheet where
  patterns : Dictionary String String

namespace PatternSheet

def empty : PatternSheet :=
  ⟨.empty⟩

def get? (s : PatternSheet) (field : String) : Option String :=
  s.patterns.get? field

/-- Adds a pattern for a field that has none. -/
def insert (s : PatternSheet) (field pattern : String) : PatternSheet :=
  ⟨s.patterns.putNew field pattern⟩

/-- The field and the pattern of an entry; only the first colon parts them. -/
def entry? (line : String) : Option (String × String) :=
  match splitOnce ':' line with
  | none => none
  | some (field, pattern) =>
    if trim field = "" || trim pattern = "" then none else some (trim field, trim pattern)

def parse (text : String) : PatternSheet :=
  ((Sheet.entries text).filterMap entry?).foldl (fun s e => s.insert e.1 e.2) empty

end PatternSheet

namespace Spellings

/-- Adds a class: a canonical value and its alternatives. -/
def addClass (t : Spellings) (value : String) (alts : List String) : Spellings :=
  alts.foldl (fun t a => (t.addAlternative value a).1) (t.addCanonical value).1

/-- Adds the class that an entry of a sheet of values describes. -/
def addEntry (t : Spellings) (line : String) : Spellings :=
  match splitOnce '=' line with
  | none => (t.addCanonical line).1
  | some (value, alts) => t.addClass (trim value) (trimmedParts ',' alts)

def parse (text : String) : Spellings :=
  (Sheet.entries text).foldl addEntry empty

/-- Adds the class that a contest's value for a country describes. -/
def addOverride (t : Spellings) (text : String) : Spellings :=
  match trimmedParts '|' text with
  | [] => t
  | value :: alts => t.addClass value alts

def addOverrides (t : Spellings) (texts : List String) : Spellings :=
  (sortUnique texts).foldl addOverride t

end Spellings

/-- The country that a field such as `QTHX[HA]` is for: what stands between the
last opening bracket and the closing one at the end, unless that is nothing. -/
def countryOf? (field : String) : Option String :=
  match field.toList.reverse with
  | ']' :: r =>
    match r.dropWhile (· != '[') with
    | [] => none
    | _ =>
      let country := (r.takeWhile (· != '[')).reverse
      if country.isEmpty then none else some (String.ofList country)
  | _ => none

end ContestExchange
