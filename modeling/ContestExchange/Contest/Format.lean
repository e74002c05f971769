import ContestExchange.Contest.Basic

/-!
# Contest definitions in JSON

How a contest is written and read.  Every part of a definition may be missing;
a clause needs its fields only.
-/

namespace ContestExchange

open Json

namespace Clause

def parts : List String :=
  ["countries", "modes", "fields", "optional"]

def decoder : Decoder Clause := fun v => do
  let f ← fields? parts v
  let countries ← f.withDefault "countries" ["*"] (list? text?)
  let modes ← f.withDefault "modes" [] (list? Mode.decoder)
  let fields ← f.required "fields" (list? text?)
  let optionalFields ← f.withDefault "optional" [] (list? text?)
  return ⟨countries, modes, fields, optionalFields⟩

def toJson (c : Clause) : Json :=
  .record [
    ("countries", .texts c.countries),
    ("modes", .array (c.modes.map fun m => .text m.name)),
    ("fields", .texts c.fields),
    ("optional", .texts c.optionalFields)]

end Clause

namespace Contest

def parts : List String :=
  ["name", "mult_fields", "numeric_fields", "exchange", "country_overrides", "regex_file",
    "values_dir", "prefill"]

def decoder : Decoder Contest := fun v => do
  let f ← fields? parts v
  let name ← f.withDefault "name" "" text?
  let multFields ← f.withDefault "mult_fields" [] (list? text?)
  let numericFields ← f.withDefault "numeric_fields" [] (list? text?)
  let clauses ← f.withDefault "exchange" [] (list? Clause.decoder)
  let countryValues ← f.withDefault "country_overrides" .empty
    (dictionary? fun w => (list? text? w).map Text.sortUnique)
  let patternFile ← f.withDefault "regex_file" none (nullable? text?)
  let valuesDir ← f.withDefault "values_dir" none (nullable? text?)
  let prefillFiles ← f.withDefault "prefill" .empty (dictionary? text?)
  return ⟨name, multFields, numericFields, clauses, countryValues, patternFile, valuesDir,
    prefillFiles⟩

def toJson (c : Contest) : Json :=
  .record [
    ("name", .text c.name),
    ("mult_fields", .texts c.multFields),
    ("numeric_fields", .texts c.numericFields),
    ("exchange", .array (c.clauses.map Clause.toJson)),
    ("country_overrides", .record (c.countryValues.entries.map fun e => (e.1, .texts e.2))),
    ("regex_file", .ofOption .text c.patternFile),
    ("values_dir", .ofOption .text c.valuesDir),
    ("prefill", .record (c.prefillFiles.entries.map fun e => (e.1, .text e.2)))]

def parse? (s : String) : Option Contest :=
  decode? decoder s

end Contest

end ContestExchange
