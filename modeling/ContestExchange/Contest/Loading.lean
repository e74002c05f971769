import ContestExchange.Contest.Format
import ContestExchange.Field.Catalogue
import ContestExchange.Files.Tree
import ContestExchange.Guess.Prefill

/-!
# Loading contests from files

A contest definition is a JSON file and names the files that go with it: a sheet
of patterns, a directory with a sheet of values for each field, and sheets of
expected values.  Names that are no absolute paths start at the directory of the
definition.

A definition that cannot be read is an error.  A sheet that cannot be read is
none: the contest is then as if it did not name it.
-/

namespace ContestExchange

open Text

/-- Why a contest cannot be loaded. -/
inductive LoadError where
  | unreadable (failure : ReadFailure)
  | malformed
  | unsupportedExtension (ext : String)
deriving DecidableEq

namespace LoadError

def message : LoadError → String
  | unreadable failure => failure.message
  | malformed => "config parse failed"
  | unsupportedExtension ext => s!"unsupported config extension '{ext}'; expected .json"

end LoadError

namespace Contest

/-- The contest with its paths taken from a directory. -/
def resolvePaths (c : Contest) (base : String) : Contest :=
  { c with
    patternFile := c.patternFile.map (Path.join base)
    valuesDir := c.valuesDir.map (Path.join base)
    prefillFiles := .ofList (c.prefillFiles.entries.map fun e => (e.1, Path.join base e.2)) }

def load (files : Files) (path : String) : Except LoadError Contest :=
  let ext := lower ((Path.extension? path).getD "")
  if ext != "json" then .error (.unsupportedExtension ext)
  else
    match files.read path with
    | .error f => .error (.unreadable f)
    | .ok text =>
      match parse? text with
      | none => .error .malformed
      | some c => .ok (c.resolvePaths (Path.parent path))

end Contest

namespace PatternSheet

def load (files : Files) (path : String) : Except ReadFailure PatternSheet :=
  (files.read path).map parse

/-- The sheet of patterns that a contest names. -/
def ofContest (files : Files) (c : Contest) : PatternSheet :=
  match c.patternFile with
  | none => empty
  | some path =>
    match load files path with
    | .error _ => empty
    | .ok s => s

end PatternSheet

namespace Contest

/-- The sheet of values of a field, if the contest has one. -/
def loadValues (files : Files) (c : Contest) (field : String) :
    Except ReadFailure (Option String) :=
  match c.valuesDir with
  | none => .ok none
  | some dir =>
    match files.read (Path.join dir (field ++ ".values")) with
    | .ok text => .ok (some text)
    | .error ⟨path, cause⟩ => if cause = .missing then .ok none else .error ⟨path, cause⟩

end Contest

namespace Grammar

def ofContest (files : Files) (c : Contest) : Grammar where
  pattern? := (PatternSheet.ofContest files c).get?
  values? := fun field => (c.loadValues files field).toOption.join

end Grammar

namespace Prefill

/-- Loads a sheet of expected values for a field; tells how many they are. -/
def load (files : Files) (p : Prefill) (field path : String) :
    Except ReadFailure (Prefill × Nat) :=
  (files.read path).map (p.addSheet field)

def ofContest (files : Files) (c : Contest) : Prefill :=
  c.prefillFiles.entries.foldl
    (fun p e =>
      match p.load files e.1 e.2 with
      | .error _ => p
      | .ok r => r.1)
    empty

end Prefill

end ContestExchange
