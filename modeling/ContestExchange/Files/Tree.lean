import ContestExchange.Dictionary
import ContestExchange.Files.Path

/-!
# Files

What the library reads files from is a function from paths to texts (`Files`),
which either gives the text or says why it cannot.  A `FileTree` is such a
function in the small: files and directories below one root, in which a path is
followed component by component.
-/

namespace ContestExchange

/-- Why a file cannot be read. -/
inductive FileError where
  | missing
  /-- A component that others follow is no directory. -/
  | notDirectory
  | isDirectory
  | notText
  /-- The path, or one of its components, is longer than names can be. -/
  | nameTooLong
  /-- The path holds the character NUL, which ends a path. -/
  | nulInPath
deriving DecidableEq, Repr

namespace FileError

/-- The error in the words of the operating system. -/
def message : FileError → String
  | missing => "No such file or directory (os error 2)"
  | notDirectory => "Not a directory (os error 20)"
  | isDirectory => "Is a directory (os error 21)"
  | notText => "stream did not contain valid UTF-8"
  | nameTooLong => "File name too long (os error 36)"
  | nulInPath => "file name contained an unexpected NUL byte"

end FileError

structure ReadFailure where
  path : String
  cause : FileError
deriving DecidableEq

namespace ReadFailure

/-- The failure as operators see it. -/
def message (f : ReadFailure) : String :=
  let cause := f.cause.message
  s!"failed to read {f.path}: {cause}"

end ReadFailure

/-- The text at each path. -/
abbrev Files :=
  String → Except FileError String

namespace Files

/-- The text at a path, or what went wrong there. -/
def read (files : Files) (path : String) : Except ReadFailure String :=
  (files path).mapError (⟨path, ·⟩)

end Files

/-- What stands at a place of a tree. -/
inductive FileNode where
  | directory
  | file (bytes : List UInt8)

/-- A place, as seen from the root of a tree. -/
inductive Place where
  /-- Below the root, the last component first. -/
  | inside (components : List String)
  /-- Above the root, where all directories are. -/
  | above
  /-- Elsewhere, where nothing is. -/
  | elsewhere

namespace Place

def follow (place : Place) (component : String) : Place :=
  if component = "" || component = "." then place
  else
    match place with
    | inside l =>
      if component = ".." then
        match l with
        | [] => above
        | _ :: r => inside r
      else inside (component :: l)
    | above => if component = ".." then above else elsewhere
    | elsewhere => elsewhere

end Place

/-- Files and directories below one root. -/
structure FileTree where
  /-- How paths into the tree begin. -/
  root : String
  /-- What stands at each place, the last component first. -/
  nodes : Dictionary (List String) FileNode

namespace FileTree

def ofRoot (root : String) : FileTree :=
  ⟨root, Dictionary.empty.put [] .directory⟩

/-- Makes a directory and all directories above it. -/
def addDirectory (t : FileTree) : List String → FileTree
  | [] => t
  | c :: r =>
    let t' := t.addDirectory r
    { t' with nodes := t'.nodes.putNew (c :: r) .directory }

/-- Writes a file, and makes the directories above it. -/
def addFile (t : FileTree) (place : List String) (bytes : List UInt8) : FileTree :=
  let t' := t.addDirectory place.tail
  { t' with nodes := t'.nodes.put place (.file bytes) }

def node? (t : FileTree) : Place → Option FileNode
  | .inside l => t.nodes.get? l
  | .above => some .directory
  | .elsewhere => none

/-- The bytes that a component can have at most. -/
def longestComponent : Nat := 255

/-- The bytes that a path can have at most. -/
def longestPath : Nat := 4095

/-- The place at the end of a list of components; all but the last lead through
directories. -/
def walk (t : FileTree) (place : Place) : List String → Except FileError Place
  | [] => .ok place
  | c :: r =>
    match t.node? place with
    | none => .error .missing
    | some (.file _) => .error .notDirectory
    | some .directory =>
      if longestComponent < c.utf8ByteSize then .error .nameTooLong
      else walk t (place.follow c) r

/-- Where a path begins, and its components from there. -/
def start (t : FileTree) (path : String) : Place × List String :=
  if path = t.root then (.inside [], [])
  else
    match (t.root ++ "/").toList.isPrefixOf path.toList with
    | true => (.inside [], Path.components (String.ofList (path.toList.drop (t.root.length + 1))))
    | false => (.above, Path.components path)

/-- The text of a file.  What is wrong with the path as a text is told before
anything is looked up. -/
def read (t : FileTree) : Files := fun path =>
  if path.toList.contains '\x00' then .error .nulInPath
  else if longestPath < path.utf8ByteSize then .error .nameTooLong
  else
    let s := t.start path
    match t.walk s.1 s.2 with
    | .error e => .error e
    | .ok place =>
      match t.node? place with
      | none => .error .missing
      | some .directory => .error .isDirectory
      | some (.file bytes) =>
        match String.fromUTF8? ⟨bytes.toArray⟩ with
        | none => .error .notText
        | some s => .ok s

end FileTree

end ContestExchange
