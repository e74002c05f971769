import ContestExchange.Pattern.Basic
import ContestExchange.Pattern.Encoding

/-!
# Shapes of patterns

What an automaton is built for is not a pattern as it was written but its `Shape`:
sequences and choices are flat, literal text is joined, a choice between single
characters or sets is one set, what all branches of a choice begin with stands
before the choice, and a repetition that repeats nothing, or nothing but the empty
text, is gone.

A sequence is a chain of `seq`, whose parts are no sequences and no empty shapes
themselves, and a choice a chain of `alt`, whose branches are no choices.  `concat`
and `choose` keep it so, and `Shape.ofPattern` makes all shapes by them.
-/

namespace ContestExchange.Pattern

/-- What is left of a pattern after it has been simplified. -/
inductive Shape where
  | empty
  /-- The text of the given code points. -/
  | literal (text : List Nat)
  /-- One character of the set with the given bounds. -/
  | set (bounds : List Nat)
  | anchor (a : Anchor)
  | times (s : Shape) (least : Nat) (most : Option Nat) (greedy : Bool)
  | group (number : Nat) (s : Shape)
  | seq (s t : Shape)
  | alt (s t : Shape)
deriving DecidableEq

namespace Shape

def parts : Shape → List Shape
  | empty => []
  | seq s t => s :: t.parts
  | s => [s]

def branches : Shape → List Shape
  | alt s t => s :: t.branches
  | s => [s]

def ofParts : List Shape → Shape
  | [] => empty
  | [s] => s
  | s :: r => seq s (ofParts r)

/-- The choice between the given branches; without any, what matches nothing. -/
def ofBranches : List Shape → Shape
  | [] => set []
  | [s] => s
  | s :: r => alt s (ofBranches r)

/-- The set with the given bounds; a set of one character is that character. -/
def ofBounds : List Nat → Shape
  | [lo, hi] => if hi = lo + 1 then literal [lo] else set [lo, hi]
  | bounds => set bounds

/-- A part before others, joined with the first of them if both are literal. -/
def attach (s : Shape) (r : List Shape) : List Shape :=
  match s, r with
  | literal a, literal b :: r => literal (a ++ b) :: r
  | s, r => s :: r

def concat (l : List Shape) : Shape :=
  ofParts ((l.flatMap parts).foldr attach [])

/-! ### How long a match is -/

/-- The bytes that a match has at least, unless there is none. -/
def least? : Shape → Option Nat
  | empty => some 0
  | literal text => some (text.flatMap encode).length
  | set bounds => bounds.head?.map width
  | anchor _ => some 0
  | times s least _ _ => s.least?.map (· * least)
  | group _ s => s.least?
  | seq s t => s.least?.bind fun m => t.least?.map (m + ·)
  | alt s t => s.least?.bind fun m => t.least?.map (min m ·)

/-- Whether it is plain that each match is empty. -/
def isWeightless : Shape → Bool
  | empty => true
  | literal _ => false
  | set _ => false
  | anchor _ => true
  | times s _ _ _ => s.isWeightless
  | group _ s => s.isWeightless
  | seq s t => s.isWeightless && t.isWeightless
  | alt s t => s.isWeightless && t.isWeightless

/-- Whether it is plain that each match starts where the text starts. -/
def startsText : Shape → Bool
  | anchor a => a == .textStart
  | times s least _ _ => least != 0 && s.startsText
  | group _ s => s.startsText
  | seq s t => s.startsText || (s.isWeightless && t.startsText)
  | alt s t => s.startsText && t.startsText
  | _ => false

/-- Whether it is plain that each match ends where the text ends. -/
def endsText : Shape → Bool
  | anchor a => a == .textEnd
  | times s least _ _ => least != 0 && s.endsText
  | group _ s => s.endsText
  | seq s t => t.endsText || (t.isWeightless && s.endsText)
  | alt s t => s.endsText && t.endsText
  | _ => false

/-! ### Repetitions and choices -/

/-- A shape several times in a row.  More than one empty text is one, and a shape
that is repeated no times or once is not repeated. -/
def repeated (s : Shape) (least : Nat) (most : Option Nat) (greedy : Bool) : Shape :=
  let least := if s.isWeightless then min least 1 else least
  let most := if s.isWeightless then some (min (most.getD 1) 1) else most
  match least, most with
  | 0, some 0 => empty
  | 1, some 1 => s
  | _, _ => times s least most greedy

def single? : Shape → Option Nat
  | literal [c] => some c
  | _ => none

def bounds? : Shape → Option (List Nat)
  | set bounds => some bounds
  | _ => none

def isLiteral : Shape → Bool
  | literal _ => true
  | _ => false

def isSeq : Shape → Bool
  | seq _ _ => true
  | _ => false

/-- What two lists begin with. -/
def sharedStart : List Shape → List Shape → List Shape
  | s :: r, t :: u => if s = t then s :: sharedStart r u else []
  | _, _ => []

/-- The parts that all branches begin with, if all are sequences. -/
def sharedParts (branches : List Shape) : List Shape :=
  match branches with
  | [] => []
  | s :: r =>
    if branches.all isSeq then (r.map parts).foldl sharedStart s.parts else []

def size : Shape → Nat
  | times s _ _ _ => s.size + 1
  | group _ s => s.size + 1
  | seq s t => s.size + t.size + 1
  | alt s t => s.size + t.size + 1
  | _ => 1

/-- The choice between the given shapes, with up to `n` rounds of drawing out what
all branches begin with. -/
def chooseWithin (n : Nat) (l : List Shape) : Shape :=
  let branches := l.flatMap branches
  match branches with
  | [] => ofBranches []
  | [s] => s
  | _ =>
    match branches.mapM single?, branches.mapM bounds?, n, sharedParts branches with
    | some cs, _, _, _ => ofBounds (boundsOfMembers (cs.mergeSort (· ≤ ·)))
    | none, some sets, _, _ => ofBounds (sets.foldl unionBounds [])
    | none, none, n + 1, s :: r =>
      let rest := branches.map fun t => concat (t.parts.drop (r.length + 1))
      concat (s :: r ++ [chooseWithin n rest])
    | none, none, _, _ => ofBranches branches

/-- The choice between the given shapes.  A round of drawing out makes the branches
smaller, so their size bounds the rounds. -/
def choose : List Shape → Shape
  | [s] => s
  | l => chooseWithin (l.foldl (fun n s => n + s.size) 0) l

/-- The branches of a pattern, each as the list of its parts. -/
def branchesOf : Pattern → List (List Shape)
  | .empty => [[]]
  | .chars s => [[ofBounds s.bounds]]
  | .anchor a => [[anchor a]]
  | .seq p q =>
    let first := choose ((branchesOf p).map concat)
    match branchesOf q with
    | [parts] => [first :: parts]
    | l => [[first, choose (l.map concat)]]
  | .alt p q => branchesOf p ++ branchesOf q
  | .times p least most greedy =>
    [[repeated (choose ((branchesOf p).map concat)) least most greedy]]
  | .group none p => [[choose ((branchesOf p).map concat)]]
  | .group (some n) p => [[group n (choose ((branchesOf p).map concat))]]

/-- The shape of a pattern. -/
def ofPattern (p : Pattern) : Shape :=
  choose ((branchesOf p).map concat)

end Shape

end ContestExchange.Pattern
