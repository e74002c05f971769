import ContestExchange.Pattern.Shape
import Std.Data.HashMap

/-!
# The room that automata take

A pattern is searched for by automata over the bytes of a text, one that reads
forward and one that reads backward, and a pattern is refused when either of them
takes more than `roomLimit` bytes.  No automaton is built here: a `Tally` counts the
states and what their tables hold, and a `Fragment` says how a part of an automaton
adds to the tally.

A state takes `stateRoom` bytes.  A state that leads on by several byte ranges has a
table with `rangeRoom` bytes for each, and a branching state has one with
`branchRoom` bytes for each branch.  To link a fragment to what follows is to tell
its last state where to go on; if that is a branching state, this is one more branch.

Sets of characters outside ASCII are where the two directions differ.  Forward, the
states for the tails of characters are shared if they lead on alike; backward, the
states for their beginnings are.  What can be shared is looked up in a table with a
fixed number of slots, and a state is forgotten when another one takes its slot; so
the states for a set depend on the numbers that they get, which are the positions in
the automaton.
-/

namespace ContestExchange.Pattern

/-- The bytes that the automaton of a pattern may take. -/
def roomLimit : Nat := 10485760

def stateRoom : Nat := 32

/-- The bytes of a byte range in the table of a state. -/
def rangeRoom : Nat := 8

/-- The bytes of a branch in the table of a state. -/
def branchRoom : Nat := 4

/-- The way in which an automaton reads a text. -/
inductive Direction where
  | forward
  | backward
deriving DecidableEq

/-- How large the part of an automaton is that stands already. -/
structure Tally where
  states : Nat
  /-- The bytes of their tables. -/
  tables : Nat

namespace Tally

def zero : Tally :=
  ⟨0, 0⟩

def room (t : Tally) : Nat :=
  stateRoom * t.states + t.tables

/-- The tally, unless it is over the limit. -/
def check (t : Tally) : Option Tally :=
  if t.room ≤ roomLimit then some t else none

/-- The tally after more states and more bytes of tables. -/
def add (states tables : Nat) (t : Tally) : Option Tally :=
  check ⟨t.states + states, t.tables + tables⟩

end Tally

/-- A part of an automaton. -/
structure Fragment where
  /-- The tally after the part has been added, unless that is over the limit. -/
  build : Tally → Option Tally
  endsBranching : Bool

namespace Fragment

def plain (states : Nat) : Fragment :=
  ⟨Tally.add states 0, false⟩

/-- Adds the part and links it to what follows. -/
def buildLinked (f : Fragment) (t : Tally) : Option Tally :=
  (f.build t).bind (Tally.add 0 (if f.endsBranching then branchRoom else 0))

def andThen (f g : Fragment) : Fragment :=
  ⟨fun t => (f.buildLinked t).bind g.build, g.endsBranching⟩

/-- `n` steps one after the other. -/
def buildTimes (build : Tally → Option Tally) : Nat → Tally → Option Tally
  | 0, t => some t
  | n + 1, t =>
    match build t with
    | none => none
    | some u => buildTimes build n u

def exactly (f : Fragment) : Nat → Fragment
  | 0 => plain 1
  | n + 1 => ⟨fun t => (buildTimes f.buildLinked n t).bind f.build, f.endsBranching⟩

/-- A choice between parts: a state that branches to each, and one that each leads
to. -/
def choice : List Fragment → Fragment
  | [] => plain 1
  | [f] => f
  | f :: g :: r =>
    let two := fun t => ((f.buildLinked t).bind g.buildLinked).bind (Tally.add 2 (2 * branchRoom))
    let more := fun t (h : Fragment) => (h.buildLinked t).bind (Tally.add 0 branchRoom)
    ⟨fun t => (two t).bind fun u => r.foldlM more u, false⟩

def optional (f : Fragment) : Fragment :=
  ⟨fun t => ((Tally.add 1 (2 * branchRoom) t).bind f.buildLinked).bind (Tally.add 1 0), false⟩

/-- A part any number of times; `isFilled` tells whether it matches no empty text.  A
part that may match an empty text is taken once or more, or left out, which takes
two branching states. -/
def star (f : Fragment) (isFilled : Bool) : Fragment :=
  if isFilled then
    ⟨fun t => ((Tally.add 1 branchRoom t).bind f.buildLinked), true⟩
  else
    ⟨fun t => (f.buildLinked t).bind (Tally.add 3 (4 * branchRoom)), false⟩

def atLeast (f : Fragment) (isFilled : Bool) : (least : Nat) → Fragment
  | 0 => f.star isFilled
  | 1 => ⟨fun t => (f.buildLinked t).bind (Tally.add 1 branchRoom), true⟩
  | n + 2 =>
    ⟨fun t => ((f.exactly (n + 1)).buildLinked t).bind fun u =>
      (f.buildLinked u).bind (Tally.add 1 branchRoom), true⟩

/-- A part `least` times and up to `more` times more. -/
def between (f : Fragment) (least more : Nat) : Fragment :=
  let once := fun t => (Tally.add 1 (2 * branchRoom) t).bind f.buildLinked
  ⟨fun t => ((f.exactly least).buildLinked t).bind fun u =>
    (Tally.add 1 0 u).bind (buildTimes once more), false⟩

def repeated (f : Fragment) (isFilled : Bool) (least : Nat) : (most : Option Nat) → Fragment
  | none => f.atLeast isFilled least
  | some most =>
    if least = 0 ∧ most = 1 then f.optional
    else if least = most then f.exactly least
    else f.between least (most - least)

/-- A part between the two states of a group. -/
def grouped (f : Fragment) : Fragment :=
  ⟨fun t => ((Tally.add 1 0 t).bind f.buildLinked).bind (Tally.add 1 0), false⟩

end Fragment

/-! ### Sets of characters -/

/-- The hash of a key without numbers; each number is joined to it and multiplied in. -/
def hashStart : UInt64 := 14695981039346656037

def hashWith (h : UInt64) (n : Nat) : UInt64 :=
  (h ^^^ n.toUInt64) * 1099511628211

/-- What a state leads on by: byte ranges, each with the number of the next state. -/
abbrev Edges :=
  List (ByteRange × Nat)

/-- The slot for a state that leads on by the given edges, one of ten thousand. -/
def edgeSlot (edges : Edges) : Nat :=
  let h := edges.foldl
    (fun h e => hashWith (hashWith (hashWith h e.1.first) e.1.last) e.2) hashStart
  (h % 10000).toNat

/-- A tally, and a table of the states that can be shared since they lead on alike:
in each slot the last state that took it, with its edges. -/
structure Sharing where
  tally : Tally
  table : Std.HashMap Nat (Edges × Nat)

namespace Sharing

/-- A new state that leads on by the given edges, which takes the given slot. -/
def newState (s : Sharing) (slot : Nat) (edges : Edges) : Nat × Sharing :=
  (s.tally.states,
    ⟨⟨s.tally.states + 1, s.tally.tables + rangeRoom * edges.length⟩,
      s.table.insert slot (edges, s.tally.states)⟩)

/-- The state that leads on by the given edges: the one in their slot, or else a new
one. -/
def edgeState (s : Sharing) (edges : Edges) : Nat × Sharing :=
  let slot := edgeSlot edges
  match s.table[slot]? with
  | some (e, n) => if e = edges then (n, s) else s.newState slot edges
  | none => s.newState slot edges

end Sharing

/-- Sequences that begin with equal byte ranges put together: each of these ranges
with the rests of its sequences. -/
def gather (l : List (List ByteRange)) : List (ByteRange × List (List ByteRange)) :=
  (l.splitBy fun a b => a.head? == b.head?).filterMap fun g =>
    match g with
    | (r :: _) :: _ => some (r, g.map List.tail)
    | _ => none

/-- The state from which the given sequences, of up to `depth` ranges, lead to the
state `target`. -/
def tailState (target : Nat) : (depth : Nat) → List (List ByteRange) → Sharing → Nat × Sharing
  | 0, _, s => (target, s)
  | depth + 1, l, s =>
    if l.all List.isEmpty then (target, s)
    else
      let r := (gather l).foldl
        (fun (acc : Edges × Sharing) g =>
          let next := tailState target depth g.2 acc.2
          (acc.1 ++ [(g.1, next.1)], next.2))
        ([], s)
      r.2.edgeState r.1

def buildForward (l : List (List ByteRange)) (t : Tally) : Option Tally :=
  (tailState t.states 4 l ⟨⟨t.states + 1, t.tables⟩, ∅⟩).2.tally.check

/-- The number of slots for states that are reached alike. -/
def originSlots : Nat := 1000

/-- The slot for the state that is reached from the state `origin` by a byte range. -/
def originSlot (origin : Nat) (r : ByteRange) : Fin originSlots :=
  let h := hashWith (hashWith (hashWith hashStart origin) r.first) r.last
  ⟨(h % 1000).toNat, by
    rw [UInt64.toNat_mod]
    exact Nat.mod_lt _ (by decide)⟩

def originKey (origin : Nat) (r : ByteRange) : Nat :=
  (origin * 0x100 + r.first) * 0x100 + r.last

/-- A byte is less than 0x100, so that keys are equal only for equal states and equal
byte ranges. -/
theorem originKey_inj {m n : Nat} {r s : ByteRange} (hr : r.first < 0x100 ∧ r.last < 0x100)
    (hs : s.first < 0x100 ∧ s.last < 0x100) :
    originKey m r = originKey n s ↔ m = n ∧ r = s := by
  cases r
  cases s
  simp only [originKey, ByteRange.mk.injEq] at *
  omega

/-- The number of states, and a table of those that can be shared since they are
reached alike: in each slot the last state that took it, with its key. -/
structure Origins where
  states : Nat
  table : Vector (Option (Nat × Nat)) originSlots

namespace Origins

def newState (o : Origins) (slot : Fin originSlots) (key : Nat) : Nat × Origins :=
  (o.states, ⟨o.states + 1, o.table.set slot (some (key, o.states))⟩)

/-- The state that is reached from the state `origin` by a byte range: the one in its
slot, or else a new one. -/
def originState (o : Origins) (origin : Nat) (r : ByteRange) : Nat × Origins :=
  let slot := originSlot origin r
  let key := originKey origin r
  match o.table[slot] with
  | some (k, n) => if k = key then (n, o) else o.newState slot key
  | none => o.newState slot key

/-- Adds the states that are reached from the state `origin` by a sequence. -/
def addSequence (origin : Nat) : List ByteRange → Origins → Origins
  | [], o => o
  | r :: l, o =>
    let next := o.originState origin r
    addSequence next.1 l next.2

end Origins

/-- Adds the states that read the given sequences backward: a branching state with a
branch for each. -/
def buildBackward (l : List (List ByteRange)) (t : Tally) : Option Tally :=
  let last := t.states + 1
  let o := l.foldl (fun o ranges => o.addSequence last ranges)
    (Origins.mk (t.states + 2) (Vector.replicate originSlots none))
  (Tally.mk o.states t.tables).add 0 (branchRoom * l.length)

/-- One character of a set.  For a set of ASCII one state with a table is enough. -/
def Fragment.set (d : Direction) (bounds : List Nat) : Fragment :=
  if bounds.all (· ≤ 0x80) then
    ⟨Tally.add 2 (rangeRoom * (intervals bounds).length), false⟩
  else
    let l := setSequences bounds
    ⟨match d with
      | .forward => buildForward l
      | .backward => buildBackward l, false⟩

/-! ### Choices between words -/

/-- The words of a choice that go on at the same place, cut where one of them ends:
an end parts the words before it from those behind.  Of ends that stand before all
words only the first counts. -/
def wordChunks (words : List (List Nat)) : List (List (List Nat)) :=
  let split := fun (l : List (List Nat)) =>
    l.foldr (fun w acc =>
      match w, acc with
      | [], acc => [] :: acc
      | w, c :: cs => (w :: c) :: cs
      | w, [] => [[w]]) [[]]
  match words.dropWhile List.isEmpty with
  | [] => [[]]
  | l => if words.length = l.length then split l else [] :: split l

def firstBytes (words : List (List Nat)) : List Nat :=
  (words.filterMap List.head?).eraseDups

def restsAfter (b : Nat) (words : List (List Nat)) : List (List Nat) :=
  words.filterMap fun
    | [] => none
    | c :: r => if c = b then some r else none

/-- Adds the states for a place where some words go on: a branching state, and for
each chunk of the words a state with the bytes that it goes on by. -/
def addPlace (t : Tally) (words : List (List Nat)) : Tally :=
  let chunks := wordChunks words
  let filled := (chunks.filter fun c => !c.isEmpty).map fun c => (firstBytes c).length
  if filled.isEmpty then t
  else
    let ranges := (filled.filter (2 ≤ ·)).foldl (· + ·) 0
    ⟨t.states + 1 + filled.length,
      t.tables + branchRoom * (filled.length + (chunks.length - 1)) + rangeRoom * ranges⟩

/-- The places behind a place, one for each byte that a chunk goes on by. -/
def nextPlaces (words : List (List Nat)) : List (List (List Nat)) :=
  (wordChunks words).flatMap fun c => (firstBytes c).map fun b => restsAfter b c

/-- Adds the states for the given places and for those up to `depth` bytes behind. -/
def addPlaces : (depth : Nat) → List (List (List Nat)) → Tally → Tally
  | 0, places, t => places.foldl addPlace t
  | depth + 1, places, t =>
    addPlaces depth (places.flatMap nextPlaces) (places.foldl addPlace t)

def Fragment.words (words : List (List Nat)) : Fragment :=
  let depth := (words.map List.length).foldl max 0
  let size := addPlaces depth [words] Tally.zero
  ⟨Tally.add (size.states + 1) size.tables, false⟩

/-! ### Shapes -/

namespace Shape

/-- The bytes of literal text, in the order in which they are read. -/
def bytes (d : Direction) : Shape → List Nat
  | literal text =>
    let l := text.flatMap encode
    match d with
    | .forward => l
    | .backward => l.reverse
  | _ => []

/-- The part of an automaton for a shape, given those for its branches.  A choice
between words is read letter by letter, any other one branch by branch. -/
def fragmentOf (d : Direction) (s : Shape) (parts : List Fragment) : Fragment :=
  if 2 ≤ parts.length ∧ s.branches.all isLiteral then .words (s.branches.map (bytes d))
  else .choice parts

def fragments (d : Direction) : Shape → List Fragment
  | empty => [.plain 1]
  | literal text => [.plain (text.flatMap encode).length]
  | set bounds => [.set d bounds]
  | anchor _ => [.plain 1]
  | times s least most _ =>
    let isFilled := s.least?.any (· != 0)
    [(fragmentOf d s (fragments d s)).repeated isFilled least most]
  | group _ s =>
    let f := fragmentOf d s (fragments d s)
    match d with
    | .forward => [f.grouped]
    | .backward => [f]
  | seq s t =>
    let f := fragmentOf d s (fragments d s)
    let g := fragmentOf d t (fragments d t)
    match d with
    | .forward => [f.andThen g]
    | .backward => [g.andThen f]
  | alt s t => fragmentOf d s (fragments d s) :: fragments d t

def fragment (d : Direction) (s : Shape) : Fragment :=
  fragmentOf d s (fragments d s)

/-- What stands before an automaton: a state that starts it or, if a match may start
anywhere, a loop over any bytes. -/
def start (anchored : Bool) : Fragment :=
  if anchored then .plain 1
  else ⟨Tally.add 3 (rangeRoom + branchRoom), true⟩

/-- The size of the automaton for a shape, unless that is over the limit.  The whole
match is a group, too. -/
def automaton? (d : Direction) (s : Shape) : Option Tally :=
  let f := s.fragment d
  let whole := match d with
    | .forward => (start s.startsText).andThen f.grouped
    | .backward => (start s.endsText).andThen f
  (whole.buildLinked Tally.zero).bind (Tally.add 1 0)

/-- Whether neither automaton is over the limit. -/
def fits (s : Shape) : Bool :=
  (s.automaton? .backward).isSome && (s.automaton? .forward).isSome

end Shape

def fits (p : Pattern) : Bool :=
  (Shape.ofPattern p).fits

end ContestExchange.Pattern
