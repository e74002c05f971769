import ContestExchange.Pattern.CharSet

/-!
# Patterns

The patterns that exchange fields are described by, and when a text matches
one.  `Pattern.ends` follows a pattern through a text: from a list of positions
where it may start to the list of positions where it may end.  Repetition is a
closure on such lists, and since a text has only `text.size + 1` positions, no
more rounds than that can add one or tell two lists apart.  A round starts from
the positions that the round before it found first, less those that the very first
round started from, because whatever the others lead to has been found already.

A pattern is looked for anywhere in a text (`Pattern.occursIn`); a pattern that
has to span the text says so by its anchors.
-/

namespace ContestExchange

namespace Pattern

/-- Conditions on a position in a text. -/
inductive Anchor where
  | textStart
  | textEnd
  /-- A line starts here; with `crlf`, a carriage return ends a line too. -/
  | lineStart (crlf : Bool)
  /-- A line ends here; with `crlf`, a carriage return ends a line too. -/
  | lineEnd (crlf : Bool)
  /-- Exactly one neighbour is a word character. -/
  | wordEdge (ascii : Bool)
  /-- Both neighbours are word characters, or neither is. -/
  | noWordEdge (ascii : Bool)
  | wordStart (ascii : Bool)
  | wordEnd (ascii : Bool)
  /-- No word character stands before. -/
  | wordStartHalf (ascii : Bool)
  | wordEndHalf (ascii : Bool)
deriving DecidableEq

/-- Whether `c` is there and is a word character. -/
def inWord (ascii : Bool) (c : Option Char) : Bool :=
  c.any fun d => if ascii then CharSet.asciiWord.contains d else isWordChar d

/-- Whether the condition holds between two neighbours; a missing one stands
for an end of the text. -/
def Anchor.holds (before after : Option Char) : Anchor → Bool
  | textStart => before.isNone
  | textEnd => after.isNone
  | lineStart false => before.isNone || before == some '\n'
  | lineStart true =>
    before.isNone || before == some '\n' || (before == some '\r' && after != some '\n')
  | lineEnd false => after.isNone || after == some '\n'
  | lineEnd true =>
    after.isNone || after == some '\r' || (after == some '\n' && before != some '\r')
  | wordEdge ascii => inWord ascii before != inWord ascii after
  | noWordEdge ascii => inWord ascii before == inWord ascii after
  | wordStart ascii => !inWord ascii before && inWord ascii after
  | wordEnd ascii => inWord ascii before && !inWord ascii after
  | wordStartHalf ascii => !inWord ascii before
  | wordEndHalf ascii => !inWord ascii after

end Pattern

/-- Patterns over characters. -/
inductive Pattern where
  | empty
  | chars (s : Pattern.CharSet)
  /-- The empty text, where a condition holds. -/
  | anchor (a : Pattern.Anchor)
  | seq (p q : Pattern)
  | alt (p q : Pattern)
  /-- A pattern at least `least` times in a row, and no more than `most` times;
  whether it is greedy does not matter for whether it matches. -/
  | times (p : Pattern) (least : Nat) (most : Option Nat) (greedy : Bool)
  /-- A pattern in parentheses; a group that keeps what it matches has a number. -/
  | group (number : Option Nat) (p : Pattern)

namespace Pattern

def neighbours (text : Array Char) (i : Nat) : Option Char × Option Char :=
  (if i = 0 then none else text[i - 1]?, text[i]?)

/-- The members of `xs`, and those of `ys` that are not among them. -/
def join (xs ys : List Nat) : List Nat :=
  xs ++ ys.filter fun y => !xs.contains y

/-- `n` rounds of `f`.  When a round changes nothing, no later one does, and the rest
need not be gone through. -/
def rounds (f : List Nat → List Nat) : Nat → List Nat → List Nat
  | 0, is => is
  | n + 1, is =>
    let next := f is
    if next = is then is else rounds f n next

theorem rounds_fixed {f : List Nat → List Nat} {is : List Nat} (h : f is = is) (n : Nat) :
    rounds f n is = is := by
  cases n with
  | zero => rfl
  | succ n => exact if_pos h

theorem rounds_succ (f : List Nat → List Nat) (n : Nat) (is : List Nat) :
    rounds f (n + 1) is = rounds f n (f is) := by
  rw [rounds]
  split
  · next h => rw [h, rounds_fixed h]
  · rfl

/-- What was `found` before, and where up to `n` rounds of `f` lead from `fresh`.
Whatever a round from `known` leads to has been found, or is going to be. -/
def closure (f : List Nat → List Nat) (known : List Nat) :
    (n : Nat) → (found fresh : List Nat) → List Nat
  | 0, found, _ => found
  | n + 1, found, fresh =>
    let new := (f fresh).filter fun i => !found.contains i
    match new.filter fun i => !known.contains i with
    | [] => new ++ found
    | i :: is => closure f known n (new ++ found) (i :: is)

/-- The positions where the pattern may end when it starts at one of `starts`. -/
def ends (text : Array Char) : Pattern → List Nat → List Nat
  | empty, starts => starts
  | chars s, starts =>
    (starts.filter fun i => (text[i]?).any s.contains).map (· + 1)
  | anchor a, starts =>
    starts.filter fun i => a.holds (neighbours text i).1 (neighbours text i).2
  | seq p q, starts => q.ends text (p.ends text starts)
  | alt p q, starts => join (p.ends text starts) (q.ends text starts)
  | times p least most _, starts =>
    let bound := text.size + 1
    match least, most with
    | 0, none => closure (p.ends text) starts bound starts starts
    | n + 1, none =>
      let before := rounds (p.ends text) (min n bound) starts
      closure (p.ends text) before (bound + 1) [] before
    | n, some m =>
      let first := rounds (p.ends text) (min n bound) starts
      closure (p.ends text) first (min (m - n) bound) first first
  | group _ p, starts => p.ends text starts

/-- Whether the pattern matches some stretch of the text. -/
def occursIn (p : Pattern) (text : String) : Bool :=
  let cs := text.toList.toArray
  !(p.ends cs (List.range (cs.size + 1))).isEmpty

def seqs (l : List Pattern) : Pattern :=
  match l with
  | [] => empty
  | [p] => p
  | p :: q :: r => seq p (seqs (q :: r))

def alts (first : Pattern) : List Pattern → Pattern
  | [] => first
  | p :: r => alt first (alts p r)

end Pattern

end ContestExchange
