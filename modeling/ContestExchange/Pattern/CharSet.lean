import ContestExchange.Text.Blank
import ContestExchange.Pattern.Bounds
import ContestExchange.Pattern.CaseVariants

/-!
# Sets of characters in patterns

What a bracket, an escape such as `\d` or a dot stands for.  A set is kept as
it was built, and `CharSet.contains` reads it off; in particular a set closed
under case keeps the set it came from, and a character is in it when one of its
case variants is in that set.  `CharSet.bounds` works the same set out as a list of
bounds.
-/

namespace ContestExchange.Pattern

open Text (isBlank)

/-- Sets of characters, as patterns build them. -/
inductive CharSet where
  | nothing
  /-- The characters from `first` to `last`, both included. -/
  | range (first last : Char)
  /-- The characters within the given bounds. -/
  | within (bounds : List Nat)
  | digit
  | blank
  | word
  | union (s t : CharSet)
  | inter (s t : CharSet)
  | compl (s : CharSet)
  /-- The characters that differ from one in the set by case alone; with
  `ascii`, only the letters of ASCII have a case. -/
  | anyCase (ascii : Bool) (s : CharSet)

/-- The letters of ASCII that differ from `c` in case alone, and `c`. -/
def asciiVariants (c : Char) : List Char :=
  [c, c.toUpper, c.toLower]

namespace CharSet

def contains : CharSet → Char → Bool
  | nothing, _ => false
  | range first last, c => first ≤ c && c ≤ last
  | within bounds, c => withinBounds bounds c.toNat
  | digit, c => isDecimalDigit c
  | blank, c => isBlank c
  | word, c => isWordChar c
  | union s t, c => s.contains c || t.contains c
  | inter s t, c => s.contains c && t.contains c
  | compl s, c => !s.contains c
  | anyCase true s, c => (asciiVariants c).any s.contains
  | anyCase false s, c => ((caseVariants c.toNat).map Char.ofNat).any s.contains

def bounds : CharSet → List Nat
  | nothing => []
  | range first last => if first ≤ last then [first.toNat, last.toNat + 1] else []
  | within bounds => bounds
  | digit => digitBounds
  | blank => blankBounds
  | word => wordBounds
  | union s t => unionBounds s.bounds t.bounds
  | inter s t => interBounds s.bounds t.bounds
  | compl s => complBounds s.bounds
  | anyCase true s => closeBounds asciiFoldPairs s.bounds
  | anyCase false s => closeBounds foldPairs s.bounds

def single (c : Char) : CharSet :=
  range c c

def unions (l : List CharSet) : CharSet :=
  l.foldr union nothing

def ranges (l : List (Char × Char)) : CharSet :=
  unions (l.map fun r => range r.1 r.2)

def diff (s t : CharSet) : CharSet :=
  inter s (compl t)

def symmDiff (s t : CharSet) : CharSet :=
  union (diff s t) (diff t s)

def asciiDigit : CharSet :=
  range '0' '9'

def asciiBlank : CharSet :=
  ranges [('\t', '\r'), (' ', ' ')]

/-- The letters and digits of ASCII and the underscore. -/
def asciiWord : CharSet :=
  ranges [('0', '9'), ('A', 'Z'), ('a', 'z'), ('_', '_')]

/-- The sets that a bracket can name as `[:name:]`. -/
def named? : String → Option CharSet
  | "alnum" => some (ranges [('0', '9'), ('A', 'Z'), ('a', 'z')])
  | "alpha" => some (ranges [('A', 'Z'), ('a', 'z')])
  | "ascii" => some (range '\x00' '\x7f')
  | "blank" => some (ranges [('\t', '\t'), (' ', ' ')])
  | "cntrl" => some (ranges [('\x00', '\x1f'), ('\x7f', '\x7f')])
  | "digit" => some asciiDigit
  | "graph" => some (range '!' '~')
  | "lower" => some (range 'a' 'z')
  | "print" => some (range ' ' '~')
  | "punct" => some (ranges [('!', '/'), (':', '@'), ('[', '`'), ('{', '~')])
  | "space" => some asciiBlank
  | "upper" => some (range 'A' 'Z')
  | "word" => some asciiWord
  | "xdigit" => some (ranges [('0', '9'), ('A', 'F'), ('a', 'f')])
  | _ => none

end CharSet

end ContestExchange.Pattern
