/-!
# Characters as bytes

The automaton of a pattern reads the bytes of UTF-8, so a set of characters has to
be written in bytes.  `encode` writes one code point.  `sequences` writes all from
one code point to another, as sequences of byte ranges: a sequence stands for the
code points whose bytes lie in its ranges, each in the range at its place.  A range
of code points is one such sequence when its ends have equally many bytes and, from
the first byte in which they differ, run from the least continuation to the
greatest; any other range is cut (`cut?`).
-/

namespace ContestExchange.Pattern

/-- How many bytes a code point has. -/
def width (n : Nat) : Nat :=
  if n < 0x80 then 1 else if n < 0x800 then 2 else if n < 0x10000 then 3 else 4

def encode (n : Nat) : List Nat :=
  if n < 0x80 then [n]
  else if n < 0x800 then [0xC0 + n / 0x40, 0x80 + n % 0x40]
  else if n < 0x10000 then [0xE0 + n / 0x1000, 0x80 + n / 0x40 % 0x40, 0x80 + n % 0x40]
  else
    [0xF0 + n / 0x40000, 0x80 + n / 0x1000 % 0x40, 0x80 + n / 0x40 % 0x40, 0x80 + n % 0x40]

theorem length_encode (n : Nat) : (encode n).length = width n := by
  rw [encode, width]
  split
  · rfl
  · split
    · rfl
    · split <;> rfl

/-- The bytes from `first` to `last`. -/
structure ByteRange where
  first : Nat
  last : Nat
deriving DecidableEq

/-- Where to cut the code points from `lo` to `hi` at a change of width: behind the
first of the given code points that lies among them. -/
def widthCut? (lo hi : Nat) : Option (Nat × Nat) :=
  ([0x7F, 0x7FF, 0xFFFF].find? fun m => lo ≤ m && m < hi).map fun m => (m, m + 1)

/-- Where to cut the code points from `lo` to `hi`, so that they begin or end with a
full block: a block is what equal bytes but the last one, two or three hold. -/
def blockCut? (lo hi : Nat) : Option (Nat × Nat) :=
  [0x40, 0x1000, 0x40000].findSome? fun block =>
    if lo / block = hi / block then none
    else if lo % block ≠ 0 then
      let next := (lo / block + 1) * block
      some (next - 1, next)
    else if hi % block ≠ block - 1 then
      let start := hi / block * block
      some (start - 1, start)
    else none

/-- Where to cut the code points from `lo` to `hi`, if they are no single sequence:
the last one before the cut and the first one behind.  The surrogates, which are no
characters, are cut out. -/
def cut? (lo hi : Nat) : Option (Nat × Nat) :=
  if lo < 0xE000 && 0xD7FF < hi then some (0xD7FF, 0xE000)
  else
    (widthCut? lo hi).or (if hi < 0x80 then none else blockCut? lo hi)

/-- The characters from `lo` to `hi` in ascending order, as sequences of byte ranges. -/
def sequences (lo hi : Nat) : List (List ByteRange) :=
  if _h : lo ≤ hi then
    match cut? lo hi with
    | none => [List.zipWith ByteRange.mk (encode lo) (encode hi)]
    | some (m, n) =>
      if _hc : m < hi ∧ lo < n then sequences lo m ++ sequences n hi else []
  else []
termination_by hi + 1 - lo

/-- The intervals of a set given by its bounds, with both ends included. -/
def intervals : List Nat → List (Nat × Nat)
  | lo :: hi :: r => (lo, hi - 1) :: intervals r
  | _ => []

def setSequences (bounds : List Nat) : List (List ByteRange) :=
  (intervals bounds).flatMap fun i => sequences i.1 i.2

end ContestExchange.Pattern
