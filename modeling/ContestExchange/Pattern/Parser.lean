import ContestExchange.Pattern.Bracket

/-!
# Reading patterns

`Pattern.parse` reads a pattern text.  The reader goes through the text once and
keeps a `Level` for the group it is in and one for each group around it; a
group's flags end with the group, so the flags outside are kept with the level
that waits.

What a group is called does not matter for whether a pattern matches, so names
are not kept; but names must differ, and a repetition needs something to repeat,
which flags are not.

A pattern text may nest up to `maxDepth` levels deep: a group, a repetition, a
bracket, two or more parts in a row and two or more branches side by side each
hold their contents one level deeper.
-/

namespace ContestExchange.Pattern

/-- How deep a pattern text may nest. -/
def maxDepth : Nat := 250

/-- A pattern, and how deep the text nests that it was read from. -/
structure Nested where
  pattern : Pattern
  depth : Nat

/-- A part of a branch: a pattern, or flags that were set there. -/
inductive Part where
  | pattern (n : Nested)
  /-- Flags, which match nothing and cannot be repeated. -/
  | setting

def Part.depth : Part → Nat
  | pattern n => n.depth
  | setting => 0

/-- How deep a text nests that holds other texts side by side, given how deep
each of those nests: one level deeper if there are two or more. -/
def depthOf (depths : List Nat) : Nat :=
  let deepest := depths.foldl max 0
  if 2 ≤ depths.length then deepest + 1 else deepest

/-- What has been read of a group, or of the whole text: the branches that are
finished, and the parts of the present one, each list last first. -/
structure Level where
  branches : List Nested
  parts : List Part

namespace Level

def start : Level :=
  ⟨[], []⟩

def push (l : Level) (n : Nested) : Level :=
  { l with parts := .pattern n :: l.parts }

def branch (l : Level) : Nested :=
  ⟨seqs (l.parts.reverse.filterMap fun
    | .pattern n => some n.pattern
    | .setting => none), depthOf (l.parts.map Part.depth)⟩

def nextBranch (l : Level) : Level :=
  ⟨l.branch :: l.branches, []⟩

def value (l : Level) : Nested :=
  let bs := l.branch :: l.branches
  let p := match (bs.map Nested.pattern).reverse with
    | [] => .empty
    | p :: r => alts p r
  ⟨p, depthOf (bs.map Nested.depth)⟩

def repeatLast (l : Level) (least : Nat) (most : Option Nat) (greedy : Bool) :
    Except Error Level :=
  match l.parts with
  | .pattern n :: r =>
    .ok { l with parts := .pattern ⟨.times n.pattern least most greedy, n.depth + 1⟩ :: r }
  | _ => .error .nothingToRepeat

end Level

/-- A level that waits for a group in it to end. -/
structure Enclosing where
  level : Level
  /-- The flags to return to. -/
  flags : Flags
  number : Option Nat

/-- The state of the reader between two parts. -/
structure Reader where
  flags : Flags
  level : Level
  /-- The levels around it, innermost first. -/
  outer : List Enclosing
  names : List String
  groups : Nat

namespace Reader

def start (properties : Properties) : Reader :=
  ⟨{ properties }, .start, [], [], 0⟩

/-- The reader after one more pattern, whose text nests nothing. -/
def push (r : Reader) (p : Pattern) : Reader :=
  { r with level := r.level.push ⟨p, 0⟩ }

def pushBracket (r : Reader) (s : NestedSet) : Reader :=
  { r with level := r.level.push ⟨.chars s.set, s.depth⟩ }

def enter (r : Reader) (f : Flags) : Reader :=
  { r with flags := f, level := .start, outer := ⟨r.level, r.flags, none⟩ :: r.outer }

def enterNumbered (r : Reader) : Reader :=
  { r with
    level := .start
    outer := ⟨r.level, r.flags, some (r.groups + 1)⟩ :: r.outer
    groups := r.groups + 1 }

def enterNamed (r : Reader) (name : String) : Except Error Reader :=
  if r.names.contains name then .error .groupNameRepeated
  else .ok { r.enterNumbered with names := name :: r.names }

def leave (r : Reader) : Except Error Reader :=
  match r.outer with
  | [] => .error .groupUnopened
  | e :: es =>
    let n := r.level.value
    .ok { r with
      flags := e.flags
      level := e.level.push ⟨.group e.number n.pattern, n.depth + 1⟩
      outer := es }

/-- The reader with the last part repeated; `isMarked` tells whether a question
mark follows the repetition. -/
def repeatLast (r : Reader) (least : Nat) (most : Option Nat) (isMarked : Bool) :
    Except Error Reader :=
  match r.level.repeatLast least most (isMarked == r.flags.lazyFirst) with
  | .error e => .error e
  | .ok l => .ok { r with level := l }

def finish (r : Reader) : Except Error Pattern :=
  match r.outer with
  | [] =>
    let n := r.level.value
    if n.depth ≤ maxDepth then .ok n.pattern else .error .nestedTooDeep
  | _ => .error .groupUnclosed

def literal (r : Reader) (c : Char) : Pattern :=
  .chars (r.flags.closeCase (.single c))

/-- The pattern of the dot: every character but a line end, or every one. -/
def dot (r : Reader) : Except Error Pattern :=
  if r.flags.ascii then .error .notCharacters
  else if r.flags.dotAll then .ok (.chars (.compl .nothing))
  else if r.flags.crlf then
    .ok (.chars (.compl (.union (.single '\r') (.single '\n'))))
  else .ok (.chars (.compl (.single '\n')))

def atom (r : Reader) : Atom → Except Error Pattern
  | .char c byte =>
    if r.flags.ascii && byte && 0x80 ≤ c.toNat then .error .notCharacters
    else .ok (r.literal c)
  | .set s =>
    if r.flags.exceeds s then .error .notCharacters else .ok (.chars s)
  | .anchor a => .ok (.anchor a)

def caret (r : Reader) : Anchor :=
  if r.flags.multiLine then .lineStart r.flags.crlf else .textStart

/-- The condition that a dollar sign stands for. -/
def dollar (r : Reader) : Anchor :=
  if r.flags.multiLine then .lineEnd r.flags.crlf else .textEnd

/-! ### Groups -/

/-- Reads what follows an opening parenthesis, up to the front of the group's
text or, for flags alone, up to behind them. -/
def openGroup (r : Reader) (cs : List Char) : Except Error (Reader × List Char) :=
  match r.flags.skip cs with
  | '?' :: '=' :: _ => .error .lookAround
  | '?' :: '!' :: _ => .error .lookAround
  | '?' :: '<' :: '=' :: _ => .error .lookAround
  | '?' :: '<' :: '!' :: _ => .error .lookAround
  | '?' :: 'P' :: '<' :: rest =>
    match readGroupName rest with
    | .error e => .error e
    | .ok (name, rest) =>
      match r.enterNamed name with
      | .error e => .error e
      | .ok r => .ok (r, rest)
  | '?' :: '<' :: rest =>
    match readGroupName rest with
    | .error e => .error e
    | .ok (name, rest) =>
      match r.enterNamed name with
      | .error e => .error e
      | .ok r => .ok (r, rest)
  | '?' :: rest =>
    match readFlags r.flags [] rest with
    | .error e => .error e
    | .ok (got, rest) =>
      if got.opensGroup then .ok (r.enter got.flags, rest)
      else if got.any then
        .ok ({ r with flags := got.flags,
                      level := { r.level with parts := .setting :: r.level.parts } }, rest)
      else .error .nothingToRepeat
  | rest => .ok (r.enterNumbered, rest)

theorem length_openGroup {r s : Reader} {cs rest : List Char}
    (h : r.openGroup cs = .ok (s, rest)) : rest.length ≤ cs.length := by
  have h0 := length_skip r.flags cs
  unfold openGroup at h
  split at h
  · simp at h
  · simp at h
  · simp at h
  · simp at h
  · rename_i body he
    rw [he] at h0
    split at h
    · simp at h
    · rename_i hn
      have h1 := length_readGroupName hn
      split at h
      · simp at h
      · simp only [Except.ok.injEq, Prod.mk.injEq] at h
        simp only [List.length_cons] at h0
        obtain ⟨-, rfl⟩ := h; omega
  · rename_i body _ _ he
    rw [he] at h0
    split at h
    · simp at h
    · rename_i hn
      have h1 := length_readGroupName hn
      split at h
      · simp at h
      · simp only [Except.ok.injEq, Prod.mk.injEq] at h
        simp only [List.length_cons] at h0
        obtain ⟨-, rfl⟩ := h; omega
  · rename_i body _ _ _ _ _ _ he
    rw [he] at h0
    split at h
    · simp at h
    · rename_i hn
      have h1 := length_readFlags hn
      simp only [List.length_cons] at h0
      split at h
      · simp only [Except.ok.injEq, Prod.mk.injEq] at h
        obtain ⟨-, rfl⟩ := h; omega
      · split at h
        · simp only [Except.ok.injEq, Prod.mk.injEq] at h
          obtain ⟨-, rfl⟩ := h; omega
        · simp at h
  · simp only [Except.ok.injEq, Prod.mk.injEq] at h
    obtain ⟨-, rfl⟩ := h; exact h0

/-! ### Repetitions -/

/-- Whether a question mark marks a repetition, and the text behind it. -/
def readMark : List Char → Bool × List Char
  | '?' :: cs => (true, cs)
  | cs => (false, cs)

theorem length_readMark (cs : List Char) : (readMark cs).2.length ≤ cs.length := by
  unfold readMark
  split
  · simp
  · exact Nat.le_refl _

/-- Reads the bounds of a counted repetition from behind its brace, up to the
closing brace. -/
def readBounds (f : Flags) (cs : List Char) :
    Except Error ((Nat × Option Nat) × List Char) :=
  match f.skip cs with
  | [] => .error .countUnclosed
  | start =>
    match readCount f start with
    | .error e => .error e
    | .ok (least, ',' :: rest) =>
      match f.skip rest with
      | '}' :: rest => .ok ((least, none), rest)
      | rest =>
        match readCount f rest with
        | .error e => .error e
        | .ok (most, '}' :: rest) =>
          if least ≤ most then .ok ((least, some most), rest) else .error .countReversed
        | .ok _ => .error .countUnclosed
    | .ok (least, '}' :: rest) => .ok ((least, some least), rest)
    | .ok _ => .error .countUnclosed

theorem length_readBounds {f : Flags} {cs rest : List Char} {b : Nat × Option Nat}
    (h : readBounds f cs = .ok (b, rest)) : rest.length ≤ cs.length := by
  have h0 := length_skip f cs
  unfold readBounds at h
  split at h
  · simp at h
  · split at h
    · simp at h
    · rename_i least r hc
      have h1 := length_readCount hc
      have h2 := length_skip f r
      simp only [List.length_cons] at h1
      split at h
      · rename_i r' he
        rw [he] at h2
        simp only [Except.ok.injEq, Prod.mk.injEq] at h
        simp only [List.length_cons] at h2
        obtain ⟨-, rfl⟩ := h; omega
      · split at h
        · simp at h
        · rename_i most r' hc'
          have h3 := length_readCount hc'
          simp only [List.length_cons] at h3
          split at h
          · simp only [Except.ok.injEq, Prod.mk.injEq] at h
            obtain ⟨-, rfl⟩ := h; omega
          · simp at h
        · simp at h
    · rename_i least r hc
      have h1 := length_readCount hc
      simp only [List.length_cons] at h1
      simp only [Except.ok.injEq, Prod.mk.injEq] at h
      obtain ⟨-, rfl⟩ := h; omega
    · simp at h

/-! ### The whole text -/

/-- Reads the part that begins with the character `c`. -/
def step (r : Reader) (c : Char) (cs : List Char) : Except Error (Reader × List Char) :=
  match c with
  | '(' => r.openGroup cs
  | ')' =>
    match r.leave with
    | .error e => .error e
    | .ok r => .ok (r, cs)
  | '|' => .ok ({ r with level := r.level.nextBranch }, cs)
  | '[' =>
    match readSet r.flags cs with
    | .error e => .error e
    | .ok (s, rest) => .ok (r.pushBracket s, rest)
  | '?' =>
    match r.repeatLast 0 (some 1) (readMark cs).1 with
    | .error e => .error e
    | .ok r => .ok (r, (readMark cs).2)
  | '*' =>
    match r.repeatLast 0 none (readMark cs).1 with
    | .error e => .error e
    | .ok r => .ok (r, (readMark cs).2)
  | '+' =>
    match r.repeatLast 1 none (readMark cs).1 with
    | .error e => .error e
    | .ok r => .ok (r, (readMark cs).2)
  | '{' =>
    match readBounds r.flags cs with
    | .error e => .error e
    | .ok (b, rest) =>
      let behind := r.flags.skip rest
      match r.repeatLast b.1 b.2 (readMark behind).1 with
      | .error e => .error e
      | .ok r => .ok (r, (readMark behind).2)
  | '\\' =>
    match readEscape r.flags cs with
    | .error e => .error e
    | .ok (a, rest) =>
      match r.atom a with
      | .error e => .error e
      | .ok p => .ok (r.push p, rest)
  | '.' =>
    match r.dot with
    | .error e => .error e
    | .ok p => .ok (r.push p, cs)
  | '^' => .ok (r.push (.anchor r.caret), cs)
  | '$' => .ok (r.push (.anchor r.dollar), cs)
  | c => .ok (r.push (r.literal c), cs)

theorem length_step {r s : Reader} {c : Char} {cs rest : List Char}
    (h : r.step c cs = .ok (s, rest)) : rest.length ≤ cs.length := by
  have hd := length_readMark cs
  unfold step at h
  split at h
  case h_1 => exact length_openGroup h
  case h_4 =>
    split at h
    · simp at h
    · rename_i hr
      simp only [Except.ok.injEq, Prod.mk.injEq] at h
      exact h.2 ▸ length_readSet hr
  case h_8 =>
    split at h
    · simp at h
    · rename_i hr
      have h1 := length_readBounds hr
      rename_i rest'
      have h2 := length_skip r.flags rest'
      have h3 := length_readMark (r.flags.skip rest')
      simp only at h
      split at h
      · simp at h
      · simp only [Except.ok.injEq, Prod.mk.injEq] at h
        obtain ⟨-, rfl⟩ := h; omega
  case h_9 =>
    split at h
    · simp at h
    · rename_i hr
      have h1 := length_readEscape hr
      split at h
      · simp at h
      · simp only [Except.ok.injEq, Prod.mk.injEq] at h
        obtain ⟨-, rfl⟩ := h; omega
  all_goals
    first
      | (split at h
         · simp at h
         · simp only [Except.ok.injEq, Prod.mk.injEq] at h
           obtain ⟨-, rfl⟩ := h; omega)
      | (simp only [Except.ok.injEq, Prod.mk.injEq] at h
         obtain ⟨-, rfl⟩ := h; omega)

def run (r : Reader) (cs : List Char) : Except Error Pattern :=
  match _hs : r.flags.skip cs with
  | [] => r.finish
  | c :: rest =>
    match _hr : r.step c rest with
    | .error e => .error e
    | .ok (s, rest) => s.run rest
termination_by cs.length
decreasing_by
  exact Nat.lt_of_le_of_lt (length_step _hr) (length_of_skip _hs)

end Reader

/-- The pattern that a text describes, given what the names of properties stand for. -/
def parse (properties : Properties) (text : String) : Except Error Pattern :=
  (Reader.start properties).run text.toList

end ContestExchange.Pattern
