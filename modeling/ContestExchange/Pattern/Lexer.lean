import ContestExchange.Pattern.Basic
import ContestExchange.Pattern.Properties

/-!
# The small parts of pattern texts

Flags, blanks, numbers, escapes and group names, each read off the front of a
pattern text.  Every reader answers with what it read and with the text behind
it, and a lemma beside it says that this rest is no longer than the text it was
given; the parser's recursion rests on these lemmas.

With the flag `x` a text is *verbose*: blanks and comments between its parts are
skipped (`Flags.skip`).
-/

namespace ContestExchange.Pattern

open Text (isBlank)

/-- Why a text is not a pattern. -/
inductive Error where
  | nothingToRepeat
  | countUnclosed
  | countMissing
  | countTooLarge
  | countReversed
  | groupUnopened
  | groupUnclosed
  /-- A group's name is empty or holds a character that names cannot hold. -/
  | groupName
  | groupNameRepeated
  | groupNameUnclosed
  | flagUnknown
  /-- A flag or the dash between flags is repeated. -/
  | flagRepeated
  | flagDangling
  | flagsUnclosed
  | lookAround
  | backreference
  /-- A backslash is followed by nothing that it can escape. -/
  | escapeUnknown
  | escapeUnfinished
  | escapeHex
  /-- A name that stands for no set of characters. -/
  | propertyUnknown
  /-- A property is asked for where classes are those of ASCII. -/
  | propertyInAscii
  | wordEdgeUnknown
  | bracketUnclosed
  | rangeReversed
  | rangeBound
  | anchorInBracket
  /-- The pattern could match a part of a character's encoding. -/
  | notCharacters
  | nestedTooDeep
  | tooLarge
deriving DecidableEq, Repr

/-- The settings under which a part of a pattern is read. -/
structure Flags where
  /-- What the names of properties stand for, which no flag changes. -/
  properties : Properties
  /-- Letters match either case (`i`). -/
  ignoreCase : Bool := false
  /-- `^` and `$` match at line ends (`m`). -/
  multiLine : Bool := false
  /-- The dot matches line ends too (`s`). -/
  dotAll : Bool := false
  /-- A carriage return ends a line too (`R`). -/
  crlf : Bool := false
  /-- Classes and case are those of ASCII (`u` switched off). -/
  ascii : Bool := false
  /-- Blanks and comments are skipped (`x`). -/
  verbose : Bool := false
  /-- Repetitions are lazy unless they are marked (`U`). -/
  lazyFirst : Bool := false

/-- The set closed under case, if the flags ask for that. -/
def Flags.closeCase (f : Flags) (s : CharSet) : CharSet :=
  if f.ignoreCase then .anyCase f.ascii s else s

/-- Whether a set goes beyond ASCII where classes are those of ASCII.  It is refused then,
even if what stands around it would cut it down again. -/
def Flags.exceeds (f : Flags) (s : CharSet) : Bool :=
  f.ascii && s.contains '\u0080'

/-! ### Blanks and comments -/

/-- Skips blanks and comments; a comment runs to the end of its line. -/
def skipVerbose : (comment : Bool) → List Char → List Char
  | _, [] => []
  | true, c :: cs => skipVerbose (c != '\n') cs
  | false, c :: cs =>
    if isBlank c then skipVerbose false cs
    else if c = '#' then skipVerbose true cs
    else c :: cs

theorem length_skipVerbose (b : Bool) (cs : List Char) :
    (skipVerbose b cs).length ≤ cs.length := by
  induction cs generalizing b with
  | nil => cases b <;> simp [skipVerbose]
  | cons c cs ih =>
    cases b with
    | true =>
      have := ih (c != '\n')
      simp only [skipVerbose, List.length_cons]; omega
    | false =>
      have h1 := ih false
      have h2 := ih true
      simp only [skipVerbose]
      split
      · simp only [List.length_cons]; omega
      · split
        · simp only [List.length_cons]; omega
        · exact Nat.le_refl _

def Flags.skip (f : Flags) (cs : List Char) : List Char :=
  if f.verbose then skipVerbose false cs else cs

theorem length_skip (f : Flags) (cs : List Char) : (f.skip cs).length ≤ cs.length := by
  rw [Flags.skip]
  split
  · exact length_skipVerbose false cs
  · exact Nat.le_refl _

theorem length_of_skip {f : Flags} {c : Char} {cs rest : List Char} (h : f.skip cs = c :: rest) :
    rest.length < cs.length := by
  have hlen := length_skip f cs
  rwa [h, List.length_cons] at hlen

/-- The character that tells what a dash before `cs` means in a bracket.  In a
verbose text the look ahead passes over blanks and over one `#`, but not over
the comment that this sign begins; where it finds nothing it falls back on the
first character. -/
def Flags.glance (f : Flags) (cs : List Char) : Option Char :=
  if f.verbose then
    let found := match cs.dropWhile isBlank with
      | '#' :: r => (r.dropWhile isBlank).head?
      | r => r.head?
    found.or cs.head?
  else cs.head?

/-! ### Numbers -/

def hexValue? (c : Char) : Option Nat :=
  if '0' ≤ c && c ≤ '9' then some (c.toNat - 0x30)
  else if 'A' ≤ c && c ≤ 'F' then some (c.toNat - 0x37)
  else if 'a' ≤ c && c ≤ 'f' then some (c.toNat - 0x57)
  else none

/-- Reads the ASCII digits at the front, skipping after each, onto `acc`;
`acc` is `none` until there was one. -/
def readDigits (f : Flags) (acc : Option Nat) : List Char → Option Nat × List Char
  | [] => (acc, [])
  | c :: cs =>
    if c.isDigit then
      readDigits f (some (acc.getD 0 * 10 + (c.toNat - 0x30))) (f.skip cs)
    else (acc, c :: cs)
termination_by cs => cs.length
decreasing_by have := length_skip f cs; simp only [List.length_cons]; omega

theorem length_readDigits (f : Flags) (acc : Option Nat) (cs : List Char) :
    (readDigits f acc cs).2.length ≤ cs.length := by
  fun_induction readDigits f acc cs with
  | case1 => exact Nat.le_refl _
  | case2 acc c cs _ ih =>
    have := length_skip f cs
    simp only [List.length_cons]; omega
  | case3 => exact Nat.le_refl _

theorem length_dropWhile_le (p : Char → Bool) (cs : List Char) :
    (cs.dropWhile p).length ≤ cs.length :=
  (List.dropWhile_sublist p).length_le

def readCount (f : Flags) (cs : List Char) : Except Error (Nat × List Char) :=
  match readDigits f none (cs.dropWhile isBlank) with
  | (none, _) => .error .countMissing
  | (some n, rest) =>
    if n < UInt32.size then .ok (n, rest.dropWhile isBlank) else .error .countTooLarge

theorem length_readCount {f : Flags} {cs rest : List Char} {n : Nat}
    (h : readCount f cs = .ok (n, rest)) : rest.length ≤ cs.length := by
  have h1 := length_dropWhile_le isBlank cs
  have h2 := length_readDigits f none (cs.dropWhile isBlank)
  rw [readCount] at h
  split at h
  · simp at h
  · rename_i m r he
    split at h
    · simp only [Except.ok.injEq, Prod.mk.injEq] at h
      have h3 := length_dropWhile_le isBlank r
      rw [he] at h2
      rw [← h.2]
      exact Nat.le_trans h3 (Nat.le_trans h2 h1)
    · simp at h

/-! ### Escapes -/

/-- What an escape stands for. -/
inductive Atom where
  /-- One character; `byte` tells whether it was written as `\x` with two digits. -/
  | char (c : Char) (byte : Bool)
  | set (s : CharSet)
  | anchor (a : Anchor)

def charOf? (n : Nat) : Option Char :=
  if n.isValidChar then some (Char.ofNat n) else none

/-- Reads `n` hexadecimal digits onto `acc`, skipping after each. -/
def readHexFixed (f : Flags) : (n acc : Nat) → List Char → Except Error (Nat × List Char)
  | 0, acc, cs => .ok (acc, cs)
  | _ + 1, _, [] => .error .escapeUnfinished
  | n + 1, acc, c :: cs =>
    match hexValue? c with
    | none => .error .escapeHex
    | some d => readHexFixed f n (acc * 16 + d) (f.skip cs)

theorem length_readHexFixed {f : Flags} {n acc : Nat} {cs rest : List Char} {v : Nat}
    (h : readHexFixed f n acc cs = .ok (v, rest)) : rest.length ≤ cs.length := by
  induction n generalizing acc cs with
  | zero =>
    simp only [readHexFixed, Except.ok.injEq, Prod.mk.injEq] at h
    exact h.2 ▸ Nat.le_refl _
  | succ n ih =>
    cases cs with
    | nil => simp [readHexFixed] at h
    | cons c cs =>
      rw [readHexFixed] at h
      split at h
      · simp at h
      · have h1 := ih h
        have h2 := length_skip f cs
        simp only [List.length_cons]; omega

/-- Reads hexadecimal digits onto `acc` up to the closing brace, skipping after
each; `acc` is `none` until there was one. -/
def readHexBraced (f : Flags) (acc : Option Nat) :
    List Char → Except Error (Nat × List Char)
  | [] => .error .escapeUnfinished
  | '}' :: cs =>
    match acc with
    | none => .error .escapeHex
    | some n => .ok (n, f.skip cs)
  | c :: cs =>
    match hexValue? c with
    | none => .error .escapeHex
    | some d => readHexBraced f (some (acc.getD 0 * 16 + d)) (f.skip cs)
termination_by cs => cs.length
decreasing_by have := length_skip f cs; simp only [List.length_cons]; omega

theorem length_readHexBraced {f : Flags} {acc : Option Nat} {cs rest : List Char} {v : Nat}
    (h : readHexBraced f acc cs = .ok (v, rest)) : rest.length ≤ cs.length := by
  fun_induction readHexBraced f acc cs with
  | case1 => simp at h
  | case2 => simp at h
  | case3 cs n =>
    simp only [Except.ok.injEq, Prod.mk.injEq] at h
    have := length_skip f cs
    obtain ⟨-, rfl⟩ := h; simp only [List.length_cons]; omega
  | case4 => simp at h
  | case5 acc c cs _ d _ ih =>
    have h1 := ih h
    have h2 := length_skip f cs
    simp only [List.length_cons]; omega

/-- The number of digits that a hexadecimal escape without braces has. -/
def hexDigits : Char → Nat
  | 'x' => 2
  | 'u' => 4
  | _ => 8

/-- Reads what follows `\x`, `\u` or `\U`. -/
def readHex (f : Flags) (kind : Char) (cs : List Char) : Except Error (Atom × List Char) :=
  match f.skip cs with
  | [] => .error .escapeUnfinished
  | '{' :: rest =>
    match readHexBraced f none (f.skip rest) with
    | .error e => .error e
    | .ok (n, rest) =>
      match charOf? n with
      | none => .error .escapeHex
      | some c => .ok (.char c false, rest)
  | rest =>
    match readHexFixed f (hexDigits kind) 0 rest with
    | .error e => .error e
    | .ok (n, rest) =>
      match charOf? n with
      | none => .error .escapeHex
      | some c => .ok (.char c (kind == 'x'), rest)

theorem length_readHex {f : Flags} {kind : Char} {cs rest : List Char} {a : Atom}
    (h : readHex f kind cs = .ok (a, rest)) : rest.length ≤ cs.length := by
  rw [readHex] at h
  split at h
  · simp at h
  · rename_i r he
    have h0 := length_of_skip he
    split at h
    · simp at h
    · rename_i n r' hb
      have h1 := length_readHexBraced hb
      have h2 := length_skip f r
      split at h
      · simp at h
      · simp only [Except.ok.injEq, Prod.mk.injEq] at h
        obtain ⟨-, rfl⟩ := h; omega
  · split at h
    · simp at h
    · rename_i n r' hb
      have h0 := length_skip f cs
      have h1 := length_readHexFixed hb
      split at h
      · simp at h
      · simp only [Except.ok.injEq, Prod.mk.injEq] at h
        obtain ⟨-, rfl⟩ := h; omega

/-- The characters that have a meaning of their own in patterns. -/
def metaChars : List Char :=
  ['\\', '.', '+', '*', '?', '(', ')', '|', '[', ']', '{', '}', '^', '$', '#', '&', '-', '~']

/-- Whether a backslash before the character makes it stand for itself. -/
def isEscapable (c : Char) : Bool :=
  metaChars.contains c || (c.toNat < 0x80 && !c.isAlphanum && c != '<' && c != '>')

/-- The sets that a backslash and a letter name. -/
def letterSet? (f : Flags) : Char → Option CharSet
  | 'd' => some (if f.ascii then .asciiDigit else .digit)
  | 'D' => some (.compl (if f.ascii then .asciiDigit else .digit))
  | 's' => some (if f.ascii then .asciiBlank else .blank)
  | 'S' => some (.compl (if f.ascii then .asciiBlank else .blank))
  | 'w' => some (if f.ascii then .asciiWord else .word)
  | 'W' => some (.compl (if f.ascii then .asciiWord else .word))
  | _ => none

def controlChar? : Char → Option Char
  | 'a' => some '\x07'
  | 'f' => some '\x0c'
  | 't' => some '\t'
  | 'n' => some '\n'
  | 'r' => some '\r'
  | 'v' => some '\x0b'
  | _ => none

/-- The conditions that a backslash and a character name, `\b` apart. -/
def anchor? (f : Flags) : Char → Option Anchor
  | 'A' => some .textStart
  | 'z' => some .textEnd
  | 'B' => some (.noWordEdge f.ascii)
  | '<' => some (.wordStart f.ascii)
  | '>' => some (.wordEnd f.ascii)
  | _ => none

/-- Reads the letters and dashes at the front, skipping after each. -/
def readName (f : Flags) : List Char → List Char × List Char
  | [] => ([], [])
  | c :: cs =>
    if c.isAlpha || c == '-' then
      let r := readName f (f.skip cs)
      (c :: r.1, r.2)
    else ([], c :: cs)
termination_by cs => cs.length
decreasing_by have := length_skip f cs; simp only [List.length_cons]; omega

theorem length_readName (f : Flags) (cs : List Char) :
    (readName f cs).2.length ≤ cs.length := by
  fun_induction readName f cs with
  | case1 => exact Nat.le_refl _
  | case2 c cs _ r ih =>
    have := length_skip f cs
    simp only [List.length_cons]
    exact Nat.le_trans ih (Nat.le_trans this (Nat.le_succ _))
  | case3 => exact Nat.le_refl _

/-- The kind of word edge that `\b{name}` asks for. -/
def wordEdge? (f : Flags) : String → Option Anchor
  | "start" => some (.wordStart f.ascii)
  | "end" => some (.wordEnd f.ascii)
  | "start-half" => some (.wordStartHalf f.ascii)
  | "end-half" => some (.wordEndHalf f.ascii)
  | _ => none

/-- Reads what follows `\b`: a kind in braces, unless the brace begins a count. -/
def readWordEdge (f : Flags) (cs : List Char) : Except Error (Anchor × List Char) :=
  match cs with
  | '{' :: rest =>
    match f.skip rest with
    | [] => .error .countUnclosed
    | c :: r =>
      if c.isAlpha || c == '-' then
        match readName f (c :: r) with
        | (name, '}' :: behind) =>
          match wordEdge? f (String.ofList name) with
          | some a => .ok (a, behind)
          | none => .error .wordEdgeUnknown
        | _ => .error .wordEdgeUnknown
      else .ok (.wordEdge f.ascii, cs)
  | _ => .ok (.wordEdge f.ascii, cs)

theorem length_readWordEdge {f : Flags} {cs rest : List Char} {a : Anchor}
    (h : readWordEdge f cs = .ok (a, rest)) : rest.length ≤ cs.length := by
  unfold readWordEdge at h
  split at h
  · rename_i r
    split at h
    · simp at h
    · rename_i c r' he
      have h0 := length_of_skip he
      split at h
      · split at h
        · rename_i name behind hn
          have h1 := length_readName f (c :: r')
          rw [hn] at h1
          split at h
          · simp only [Except.ok.injEq, Prod.mk.injEq] at h
            rw [← h.2]
            simp only [List.length_cons] at h0 h1 ⊢
            omega
          · simp at h
        · simp at h
      · simp only [Except.ok.injEq, Prod.mk.injEq] at h
        exact h.2 ▸ Nat.le_refl _
  · simp only [Except.ok.injEq, Prod.mk.injEq] at h
    exact h.2 ▸ Nat.le_refl _

/-- Reads the name of a property up to the closing brace, skipping after each character. -/
def readBraced (f : Flags) : List Char → Except Error (List Char × List Char)
  | [] => .error .escapeUnfinished
  | '}' :: cs => .ok ([], cs)
  | c :: cs =>
    match readBraced f (f.skip cs) with
    | .error e => .error e
    | .ok (name, rest) => .ok (c :: name, rest)
termination_by cs => cs.length
decreasing_by have := length_skip f cs; simp only [List.length_cons]; omega

theorem length_readBraced {f : Flags} {cs name rest : List Char}
    (h : readBraced f cs = .ok (name, rest)) : rest.length < cs.length := by
  fun_induction readBraced f cs generalizing name with
  | case1 => cases h
  | case2 cs =>
    cases h
    exact Nat.lt_succ_self _
  | case3 => cases h
  | case4 c cs _ name' rest' hread ih =>
    cases h
    have h1 := ih hread
    have h2 := length_skip f cs
    simp only [List.length_cons]; omega

/-- Reads what follows `\p` or `\P`: a name of one character, or one in braces. -/
def readProperty (f : Flags) (cs : List Char) : Except Error (PropertyName × List Char) :=
  match f.skip cs with
  | [] => .error .escapeUnfinished
  | '{' :: rest =>
    match readBraced f (f.skip rest) with
    | .error e => .error e
    | .ok (name, rest) => .ok (.ofBraces name, rest)
  | c :: rest =>
    if c == '\\' then .error .propertyUnknown else .ok (.set (String.ofList [c]), rest)

theorem length_readProperty {f : Flags} {cs rest : List Char} {n : PropertyName}
    (h : readProperty f cs = .ok (n, rest)) : rest.length < cs.length := by
  rw [readProperty] at h
  split at h
  · cases h
  · rename_i r he
    split at h
    · cases h
    · rename_i name r' hb
      cases h
      have h1 := Nat.le_trans (length_skip f r) (Nat.le_of_lt (length_of_skip he))
      exact Nat.lt_of_lt_of_le (length_readBraced hb) h1
  · rename_i c r _ he
    split at h
    · cases h
    · cases h
      exact length_of_skip he

/-- The set that a property is asked for by, or with `negated` the characters outside.
It is closed under case before it is turned around. -/
def Flags.propertySet (f : Flags) (negated : Bool) (n : PropertyName) : Except Error CharSet :=
  if f.ascii then .error .propertyInAscii
  else
    match f.properties.find? n with
    | none => .error .propertyUnknown
    | some s =>
      .ok (if negated != n.isNegated then .compl (f.closeCase s) else f.closeCase s)

/-- Reads what follows a backslash. -/
def readEscape (f : Flags) : List Char → Except Error (Atom × List Char)
  | [] => .error .escapeUnfinished
  | c :: cs =>
    if c.isDigit then .error .backreference
    else if c == 'x' || c == 'u' || c == 'U' then readHex f c cs
    else if c == 'p' || c == 'P' then
      match readProperty f cs with
      | .error e => .error e
      | .ok (n, rest) =>
        match f.propertySet (c == 'P') n with
        | .error e => .error e
        | .ok s => .ok (.set s, rest)
    else if c == 'b' then
      match readWordEdge f cs with
      | .error e => .error e
      | .ok (a, rest) => .ok (.anchor a, rest)
    else
      match letterSet? f c, anchor? f c, controlChar? c with
      | some s, _, _ => .ok (.set s, cs)
      | none, some a, _ => .ok (.anchor a, cs)
      | none, none, some d => .ok (.char d false, cs)
      | none, none, none =>
        if isEscapable c then .ok (.char c false, cs) else .error .escapeUnknown

theorem length_readEscape {f : Flags} {cs rest : List Char} {a : Atom}
    (h : readEscape f cs = .ok (a, rest)) : rest.length < cs.length := by
  cases cs with
  | nil => simp [readEscape] at h
  | cons c cs =>
    simp only [List.length_cons]
    rw [readEscape] at h
    split at h
    · simp at h
    · split at h
      · exact Nat.lt_succ_of_le (length_readHex h)
      · split at h
        · split at h
          · simp at h
          · rename_i n r hn
            split at h
            · simp at h
            · simp only [Except.ok.injEq, Prod.mk.injEq] at h
              exact Nat.lt_succ_of_lt (h.2 ▸ length_readProperty hn)
        · split at h
          · split at h
            · simp at h
            · rename_i e r he
              simp only [Except.ok.injEq, Prod.mk.injEq] at h
              exact Nat.lt_succ_of_le (h.2 ▸ length_readWordEdge he)
          · split at h
            · simp only [Except.ok.injEq, Prod.mk.injEq] at h
              exact h.2 ▸ Nat.lt_succ_self _
            · simp only [Except.ok.injEq, Prod.mk.injEq] at h
              exact h.2 ▸ Nat.lt_succ_self _
            · simp only [Except.ok.injEq, Prod.mk.injEq] at h
              exact h.2 ▸ Nat.lt_succ_self _
            · split at h
              · simp only [Except.ok.injEq, Prod.mk.injEq] at h
                exact h.2 ▸ Nat.lt_succ_self _
              · simp at h

/-! ### Flags and names of groups -/

def Flags.set? (f : Flags) (b : Bool) : Char → Option Flags
  | 'i' => some { f with ignoreCase := b }
  | 'm' => some { f with multiLine := b }
  | 's' => some { f with dotAll := b }
  | 'R' => some { f with crlf := b }
  | 'u' => some { f with ascii := !b }
  | 'x' => some { f with verbose := b }
  | 'U' => some { f with lazyFirst := b }
  | _ => none

/-- What flags were read: the settings they make, whether there were any, and
the character that closed them, a colon or a parenthesis. -/
structure FlagsRead where
  flags : Flags
  any : Bool
  /-- Whether a colon closed them, so that a group follows. -/
  opensGroup : Bool

/-- Reads flags up to the colon or parenthesis that closes them.  `seen` holds
what was read so far, last first. -/
def readFlags (f : Flags) (seen : List Char) : List Char → Except Error (FlagsRead × List Char)
  | [] => .error .flagsUnclosed
  | c :: cs =>
    if c == ':' || c == ')' then
      if seen.head? == some '-' then .error .flagDangling
      else .ok (⟨f, !seen.isEmpty, c == ':'⟩, cs)
    else if c == '-' then
      if seen.contains c then .error .flagRepeated
      else readFlags f (c :: seen) cs
    else
      match f.set? (!seen.contains '-') c with
      | none => .error .flagUnknown
      | some f' => if seen.contains c then .error .flagRepeated else readFlags f' (c :: seen) cs

theorem length_readFlags {f : Flags} {seen cs rest : List Char} {r : FlagsRead}
    (h : readFlags f seen cs = .ok (r, rest)) : rest.length ≤ cs.length := by
  induction cs generalizing f seen with
  | nil => simp [readFlags] at h
  | cons c cs ih =>
    rw [readFlags] at h
    simp only [List.length_cons]
    split at h
    · split at h
      · simp at h
      · simp only [Except.ok.injEq, Prod.mk.injEq] at h
        obtain ⟨-, rfl⟩ := h; omega
    · split at h
      · split at h
        · simp at h
        · have := ih h; omega
      · split at h
        · simp at h
        · split at h
          · simp at h
          · have := ih h; omega

def startsName (c : Char) : Bool :=
  c == '_' || isLetter c

def inName (c : Char) : Bool :=
  c == '_' || c == '.' || c == '[' || c == ']' || isLetterOrNumeral c

def readGroupName (cs : List Char) : Except Error (String × List Char) :=
  match cs with
  | [] => .error .groupNameUnclosed
  | c :: _ =>
    if startsName c then
      match cs.dropWhile inName with
      | [] => .error .groupNameUnclosed
      | '>' :: rest => .ok (String.ofList (cs.takeWhile inName), rest)
      | _ => .error .groupName
    else .error .groupName

theorem length_readGroupName {cs rest : List Char} {name : String}
    (h : readGroupName cs = .ok (name, rest)) : rest.length ≤ cs.length := by
  have h0 := length_dropWhile_le inName cs
  unfold readGroupName at h
  split at h
  · simp at h
  · split at h
    · split at h
      · simp at h
      · rename_i r he
        simp only [Except.ok.injEq, Prod.mk.injEq] at h
        rw [he] at h0
        simp only [List.length_cons] at h0 ⊢
        obtain ⟨-, rfl⟩ := h; omega
      · simp at h
    · simp at h

end ContestExchange.Pattern
