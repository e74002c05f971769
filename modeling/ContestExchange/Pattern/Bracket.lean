import ContestExchange.Pattern.Lexer

/-!
# Bracketed sets of characters

A bracket holds characters, ranges, named sets and further brackets; between
them may stand the operators `&&` (both), `--` (the first without the second)
and `~~` (exactly one), all of one rank and read from the left.  Brackets nest,
so the ones that are still open are kept in a list, the innermost first, and
`readBracket` works through the text once.

How deep a bracket nests is counted along with its set: a bracket, an operator,
and two or more items side by side each hold their contents one deeper.
-/

namespace ContestExchange.Pattern

/-- The operators between the operands of a bracket. -/
inductive SetOp where
  | both
  /-- The characters in the first operand only. -/
  | without
  /-- The characters in exactly one operand. -/
  | either

def SetOp.apply : SetOp → CharSet → CharSet → CharSet
  | both => .inter
  | without => .diff
  | either => .symmDiff

/-- A set, and how deep the text nests that stands for it. -/
structure NestedSet where
  set : CharSet
  depth : Nat

/-- A bracket whose end has not been read yet. -/
structure OpenBracket where
  negated : Bool
  /-- What the operand read at present holds so far, and how deep its deepest
  item nests. -/
  items : NestedSet
  count : Nat
  /-- The operand before it and the operator between the two. -/
  before : Option (NestedSet × SetOp)

namespace OpenBracket

def add (b : OpenBracket) (s : NestedSet) : OpenBracket :=
  { b with items := ⟨.union b.items.set s.set, max b.items.depth s.depth⟩, count := b.count + 1 }

def operand (b : OpenBracket) : NestedSet :=
  if 2 ≤ b.count then ⟨b.items.set, b.items.depth + 1⟩ else b.items

def value (f : Flags) (b : OpenBracket) : NestedSet :=
  match b.before with
  | none => b.operand
  | some (s, op) =>
    ⟨op.apply (f.closeCase s.set) (f.closeCase b.operand.set), max s.depth b.operand.depth + 1⟩

/-- The bracket with its operand ended by an operator. -/
def operate (f : Flags) (b : OpenBracket) (op : SetOp) : OpenBracket :=
  { b with items := ⟨.nothing, 0⟩, count := 0, before := some (b.value f, op) }

def close (f : Flags) (b : OpenBracket) : NestedSet :=
  let s := f.closeCase (b.value f).set
  ⟨if b.negated then .compl s else s, (b.value f).depth + 1⟩

end OpenBracket

/-- The number of dashes at the front, and the text behind them. -/
def skipDashes (f : Flags) : List Char → Nat × List Char
  | '-' :: cs => ((skipDashes f (f.skip cs)).1 + 1, (skipDashes f (f.skip cs)).2)
  | cs => (0, cs)
termination_by cs => cs.length
decreasing_by have := length_skip f cs; simp only [List.length_cons]; omega

theorem length_skipDashes (f : Flags) (cs : List Char) :
    (skipDashes f cs).2.length ≤ cs.length := by
  fun_induction skipDashes f cs with
  | case1 cs ih =>
    have := length_skip f cs
    simp only [List.length_cons]
    exact Nat.le_trans ih (Nat.le_trans this (Nat.le_succ _))
  | case2 => exact Nat.le_refl _

/-- Reads what follows an opening bracket: a caret that negates it, dashes, and
a closing bracket if it comes first.  Those stand for themselves here. -/
def openBracket (f : Flags) (cs : List Char) : OpenBracket × List Char :=
  let start := f.skip cs
  let body := match start with
    | '^' :: r => (true, f.skip r)
    | r => (false, r)
  let dashes := skipDashes f body.2
  match dashes.1, dashes.2 with
  | 0, ']' :: r => (⟨body.1, ⟨.single ']', 0⟩, 1, none⟩, f.skip r)
  | 0, r => (⟨body.1, ⟨.nothing, 0⟩, 0, none⟩, r)
  | n + 1, r => (⟨body.1, ⟨.single '-', 0⟩, n + 1, none⟩, r)

theorem length_openBracket (f : Flags) (cs : List Char) :
    (openBracket f cs).2.length ≤ cs.length := by
  have h1 : ((match f.skip cs with
      | '^' :: r => (true, f.skip r)
      | r => (false, r)).2).length ≤ cs.length := by
    split
    · rename_i r he
      exact Nat.le_trans (length_skip f r) (Nat.le_of_lt (length_of_skip he))
    · exact length_skip f cs
  unfold openBracket
  simp only
  generalize (match f.skip cs with
      | '^' :: r => (true, f.skip r)
      | r => (false, r)) = body at h1 ⊢
  have h2 := length_skipDashes f body.2
  split
  · rename_i r _ he
    have := length_skip f r
    rw [he] at h2
    simp only [List.length_cons] at h2
    simp only
    omega
  · exact Nat.le_trans h2 h1
  · exact Nat.le_trans h2 h1

/-- Reads a set named as `[:name:]` or `[:^name:]`, from behind its opening
bracket.  A name that is not known makes it an ordinary bracket. -/
def readNamed (f : Flags) (cs : List Char) : Option (CharSet × List Char) :=
  match cs with
  | ':' :: r =>
    let negated := r.head? == some '^'
    let r := if negated then r.drop 1 else r
    match r.dropWhile (· != ':') with
    | ':' :: ']' :: rest =>
      (CharSet.named? (String.ofList (r.takeWhile (· != ':')))).map fun s =>
        (if negated then .compl (f.closeCase s) else f.closeCase s, rest)
    | _ => none
  | _ => none

theorem length_readNamed {f : Flags} {cs rest : List Char} {s : CharSet}
    (h : readNamed f cs = some (s, rest)) : rest.length ≤ cs.length := by
  unfold readNamed at h
  split at h
  · rename_i r
    simp only at h
    generalize hn : (r.head? == some '^') = negated at h
    have h0 : (if negated then r.drop 1 else r).length ≤ r.length := by
      split
      · simp
      · exact Nat.le_refl _
    generalize (if negated = true then r.drop 1 else r) = body at h h0
    have h1 := length_dropWhile_le (· != ':') body
    split at h
    · rename_i r' he
      rw [he] at h1
      simp only [Option.map_eq_some_iff, Prod.mk.injEq] at h
      obtain ⟨_, _, _, rfl⟩ := h
      simp only [List.length_cons] at h1 ⊢
      omega
    · simp at h
  · simp at h

/-- The character that an atom is as a bound of a range. -/
def Atom.bound? (f : Flags) : Atom → Except Error Char
  | .char c _ => if f.ascii && 0x80 ≤ c.toNat then .error .notCharacters else .ok c
  | .set _ => .error .rangeBound
  | .anchor _ => .error .rangeBound

def Atom.item? (f : Flags) : Atom → Except Error CharSet
  | .char c _ =>
    if f.ascii && 0x80 ≤ c.toNat then .error .notCharacters else .ok (.single c)
  | .set s => if f.exceeds s then .error .notCharacters else .ok s
  | .anchor _ => .error .anchorInBracket

def readBracketAtom (f : Flags) (c : Char) (cs : List Char) : Except Error (Atom × List Char) :=
  if c == '\\' then readEscape f cs else .ok (.char c false, cs)

theorem length_readBracketAtom {f : Flags} {c : Char} {cs rest : List Char} {a : Atom}
    (h : readBracketAtom f c cs = .ok (a, rest)) : rest.length ≤ cs.length := by
  rw [readBracketAtom] at h
  split at h
  · exact Nat.le_of_lt (length_readEscape h)
  · simp only [Except.ok.injEq, Prod.mk.injEq] at h
    exact h.2 ▸ Nat.le_refl _

/-- Reads an item of a bracket that begins with the character `c`: a range if a
dash follows, unless the look ahead finds a closing bracket or a dash behind. -/
def readItem (f : Flags) (c : Char) (cs : List Char) : Except Error (CharSet × List Char) :=
  match readBracketAtom f c cs with
  | .error e => .error e
  | .ok (first, rest) =>
    let alone := fun (r : List Char) =>
      match first.item? f with
      | .error e => .error e
      | .ok s => .ok (s, r)
    match f.skip rest with
    | '-' :: behind =>
      if f.glance behind == some ']' || f.glance behind == some '-' then alone ('-' :: behind)
      else
        match f.skip behind with
        | [] => .error .bracketUnclosed
        | d :: r =>
          match readBracketAtom f d r with
          | .error e => .error e
          | .ok (last, r) =>
            match first.bound? f, last.bound? f with
            | .error e, _ => .error e
            | .ok _, .error e => .error e
            | .ok lo, .ok hi =>
              if lo ≤ hi then .ok (.range lo hi, r) else .error .rangeReversed
    | r => alone r

theorem length_readItem {f : Flags} {c : Char} {cs rest : List Char} {s : CharSet}
    (h : readItem f c cs = .ok (s, rest)) : rest.length ≤ cs.length := by
  unfold readItem at h
  split at h
  · simp at h
  · rename_i first r0 ha
    have h0 := length_readBracketAtom ha
    simp only at h
    split at h
    · rename_i behind he
      have h1 := length_of_skip he
      split at h
      · split at h
        · simp at h
        · simp only [Except.ok.injEq, Prod.mk.injEq] at h
          obtain ⟨-, rfl⟩ := h; simp only [List.length_cons]; omega
      · split at h
        · simp at h
        · rename_i d r hd
          have h2 := length_of_skip hd
          split at h
          · simp at h
          · rename_i last r' hl
            have h3 := length_readBracketAtom hl
            split at h
            · simp at h
            · simp at h
            · split at h
              · simp only [Except.ok.injEq, Prod.mk.injEq] at h
                obtain ⟨-, rfl⟩ := h; omega
              · simp at h
    · have h1 := length_skip f r0
      split at h
      · simp at h
      · simp only [Except.ok.injEq, Prod.mk.injEq] at h
        obtain ⟨-, rfl⟩ := h; omega

/-- Reads on within the bracket `b`, which stands in the brackets `outer`, up to
the closing bracket of the outermost. -/
def readBracket (f : Flags) (b : OpenBracket) (outer : List OpenBracket) (cs : List Char) :
    Except Error (NestedSet × List Char) :=
  match _hs : f.skip cs with
  | [] => .error .bracketUnclosed
  | '[' :: rest =>
    match _hn : readNamed f rest with
    | some (s, r) =>
      if f.exceeds s then .error .notCharacters else readBracket f (b.add ⟨s, 0⟩) outer r
    | none => readBracket f (openBracket f rest).1 (b :: outer) (openBracket f rest).2
  | ']' :: rest =>
    if f.exceeds (b.close f).set then .error .notCharacters
    else
      match outer with
      | [] => .ok (b.close f, rest)
      | o :: os => readBracket f (o.add (b.close f)) os rest
  | '&' :: '&' :: rest => readBracket f (b.operate f .both) outer rest
  | '-' :: '-' :: rest => readBracket f (b.operate f .without) outer rest
  | '~' :: '~' :: rest => readBracket f (b.operate f .either) outer rest
  | c :: rest =>
    match _hi : readItem f c rest with
    | .error e => .error e
    | .ok (s, r) => readBracket f (b.add ⟨s, 0⟩) outer r
termination_by cs.length
decreasing_by
  all_goals have hlen := length_of_skip _hs
  · exact Nat.lt_of_le_of_lt (length_readNamed _hn) hlen
  · exact Nat.lt_of_le_of_lt (length_openBracket f rest) hlen
  · exact hlen
  · exact Nat.lt_of_succ_lt hlen
  · exact Nat.lt_of_succ_lt hlen
  · exact Nat.lt_of_succ_lt hlen
  · exact Nat.lt_of_le_of_lt (length_readItem _hi) hlen

theorem length_readBracket {f : Flags} {b : OpenBracket} {outer : List OpenBracket}
    {cs rest : List Char} {s : NestedSet} (h : readBracket f b outer cs = .ok (s, rest)) :
    rest.length ≤ cs.length := by
  fun_induction readBracket f b outer cs with
  | case1 | case2 | case5 | case11 => cases h
  | case3 b outer cs r hs s' r' hn _ ih =>
    have h1 := Nat.le_trans (ih h) (length_readNamed hn)
    exact Nat.le_trans h1 (Nat.le_of_lt (length_of_skip hs))
  | case4 b outer cs r hs hn ih =>
    have h1 := Nat.le_trans (ih h) (length_openBracket f r)
    exact Nat.le_trans h1 (Nat.le_of_lt (length_of_skip hs))
  | case6 b cs r hs =>
    cases h
    exact Nat.le_of_lt (length_of_skip hs)
  | case7 b cs r hs _ o os ih =>
    exact Nat.le_trans (ih h) (Nat.le_of_lt (length_of_skip hs))
  | case8 b outer cs r hs ih | case9 b outer cs r hs ih | case10 b outer cs r hs ih =>
    have h1 := Nat.le_succ_of_le (ih h)
    exact Nat.le_trans h1 (Nat.le_of_lt (length_of_skip hs))
  | case12 b outer cs c r _ _ _ _ _ hs s' r' hi ih =>
    have h1 := Nat.le_trans (ih h) (length_readItem hi)
    exact Nat.le_trans h1 (Nat.le_of_lt (length_of_skip hs))

def readSet (f : Flags) (cs : List Char) : Except Error (NestedSet × List Char) :=
  readBracket f (openBracket f cs).1 [] (openBracket f cs).2

theorem length_readSet {f : Flags} {cs rest : List Char} {s : NestedSet}
    (h : readSet f cs = .ok (s, rest)) : rest.length ≤ cs.length :=
  Nat.le_trans (length_readBracket h) (length_openBracket f cs)

end ContestExchange.Pattern
