import ContestExchange.Json.Basic

/-!
# Reading JSON

`Json.parse` accepts JSON texts and nothing else: one value, blanks around it,
and no byte behind them.  The reader goes through the bytes
once; the arrays and objects that are still open are kept in a list, the
innermost first, so their number is not bounded.
-/

namespace ContestExchange.Json

/-- The four blanks between the parts of a text. -/
def isGap (b : UInt8) : Bool :=
  b == 0x20 || b == 0x09 || b == 0x0A || b == 0x0D

def skipGap (bs : List UInt8) : List UInt8 :=
  bs.dropWhile isGap

theorem length_skipGap (bs : List UInt8) : (skipGap bs).length ≤ bs.length :=
  (List.dropWhile_sublist isGap).length_le

/-! ### Strings -/

/-- A part of a string as it is written. -/
inductive Piece where
  /-- A byte that stands for itself. -/
  | byte (b : UInt8)
  /-- An escape that names a unit of UTF-16. -/
  | unit (n : Nat)

def hexValue? (b : UInt8) : Option Nat :=
  if 0x30 ≤ b && b ≤ 0x39 then some (b.toNat - 0x30)
  else if 0x41 ≤ b && b ≤ 0x46 then some (b.toNat - 0x37)
  else if 0x61 ≤ b && b ≤ 0x66 then some (b.toNat - 0x57)
  else none

def hexNumber? (a b c d : UInt8) : Option Nat :=
  match hexValue? a, hexValue? b, hexValue? c, hexValue? d with
  | some w, some x, some y, some z => some (((w * 16 + x) * 16 + y) * 16 + z)
  | _, _, _, _ => none

/-- The byte that an escape of one letter stands for. -/
def escaped? (b : UInt8) : Option UInt8 :=
  if b == 0x22 || b == 0x5C || b == 0x2F then some b
  else if b == 0x62 then some 0x08
  else if b == 0x66 then some 0x0C
  else if b == 0x6E then some 0x0A
  else if b == 0x72 then some 0x0D
  else if b == 0x74 then some 0x09
  else none

/-- Reads a string from behind its first quote, up to behind its last. -/
def readPieces : List UInt8 → Option (List Piece × List UInt8)
  | [] => none
  | 0x22 :: rest => some ([], rest)
  | 0x5C :: 0x75 :: a :: b :: c :: d :: rest =>
    match hexNumber? a b c d, readPieces rest with
    | some n, some (ps, behind) => some (.unit n :: ps, behind)
    | _, _ => none
  | 0x5C :: e :: rest =>
    match escaped? e, readPieces rest with
    | some b, some (ps, behind) => some (.byte b :: ps, behind)
    | _, _ => none
  | b :: rest =>
    if b < 0x20 || b == 0x5C then none
    else
      match readPieces rest with
      | some (ps, behind) => some (.byte b :: ps, behind)
      | none => none

theorem length_readPieces {bs rest : List UInt8} {ps : List Piece}
    (h : readPieces bs = some (ps, rest)) : rest.length < bs.length := by
  fun_induction readPieces bs generalizing ps rest with
  | case1 => simp at h
  | case2 r =>
    simp only [Option.some.injEq, Prod.mk.injEq] at h
    obtain ⟨-, rfl⟩ := h; exact Nat.lt_succ_self _
  | case3 a b c d r n ps' behind hp _ ih =>
    simp only [Option.some.injEq, Prod.mk.injEq] at h
    have := ih hp
    obtain ⟨-, rfl⟩ := h; simp only [List.length_cons]; omega
  | case5 e r _ b ps' behind hp _ ih =>
    simp only [Option.some.injEq, Prod.mk.injEq] at h
    have := ih hp
    obtain ⟨-, rfl⟩ := h; simp only [List.length_cons]; omega
  | case8 b r _ _ _ _ ps' behind hp ih =>
    simp only [Option.some.injEq, Prod.mk.injEq] at h
    have := ih hp
    obtain ⟨-, rfl⟩ := h; simp only [List.length_cons]; omega
  | case4 | case6 | case7 | case9 => simp at h

/-- The bytes that the pieces stand for.  A high surrogate needs the low one
behind it, and no other unit may be a surrogate. -/
def pieceBytes : List Piece → Option (List UInt8)
  | [] => some []
  | .byte b :: r => (pieceBytes r).map (b :: ·)
  | .unit n :: r =>
    if 0xD800 ≤ n && n < 0xDC00 then
      match r with
      | .unit m :: r' =>
        if 0xDC00 ≤ m && m < 0xE000 then
          let c := Char.ofNat (0x10000 + (n - 0xD800) * 0x400 + (m - 0xDC00))
          (pieceBytes r').map (String.utf8EncodeChar c ++ ·)
        else none
      | _ => none
    else if 0xDC00 ≤ n && n < 0xE000 then none
    else (pieceBytes r).map (String.utf8EncodeChar (Char.ofNat n) ++ ·)

/-- The characters that the pieces write, if they write characters. -/
def piecesText? (ps : List Piece) : Option String :=
  (pieceBytes ps).bind fun bs => String.fromUTF8? ⟨bs.toArray⟩

def readString (bs : List UInt8) : Option (JsonString × List UInt8) :=
  match readPieces bs with
  | none => none
  | some (ps, rest) =>
    match piecesText? ps with
    | some s => some (.text s, rest)
    | none => some (.broken (bs.take (bs.length - rest.length - 1)), rest)

theorem length_readString {bs rest : List UInt8} {s : JsonString}
    (h : readString bs = some (s, rest)) : rest.length < bs.length := by
  rw [readString] at h
  split at h
  · simp at h
  · rename_i hp
    have := length_readPieces hp
    split at h <;>
      · simp only [Option.some.injEq, Prod.mk.injEq] at h
        obtain ⟨-, rfl⟩ := h; exact this

/-! ### Numbers -/

def isDigitByte (b : UInt8) : Bool :=
  0x30 ≤ b && b ≤ 0x39

def digitsValue (bs : List UInt8) : Nat :=
  bs.foldl (fun n b => n * 10 + (b.toNat - 0x30)) 0

/-- The text behind the whole part of a number: a zero, or digits that do not
start with one. -/
def dropWhole : List UInt8 → Option (List UInt8)
  | 0x30 :: rest => some rest
  | b :: rest => if isDigitByte b then some (rest.dropWhile isDigitByte) else none
  | [] => none

def dropDigits : List UInt8 → Option (List UInt8)
  | b :: rest => if isDigitByte b then some (rest.dropWhile isDigitByte) else none
  | [] => none

def dropFraction : List UInt8 → Option (List UInt8)
  | 0x2E :: rest => dropDigits rest
  | rest => some rest

def dropExponent : List UInt8 → Option (List UInt8)
  | b :: rest =>
    if b == 0x65 || b == 0x45 then
      match rest with
      | s :: r => if s == 0x2B || s == 0x2D then dropDigits r else dropDigits (s :: r)
      | [] => none
    else some (b :: rest)
  | [] => some []

def dropMinus : List UInt8 → List UInt8
  | 0x2D :: rest => rest
  | rest => rest

def readNumber (bs : List UInt8) : Option (Json × List UInt8) :=
  match dropWhole (dropMinus bs) with
  | none => none
  | some whole =>
    match (dropFraction whole).bind dropExponent with
    | none => none
    | some rest =>
      if (dropMinus bs).length == bs.length && rest.length == whole.length then
        some (.natural (digitsValue (bs.take (bs.length - rest.length))), rest)
      else some (.number (bs.take (bs.length - rest.length)), rest)

theorem length_dropWhile_digits (bs : List UInt8) :
    (bs.dropWhile isDigitByte).length ≤ bs.length :=
  (List.dropWhile_sublist isDigitByte).length_le

theorem length_dropWhole {bs rest : List UInt8} (h : dropWhole bs = some rest) :
    rest.length < bs.length := by
  unfold dropWhole at h
  split at h
  · simp_all
  · rename_i b r _
    have := length_dropWhile_digits r
    split at h
    · simp only [Option.some.injEq] at h
      subst h; simp only [List.length_cons]; omega
    · simp at h
  · simp at h

theorem length_dropDigits {bs rest : List UInt8} (h : dropDigits bs = some rest) :
    rest.length ≤ bs.length := by
  unfold dropDigits at h
  split at h
  · rename_i b r
    have := length_dropWhile_digits r
    split at h
    · simp only [Option.some.injEq] at h
      subst h; simp only [List.length_cons]; omega
    · simp at h
  · simp at h

theorem length_dropFraction {bs rest : List UInt8} (h : dropFraction bs = some rest) :
    rest.length ≤ bs.length := by
  unfold dropFraction at h
  split at h
  · have := length_dropDigits h
    simp only [List.length_cons]; omega
  · simp only [Option.some.injEq] at h
    exact h ▸ Nat.le_refl _

theorem length_dropExponent {bs rest : List UInt8} (h : dropExponent bs = some rest) :
    rest.length ≤ bs.length := by
  unfold dropExponent at h
  split at h
  · split at h
    · split at h
      · split at h
        · have := length_dropDigits h
          simp only [List.length_cons]; omega
        · have := length_dropDigits h
          simp only [List.length_cons] at this ⊢; omega
      · simp at h
    · simp only [Option.some.injEq] at h
      exact h ▸ Nat.le_refl _
  · simp only [Option.some.injEq] at h
    exact h ▸ Nat.le_refl _

theorem length_readNumber {bs rest : List UInt8} {v : Json}
    (h : readNumber bs = some (v, rest)) : rest.length < bs.length := by
  have h0 : (dropMinus bs).length ≤ bs.length := by
    unfold dropMinus
    split
    · exact Nat.le_succ _
    · exact Nat.le_refl _
  unfold readNumber at h
  split at h
  · simp at h
  · rename_i whole hw
    have h1 := length_dropWhole hw
    split at h
    · simp at h
    · rename_i r hr
      obtain ⟨m, hf, he⟩ := Option.bind_eq_some_iff.1 hr
      have h2 := length_dropFraction hf
      have h3 := length_dropExponent he
      split at h
      · simp only [Option.some.injEq, Prod.mk.injEq] at h
        obtain ⟨-, rfl⟩ := h; omega
      · simp only [Option.some.injEq, Prod.mk.injEq] at h
        obtain ⟨-, rfl⟩ := h; omega

/-! ### Values -/

/-- Reads `null`, `true`, `false`, a string or a number. -/
def readScalar : List UInt8 → Option (Json × List UInt8)
  | 0x22 :: rest =>
    match readString rest with
    | some (s, behind) => some (.string s, behind)
    | none => none
  | 0x6E :: 0x75 :: 0x6C :: 0x6C :: rest => some (.null, rest)
  | 0x74 :: 0x72 :: 0x75 :: 0x65 :: rest => some (.bool true, rest)
  | 0x66 :: 0x61 :: 0x6C :: 0x73 :: 0x65 :: rest => some (.bool false, rest)
  | bs => readNumber bs

theorem length_readScalar {bs rest : List UInt8} {v : Json}
    (h : readScalar bs = some (v, rest)) : rest.length < bs.length := by
  unfold readScalar at h
  split at h
  · split at h
    · rename_i hs
      have := length_readString hs
      simp only [Option.some.injEq, Prod.mk.injEq] at h
      obtain ⟨-, rfl⟩ := h; simp only [List.length_cons]; omega
    · simp at h
  · simp only [Option.some.injEq, Prod.mk.injEq] at h
    obtain ⟨-, rfl⟩ := h; simp only [List.length_cons]; omega
  · simp only [Option.some.injEq, Prod.mk.injEq] at h
    obtain ⟨-, rfl⟩ := h; simp only [List.length_cons]; omega
  · simp only [Option.some.injEq, Prod.mk.injEq] at h
    obtain ⟨-, rfl⟩ := h; simp only [List.length_cons]; omega
  · exact length_readNumber h

/-- Reads the key of a member and the colon behind it. -/
def readKey (bs : List UInt8) : Option (JsonString × List UInt8) :=
  match skipGap bs with
  | 0x22 :: rest =>
    match readString rest with
    | none => none
    | some (k, behind) =>
      match skipGap behind with
      | 0x3A :: r => some (k, r)
      | _ => none
  | _ => none

theorem length_readKey {bs rest : List UInt8} {k : JsonString}
    (h : readKey bs = some (k, rest)) : rest.length < bs.length := by
  have h0 := length_skipGap bs
  unfold readKey at h
  split at h
  · rename_i r he
    rw [he] at h0
    simp only [List.length_cons] at h0
    split at h
    · simp at h
    · rename_i behind hs
      have h1 := length_readString hs
      have h2 := length_skipGap behind
      split at h
      · rename_i r' he'
        rw [he'] at h2
        simp only [List.length_cons] at h2
        simp only [Option.some.injEq, Prod.mk.injEq] at h
        obtain ⟨-, rfl⟩ := h; omega
      · simp at h
  · simp at h

/-- An array or object whose end has not been read yet, its parts last first. -/
inductive Container where
  | items (read : List Json)
  /-- An object with the members so far and the key of the value to come. -/
  | members (read : List (JsonString × Json)) (key : JsonString)

/-- The reader's two situations: a value is to come, or one has been read. -/
inductive Situation where
  | expecting
  | having (v : Json)

/-- Where the reader stands after it has read one part more. -/
inductive Progress where
  /-- The text has ended behind its value. -/
  | finished (v : Json)
  /-- Within the containers `opened`, with the bytes `rest` still to read. -/
  | on (s : Situation) (opened : List Container) (rest : List UInt8)

/-- Reads the start of a value, or all of it if nothing can stand in it. -/
def enter (opened : List Container) : List UInt8 → Option Progress
  | 0x5B :: rest =>
    match skipGap rest with
    | 0x5D :: behind => some (.on (.having (.array [])) opened behind)
    | _ => some (.on .expecting (.items [] :: opened) rest)
  | 0x7B :: rest =>
    match skipGap rest with
    | 0x7D :: behind => some (.on (.having (.object [])) opened behind)
    | _ => (readKey rest).map fun r => .on .expecting (.members [] r.1 :: opened) r.2
  | start => (readScalar start).map fun r => .on (.having r.1) opened r.2

/-- Reads what stands behind a value. -/
def leave (v : Json) : List Container → List UInt8 → Option Progress
  | [], [] => some (.finished v)
  | .items read :: outer, 0x2C :: rest => some (.on .expecting (.items (v :: read) :: outer) rest)
  | .items read :: outer, 0x5D :: rest =>
    some (.on (.having (.array (v :: read).reverse)) outer rest)
  | .members read k :: outer, 0x2C :: rest =>
    (readKey rest).map fun r => .on .expecting (.members ((k, v) :: read) r.1 :: outer) r.2
  | .members read k :: outer, 0x7D :: rest =>
    some (.on (.having (.object ((k, v) :: read).reverse)) outer rest)
  | _, _ => none

/-- Reads one part more. -/
def advance (s : Situation) (opened : List Container) (bs : List UInt8) : Option Progress :=
  match s with
  | .expecting => enter opened (skipGap bs)
  | .having v => leave v opened (skipGap bs)

theorem length_enter {opened opened' : List Container} {bs rest : List UInt8} {s : Situation}
    (h : enter opened bs = some (.on s opened' rest)) : rest.length < bs.length := by
  unfold enter at h
  split at h
  · rename_i r
    have hr := length_skipGap r
    split at h
    · rename_i behind hb
      simp only [Option.some.injEq, Progress.on.injEq] at h
      rw [hb, List.length_cons] at hr
      rw [← h.2.2, List.length_cons]; omega
    · simp only [Option.some.injEq, Progress.on.injEq] at h
      rw [← h.2.2]; exact Nat.lt_succ_self _
  · rename_i r
    have hr := length_skipGap r
    split at h
    · rename_i behind hb
      simp only [Option.some.injEq, Progress.on.injEq] at h
      rw [hb, List.length_cons] at hr
      rw [← h.2.2, List.length_cons]; omega
    · obtain ⟨q, hk, hq⟩ := Option.map_eq_some_iff.1 h
      simp only [Progress.on.injEq] at hq
      have := length_readKey hk
      rw [← hq.2.2, List.length_cons]; omega
  · obtain ⟨q, hv, hq⟩ := Option.map_eq_some_iff.1 h
    simp only [Progress.on.injEq] at hq
    rw [← hq.2.2]; exact length_readScalar hv

theorem length_leave {v : Json} {opened opened' : List Container} {bs rest : List UInt8}
    {s : Situation} (h : leave v opened bs = some (.on s opened' rest)) :
    rest.length < bs.length := by
  unfold leave at h
  split at h
  · simp at h
  · simp only [Option.some.injEq, Progress.on.injEq] at h
    rw [← h.2.2]; exact Nat.lt_succ_self _
  · simp only [Option.some.injEq, Progress.on.injEq] at h
    rw [← h.2.2]; exact Nat.lt_succ_self _
  · obtain ⟨q, hk, hq⟩ := Option.map_eq_some_iff.1 h
    simp only [Progress.on.injEq] at hq
    have := length_readKey hk
    rw [← hq.2.2, List.length_cons]; omega
  · simp only [Option.some.injEq, Progress.on.injEq] at h
    rw [← h.2.2]; exact Nat.lt_succ_self _
  · simp at h

theorem length_advance {s s' : Situation} {opened opened' : List Container} {bs rest : List UInt8}
    (h : advance s opened bs = some (.on s' opened' rest)) : rest.length < bs.length := by
  have hg := length_skipGap bs
  cases s with
  | expecting => exact Nat.lt_of_lt_of_le (length_enter h) hg
  | having v => exact Nat.lt_of_lt_of_le (length_leave h) hg

/-- Reads on to the end of the text, within the containers `opened`. -/
def run (s : Situation) (opened : List Container) (bs : List UInt8) : Option Json :=
  match _h : advance s opened bs with
  | none => none
  | some (.finished v) => some v
  | some (.on s' opened' rest) => run s' opened' rest
termination_by bs.length
decreasing_by exact length_advance _h

theorem run_of_finished {s : Situation} {opened : List Container} {bs : List UInt8} {v : Json}
    (h : advance s opened bs = some (.finished v)) : run s opened bs = some v := by
  rw [run, h]

theorem run_of_on {s s' : Situation} {opened opened' : List Container} {bs rest : List UInt8}
    (h : advance s opened bs = some (.on s' opened' rest)) :
    run s opened bs = run s' opened' rest := by
  rw [run, h]

/-- The value that a text writes. -/
def parse (bs : List UInt8) : Option Json :=
  run .expecting [] bs

end ContestExchange.Json
