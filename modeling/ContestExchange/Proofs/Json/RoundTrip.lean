import ContestExchange.Json.Decoder

/-!
# Reading back what was written

The compact form of a value is a text, and `Json.parse` reads this value out of
it (`Plain.parse_write`).  It holds of the *plain* values: those without broken
strings, whose numbers are natural and whose keys are texts.  Everything that
the journal writes is of that kind.

The reader does not see where a value ends before it sees what stands behind, so
the statement for the induction speaks of the value with a rest behind it
(`Plain.run_write`).  The rest must not go on with a number: it is empty or
begins with what may stand behind a value in a container (`Ends`).
-/

namespace ContestExchange.Json

/-! ### Bytes of texts -/

theorem toList_loop (b : ByteArray) (i : Nat) (r : List UInt8) :
    ByteArray.toList.loop b i r = r.reverse ++ b.data.toList.drop i := by
  fun_induction ByteArray.toList.loop b i r with
  | case1 i r h ih =>
    have hi : i < b.data.toList.length := by simpa using h
    rw [ih, List.drop_eq_getElem_cons hi]
    simp [ByteArray.get!, getElem!_pos b.data i h]
  | case2 i r h =>
    have hi : b.data.toList.length ≤ i := by
      have h1 : b.size ≤ i := Nat.le_of_not_lt h
      simpa using h1
    rw [List.drop_eq_nil_of_le hi, List.append_nil]

theorem utf8_eq (s : String) : utf8 s = s.toByteArray.data.toList := by
  rw [utf8, ByteArray.toList, toList_loop]
  simp

theorem utf8_append (s t : String) : utf8 (s ++ t) = utf8 s ++ utf8 t := by
  simp [utf8_eq]

theorem fromUTF8?_utf8 (s : String) : String.fromUTF8? ⟨(utf8 s).toArray⟩ = some s := by
  rw [utf8_eq, Array.toArray_toList, String.fromUTF8?, dif_pos s.isValidUTF8]
  rfl

/-! ### Numbers -/

theorem utf8_toString_of_lt {n : Nat} (h : n < 10) :
    utf8 (toString n) = [0x30 + n.toUInt8] := by
  rw [utf8_eq]
  revert n; decide

theorem utf8_toString_of_ge {n : Nat} (h : 10 ≤ n) :
    utf8 (toString n) = utf8 (toString (n / 10)) ++ [0x30 + (n % 10).toUInt8] := by
  rw [← utf8_toString_of_lt (Nat.mod_lt n (by omega)), ← utf8_append]
  simp only [Nat.toString_eq_repr]
  rw [← Nat.repr_eq_repr_append_repr h]

theorem digitsValue_concat (l : List UInt8) (b : UInt8) :
    digitsValue (l ++ [b]) = digitsValue l * 10 + (b.toNat - 0x30) := by
  rw [digitsValue, List.foldl_append]; rfl

theorem toNat_digit {n : Nat} (h : n < 10) : (0x30 + n.toUInt8).toNat - 0x30 = n := by
  revert n; decide

theorem isDigitByte_digit {n : Nat} (h : n < 10) : isDigitByte (0x30 + n.toUInt8) = true := by
  revert n; decide

theorem digitsValue_toString (n : Nat) : digitsValue (utf8 (toString n)) = n := by
  induction n using Nat.strongRecOn with
  | ind n ih =>
    by_cases h : n < 10
    · rw [utf8_toString_of_lt h, ← List.nil_append [0x30 + n.toUInt8], digitsValue_concat,
        toNat_digit h]
      exact Nat.zero_add n
    · have hm : n % 10 < 10 := Nat.mod_lt n (by omega)
      rw [utf8_toString_of_ge (by omega), digitsValue_concat, ih (n / 10) (by omega),
        toNat_digit hm]
      omega

theorem isDigitByte_of_mem_toString (n : Nat) :
    ∀ b ∈ utf8 (toString n), isDigitByte b = true := by
  induction n using Nat.strongRecOn with
  | ind n ih =>
    by_cases h : n < 10
    · rw [utf8_toString_of_lt h]
      intro b hb
      rw [List.mem_singleton.1 hb]
      exact isDigitByte_digit h
    · rw [utf8_toString_of_ge (by omega)]
      intro b hb
      rcases List.mem_append.1 hb with hb | hb
      · exact ih (n / 10) (by omega) b hb
      · rw [List.mem_singleton.1 hb]
        exact isDigitByte_digit (Nat.mod_lt n (by omega))

theorem toString_head {n : Nat} (h : n ≠ 0) :
    ∃ b r, utf8 (toString n) = b :: r ∧ b ≠ 0x30 := by
  induction n using Nat.strongRecOn with
  | ind n ih =>
    by_cases hn : n < 10
    · have hd : ∀ m < 10, m ≠ 0 → 0x30 + m.toUInt8 ≠ 0x30 := by decide
      exact ⟨0x30 + n.toUInt8, [], utf8_toString_of_lt hn, hd n hn h⟩
    · obtain ⟨b, r, he, hb⟩ := ih (n / 10) (by omega) (by omega)
      exact ⟨b, r ++ [0x30 + (n % 10).toUInt8],
        by rw [utf8_toString_of_ge (by omega), he, List.cons_append], hb⟩

theorem toString_cons (n : Nat) : ∃ b r, utf8 (toString n) = b :: r ∧ isDigitByte b = true := by
  have hd := isDigitByte_of_mem_toString n
  by_cases hn : n = 0
  · subst hn
    exact ⟨0x30, [], utf8_toString_of_lt (by omega), rfl⟩
  · obtain ⟨b, r, he, -⟩ := toString_head hn
    rw [he] at hd
    exact ⟨b, r, he, hd b List.mem_cons_self⟩

theorem ne_of_isDigitByte {b c : UInt8} (hb : isDigitByte b = true) (hc : isDigitByte c = false) :
    b ≠ c := by
  rintro rfl
  rw [hb] at hc; cases hc

theorem isGap_of_isDigitByte {b : UInt8} (h : isDigitByte b = true) : isGap b = false := by
  simp only [isGap, Bool.or_eq_false_iff, beq_eq_false_iff_ne]
  exact ⟨⟨⟨ne_of_isDigitByte h rfl, ne_of_isDigitByte h rfl⟩, ne_of_isDigitByte h rfl⟩,
    ne_of_isDigitByte h rfl⟩

/-- What may stand behind a value: nothing, or what goes on or ends a container. -/
def Ends (bs : List UInt8) : Prop :=
  ∀ b ∈ bs.head?, b = 0x2C ∨ b = 0x5D ∨ b = 0x7D

theorem ends_nil : Ends [] := by
  intro b hb; cases hb

theorem ends_cons {b : UInt8} {r : List UInt8} (h : b = 0x2C ∨ b = 0x5D ∨ b = 0x7D) :
    Ends (b :: r) := by
  intro c hc
  cases hc
  exact h

theorem dropWhile_digits_append {ds rest : List UInt8} (hd : ∀ b ∈ ds, isDigitByte b = true)
    (hr : Ends rest) : (ds ++ rest).dropWhile isDigitByte = rest := by
  rw [List.dropWhile_append_of_pos hd]
  cases rest with
  | nil => rfl
  | cons b r =>
    have hb : isDigitByte b = false := by
      rcases hr b rfl with rfl | rfl | rfl <;> rfl
    rw [List.dropWhile_cons, hb]; rfl

theorem dropWhole_toString (n : Nat) {rest : List UInt8} (hr : Ends rest) :
    dropWhole (utf8 (toString n) ++ rest) = some rest := by
  by_cases hn : n = 0
  · subst hn
    rw [utf8_toString_of_lt (by omega)]
    rfl
  · obtain ⟨b, r, he, hb⟩ := toString_head hn
    have hd := isDigitByte_of_mem_toString n
    rw [he] at hd ⊢
    have hb' : isDigitByte b = true := hd b List.mem_cons_self
    rw [List.cons_append, dropWhole, if_pos hb',
      dropWhile_digits_append (fun c hc => hd c (List.mem_cons_of_mem b hc)) hr]
    exact hb

theorem dropFraction_of_ends {rest : List UInt8} (hr : Ends rest) :
    dropFraction rest = some rest := by
  cases rest with
  | nil => rfl
  | cons b r => rcases hr b rfl with rfl | rfl | rfl <;> rfl

theorem dropExponent_of_ends {rest : List UInt8} (hr : Ends rest) :
    dropExponent rest = some rest := by
  cases rest with
  | nil => rfl
  | cons b r => rcases hr b rfl with rfl | rfl | rfl <;> rfl

/-- A number is read back from its digits. -/
theorem readNumber_toString (n : Nat) {rest : List UInt8} (hr : Ends rest) :
    readNumber (utf8 (toString n) ++ rest) = some (.natural n, rest) := by
  have hm : dropMinus (utf8 (toString n) ++ rest) = utf8 (toString n) ++ rest := by
    obtain ⟨b, r, he, hb⟩ := toString_cons n
    rw [he, List.cons_append, dropMinus]
    exact fun _ he => ne_of_isDigitByte hb rfl (List.cons.inj he).1
  have ht : (utf8 (toString n) ++ rest).take ((utf8 (toString n) ++ rest).length - rest.length) =
      utf8 (toString n) := by
    rw [List.length_append, Nat.add_sub_cancel, List.take_left]
  rw [readNumber, hm, dropWhole_toString n hr]
  simp only [dropFraction_of_ends hr, Option.bind_some, dropExponent_of_ends hr, beq_self_eq_true,
    Bool.and_self, if_true]
  rw [ht, digitsValue_toString]

/-! ### Strings -/

theorem hexNumber?_hexDigit {n : Nat} (h : n < 32) :
    hexNumber? 0x30 0x30 (hexDigit (n.toUInt8 / 16)) (hexDigit (n.toUInt8 % 16)) = some n := by
  revert n; decide

theorem utf8EncodeChar_control {n : Nat} (h : n < 32) :
    String.utf8EncodeChar (Char.ofNat n) = [n.toUInt8] := by
  revert n; decide

/-- How a byte is escaped: by one letter, by its number, or not at all. -/
theorem escapeByte_cases (b : UInt8) :
    (∃ e, escaped? e = some b ∧ e ≠ 0x75 ∧ escapeByte b = [0x5C, e]) ∨
    (∃ n < 32, b = n.toUInt8 ∧ escapeByte b =
      [0x5C, 0x75, 0x30, 0x30, hexDigit (n.toUInt8 / 16), hexDigit (n.toUInt8 % 16)]) ∨
    (¬b < 0x20 ∧ b ≠ 0x22 ∧ b ≠ 0x5C ∧ escapeByte b = [b]) := by
  unfold escapeByte
  simp only [utf8_eq]
  split
  · subst b; exact .inl ⟨0x22, rfl, by decide, rfl⟩
  split
  · subst b; exact .inl ⟨0x5C, rfl, by decide, rfl⟩
  split
  · subst b; exact .inl ⟨0x62, rfl, by decide, rfl⟩
  split
  · subst b; exact .inl ⟨0x74, rfl, by decide, rfl⟩
  split
  · subst b; exact .inl ⟨0x6E, rfl, by decide, rfl⟩
  split
  · subst b; exact .inl ⟨0x66, rfl, by decide, rfl⟩
  split
  · subst b; exact .inl ⟨0x72, rfl, by decide, rfl⟩
  split
  · rename_i hc
    have hb : b.toNat < 32 := UInt8.lt_iff_toNat_lt.1 hc
    refine .inr (.inl ⟨b.toNat, hb, by simp, ?_⟩)
    simp
    rfl
  · rename_i hq hs _ _ _ _ _ hc
    exact .inr (.inr ⟨hc, hq, hs, rfl⟩)

theorem pieceBytes_control {n : Nat} (hn : n < 32) {ps : List Piece} {bs : List UInt8}
    (h : pieceBytes ps = some bs) : pieceBytes (.unit n :: ps) = some (n.toUInt8 :: bs) := by
  have h1 : (decide (0xD800 ≤ n) && decide (n < 0xDC00)) = false := by
    simp only [Bool.and_eq_false_iff, decide_eq_false_iff_not]; omega
  have h2 : (decide (0xDC00 ≤ n) && decide (n < 0xE000)) = false := by
    simp only [Bool.and_eq_false_iff, decide_eq_false_iff_not]; omega
  rw [pieceBytes.eq_def]
  simp only [h1, h2, h, utf8EncodeChar_control hn]
  rfl

/-- An escaped byte is read as one piece, and this piece stands for it. -/
theorem exists_piece (b : UInt8) {r behind bs : List UInt8} {ps : List Piece}
    (hr : readPieces r = some (ps, behind)) (hp : pieceBytes ps = some bs) :
    ∃ p, readPieces (escapeByte b ++ r) = some (p :: ps, behind) ∧
      pieceBytes (p :: ps) = some (b :: bs) := by
  have hb : pieceBytes (.byte b :: ps) = some (b :: bs) := by
    rw [pieceBytes, hp]; rfl
  rcases escapeByte_cases b with ⟨e, he, hu, hw⟩ | ⟨n, hn, rfl, hw⟩ | ⟨hc, hq, hs, hw⟩
  · refine ⟨.byte b, ?_, hb⟩
    rw [hw, List.cons_append, List.cons_append, List.nil_append, readPieces, he, hr]
    intro a b' c d r' hr' _
    exact hu hr'
  · refine ⟨.unit n, ?_, pieceBytes_control hn hp⟩
    rw [hw]
    simp only [List.cons_append, List.nil_append]
    rw [readPieces, hexNumber?_hexDigit hn, hr]
  · refine ⟨.byte b, ?_, hb⟩
    rw [hw, List.cons_append, List.nil_append, readPieces, hr]
    · simp [hc, hs]
    · exact hq
    · exact fun _ _ _ _ _ he _ => hs he
    · exact fun _ _ he _ => hs he

theorem exists_pieces (bs rest : List UInt8) :
    ∃ ps, readPieces (bs.flatMap escapeByte ++ 0x22 :: rest) = some (ps, rest) ∧
      pieceBytes ps = some bs := by
  induction bs with
  | nil => exact ⟨[], by rw [List.flatMap_nil, List.nil_append, readPieces], by rw [pieceBytes]⟩
  | cons b bs ih =>
    obtain ⟨ps, hr, hp⟩ := ih
    obtain ⟨p, hr', hp'⟩ := exists_piece b hr hp
    exact ⟨p :: ps, by rw [List.flatMap_cons, List.append_assoc, hr'], hp'⟩

/-- A text is read back from what is written between its quotes. -/
theorem readString_escaped (s : String) (rest : List UInt8) :
    readString ((utf8 s).flatMap escapeByte ++ 0x22 :: rest) = some (.text s, rest) := by
  obtain ⟨ps, hr, hp⟩ := exists_pieces (utf8 s) rest
  have ht : piecesText? ps = some s := by
    rw [piecesText?, hp, Option.bind_some, fromUTF8?_utf8]
  rw [readString, hr]
  simp only [ht]

theorem skipGap_cons {b : UInt8} (h : isGap b = false) (r : List UInt8) :
    skipGap (b :: r) = b :: r := by
  rw [skipGap, List.dropWhile_cons, h]; rfl

theorem readKey_writeString (k : String) (rest : List UInt8) :
    readKey (writeString (.text k) ++ 0x3A :: rest) = some (.text k, rest) := by
  have hw : writeString (.text k) ++ 0x3A :: rest =
      0x22 :: ((utf8 k).flatMap escapeByte ++ 0x22 :: 0x3A :: rest) := by
    simp [writeString]
  rw [hw, readKey, skipGap_cons rfl]
  simp only [readString_escaped, skipGap_cons (show isGap 0x3A = false from rfl)]

/-! ### Values -/

/-- A value without broken strings and without numbers other than natural ones. -/
inductive Plain : Json → Prop
  | null : Plain .null
  | bool (b : Bool) : Plain (.bool b)
  | natural (n : Nat) : Plain (.natural n)
  | text (s : String) : Plain (.text s)
  | array (items : List Json) (h : ∀ v ∈ items, Plain v) : Plain (.array items)
  | record (members : List (String × Json)) (h : ∀ m ∈ members, Plain m.2) :
    Plain (.record members)

/-- A value starts with a byte that neither is a blank nor ends an array. -/
theorem Plain.write_head {v : Json} (h : Plain v) :
    ∃ b r, write v = b :: r ∧ isGap b = false ∧ b ≠ 0x5D := by
  cases h with
  | null => exact ⟨0x6E, _, by rw [write, utf8_eq]; rfl, rfl, by decide⟩
  | bool b =>
    cases b with
    | false => exact ⟨0x66, _, by rw [write, utf8_eq]; rfl, rfl, by decide⟩
    | true => exact ⟨0x74, _, by rw [write, utf8_eq]; rfl, rfl, by decide⟩
  | natural n =>
    obtain ⟨b, r, he, hb⟩ := toString_cons n
    exact ⟨b, r, by rw [write, he], isGap_of_isDigitByte hb, ne_of_isDigitByte hb rfl⟩
  | text s =>
    exact ⟨0x22, _, by rw [Json.text, write, writeString, List.cons_append], rfl, by decide⟩
  | array items => exact ⟨0x5B, _, by rw [write, List.cons_append], rfl, by decide⟩
  | record members =>
    exact ⟨0x7B, _, by rw [Json.record, write, List.cons_append], rfl, by decide⟩

theorem run_of_readScalar {bs rest : List UInt8} {v : Json} {b : UInt8} {r : List UInt8}
    (hb : bs = b :: r) (hg : isGap b = false) (ha : b ≠ 0x5B) (ho : b ≠ 0x7B)
    (h : readScalar bs = some (v, rest)) (opened : List Container) :
    run .expecting opened bs = run (.having v) opened rest := by
  subst hb
  apply run_of_on
  rw [advance, skipGap_cons hg, enter, h]
  · rfl
  · exact fun r' hr' => ha (List.cons.inj hr').1
  · exact fun r' hr' => ho (List.cons.inj hr').1

theorem readScalar_toString (n : Nat) {rest : List UInt8} (hr : Ends rest) :
    readScalar (utf8 (toString n) ++ rest) = some (.natural n, rest) := by
  have h := readNumber_toString n hr
  obtain ⟨b, r, he, hb⟩ := toString_cons n
  rw [he, List.cons_append] at h ⊢
  have hne : ∀ {c l}, isDigitByte c = false → b :: (r ++ rest) ≠ c :: l := by
    intro c l hc he
    exact ne_of_isDigitByte hb hc (List.cons.inj he).1
  rw [readScalar, h]
  · exact fun _ => hne rfl
  · exact fun _ => hne rfl
  · exact fun _ => hne rfl
  · exact fun _ => hne rfl

/-- What is read in front of a value or a key, up to where it begins. -/
theorem run_having {v : Json} {opened opened' : List Container} {b : UInt8} {r rest : List UInt8}
    {s : Situation} (hg : isGap b = false)
    (h : leave v opened (b :: r) = some (.on s opened' rest)) :
    run (.having v) opened (b :: r) = run s opened' rest := by
  apply run_of_on
  rw [advance, skipGap_cons hg, h]

theorem run_items (items : List Json) (hne : items ≠ [])
    (ih : ∀ v ∈ items, ∀ opened rest, Ends rest →
      run .expecting opened (write v ++ rest) = run (.having v) opened rest) :
    ∀ read opened rest,
      run .expecting (.items read :: opened) (writeItems items ++ 0x5D :: rest) =
        run (.having (.array (read.reverse ++ items))) opened rest := by
  induction items with
  | nil => exact absurd rfl hne
  | cons v r ihr =>
    intro read opened rest
    cases r with
    | nil =>
      rw [writeItems, ih v List.mem_cons_self _ _ (ends_cons (.inr (.inl rfl))),
        run_having rfl (by rw [leave]), List.reverse_cons]
    | cons w r =>
      rw [writeItems, List.append_assoc, List.cons_append,
        ih v List.mem_cons_self _ _ (ends_cons (.inl rfl)), run_having rfl (by rw [leave]),
        ihr (List.cons_ne_nil w r) (fun u hu => ih u (List.mem_cons_of_mem v hu)),
        List.reverse_cons, List.append_assoc, List.singleton_append]

theorem run_members (m : String × Json) (members : List (String × Json)) (rest : List UInt8)
    (ih : ∀ q ∈ m :: members, ∀ opened rest, Ends rest →
      run .expecting opened (write q.2 ++ rest) = run (.having q.2) opened rest) :
    ∃ behind,
      readKey (writeMembers ((m :: members).map fun q => (.text q.1, q.2)) ++ 0x7D :: rest) =
        some (.text m.1, behind) ∧
      ∀ read opened, run .expecting (.members read (.text m.1) :: opened) behind =
        run (.having (.object (read.reverse ++ (m :: members).map fun q => (.text q.1, q.2))))
          opened rest := by
  induction members generalizing m with
  | nil =>
    refine ⟨write m.2 ++ 0x7D :: rest, ?_, fun read opened => ?_⟩
    · rw [List.map_singleton, writeMembers, List.append_assoc, List.cons_append,
        readKey_writeString]
    · rw [ih m List.mem_cons_self _ _ (ends_cons (.inr (.inr rfl))),
        run_having rfl (by rw [leave]), List.reverse_cons, List.map_singleton]
  | cons q r ihr =>
    obtain ⟨behind, hk, hrun⟩ := ihr q fun u hu => ih u (List.mem_cons_of_mem m hu)
    rw [List.map_cons] at hk
    refine ⟨write m.2 ++ 0x2C :: (writeMembers ((q :: r).map fun q => (.text q.1, q.2)) ++
      0x7D :: rest), ?_, fun read opened => ?_⟩
    · rw [List.map_cons, List.map_cons, writeMembers]
      simp only [List.append_assoc, List.cons_append, readKey_writeString]
    · rw [ih m List.mem_cons_self _ _ (ends_cons (.inl rfl)), List.map_cons,
        run_having rfl (by rw [leave, hk]; rfl), hrun, List.reverse_cons, List.append_assoc,
        List.singleton_append]
      rfl

theorem writeItems_head (v : Json) (items : List Json) (h : Plain v) :
    ∃ b r, writeItems (v :: items) = b :: r ∧ isGap b = false ∧ b ≠ 0x5D := by
  obtain ⟨b, r, he, hb⟩ := h.write_head
  cases items with
  | nil => exact ⟨b, r, by rw [writeItems, he], hb⟩
  | cons w l =>
    exact ⟨b, r ++ 0x2C :: writeItems (w :: l), by rw [writeItems, he, List.cons_append], hb⟩

theorem writeMembers_head (k : String) (v : Json) (members : List (JsonString × Json)) :
    ∃ r, writeMembers ((.text k, v) :: members) = 0x22 :: r := by
  cases members with
  | nil => exact ⟨_, by rw [writeMembers, writeString, List.cons_append, List.cons_append]⟩
  | cons m l => exact ⟨_, by rw [writeMembers, writeString, List.cons_append, List.cons_append]⟩

theorem run_enter_array {b : UInt8} {r : List UInt8} (hg : isGap b = false) (hb : b ≠ 0x5D)
    (opened : List Container) :
    run .expecting opened (0x5B :: b :: r) = run .expecting (.items [] :: opened) (b :: r) := by
  apply run_of_on
  rw [advance, skipGap_cons rfl, enter, skipGap_cons hg]
  split
  · rename_i he
    exact absurd (List.cons.inj he).1 hb
  · rfl

theorem run_enter_object {b : UInt8} {r behind : List UInt8} {k : JsonString}
    (hg : isGap b = false) (hb : b ≠ 0x7D) (hk : readKey (b :: r) = some (k, behind))
    (opened : List Container) :
    run .expecting opened (0x7B :: b :: r) = run .expecting (.members [] k :: opened) behind := by
  apply run_of_on
  rw [advance, skipGap_cons rfl, enter, skipGap_cons hg]
  split
  · rename_i he
    exact absurd (List.cons.inj he).1 hb
  · rw [hk]; rfl

/-- **What is written is read back**, whatever stands around it. -/
theorem Plain.run_write {v : Json} (h : Plain v) : ∀ opened rest, Ends rest →
    run .expecting opened (write v ++ rest) = run (.having v) opened rest := by
  induction h with
  | null =>
    intro opened rest hr
    exact run_of_readScalar (b := 0x6E) (by rw [write, utf8_eq]; rfl) rfl (by decide) (by decide)
      (by rw [write, utf8_eq]; rfl) opened
  | bool b =>
    intro opened rest hr
    cases b with
    | false =>
      exact run_of_readScalar (b := 0x66) (by rw [write, utf8_eq]; rfl) rfl (by decide) (by decide)
        (by rw [write, utf8_eq]; rfl) opened
    | true =>
      exact run_of_readScalar (b := 0x74) (by rw [write, utf8_eq]; rfl) rfl (by decide) (by decide)
        (by rw [write, utf8_eq]; rfl) opened
  | natural n =>
    intro opened rest hr
    rw [write]
    obtain ⟨b, r, he, hb⟩ := toString_cons n
    exact run_of_readScalar (by rw [he, List.cons_append]) (isGap_of_isDigitByte hb)
      (ne_of_isDigitByte hb rfl) (ne_of_isDigitByte hb rfl) (readScalar_toString n hr) opened
  | text s =>
    intro opened rest hr
    have hw : write (.text s) ++ rest = 0x22 :: ((utf8 s).flatMap escapeByte ++ 0x22 :: rest) := by
      simp [Json.text, write, writeString]
    exact run_of_readScalar hw rfl (by decide) (by decide)
      (by rw [hw, readScalar, readString_escaped]; rfl) opened
  | array items h ih =>
    intro opened rest hr
    rw [write, List.append_assoc, List.cons_append, List.singleton_append]
    cases items with
    | nil => exact run_of_on rfl
    | cons v r =>
      have hrun := run_items (v :: r) (List.cons_ne_nil v r) ih [] opened rest
      obtain ⟨b, bs, he, hg, hb⟩ := writeItems_head v r (h v List.mem_cons_self)
      rw [he, List.cons_append] at hrun ⊢
      rw [run_enter_array hg hb opened, hrun]
      rfl
  | record members h ih =>
    intro opened rest hr
    rw [Json.record, write, List.append_assoc, List.cons_append, List.singleton_append]
    cases members with
    | nil => exact run_of_on rfl
    | cons m r =>
      obtain ⟨behind, hk, hrun⟩ := run_members m r rest ih
      obtain ⟨bs, he⟩ := writeMembers_head m.1 m.2 (r.map fun q => (.text q.1, q.2))
      rw [List.map_cons, he, List.cons_append] at hk
      rw [List.map_cons, he, List.cons_append]
      rw [run_enter_object rfl (by decide) hk opened, hrun, List.map_cons]
      rfl

/-- **A plain value is read back from its compact form.** -/
theorem Plain.parse_write {v : Json} (h : Plain v) : parse (write v) = some v := by
  have hrun := h.run_write [] [] ends_nil
  rw [List.append_nil] at hrun
  rw [parse, hrun]
  exact run_of_finished rfl

/-! ### Plain values of some kinds -/

section
variable {α : Type} {f : α → Json}

theorem Plain.list (h : ∀ a, Plain (f a)) (l : List α) : Plain (.array (l.map f)) := by
  refine .array _ fun v hv => ?_
  obtain ⟨a, -, rfl⟩ := List.mem_map.1 hv
  exact h a

theorem Plain.ofOption (h : ∀ a, Plain (f a)) (a? : Option α) : Plain (.ofOption f a?) := by
  cases a? with
  | none => exact .null
  | some a => exact h a

theorem Plain.dictionary (h : ∀ a, Plain (f a)) (d : Dictionary String α) :
    Plain (.record (d.entries.map fun e => (e.1, f e.2))) := by
  refine .record _ fun m hm => ?_
  obtain ⟨e, -, rfl⟩ := List.mem_map.1 hm
  exact h e.2

/-! ### Decoders of some kinds -/

variable {d : Decoder α}

theorem list?_map (h : ∀ a, d (f a) = some a) (l : List α) :
    list? d (.array (l.map f)) = some l := by
  rw [list?]
  induction l with
  | nil => rfl
  | cons a r ih => rw [List.map_cons, List.mapM_cons, h, ih]; rfl

theorem text?_text (s : String) : text? (.text s) = some s := rfl

theorem list?_texts (l : List String) : list? text? (.texts l) = some l :=
  list?_map text?_text l

theorem nullable?_text (s? : Option String) : nullable? text? (.ofOption .text s?) = some s? := by
  cases s? <;> rfl

/-- Binds the key of a member to the value that is read of it. -/
def bind? (d : Decoder α) (dict : Dictionary String α) (m : JsonString × Json) :
    Option (Dictionary String α) :=
  match m.1, d m.2 with
  | .text k, some a => some (dict.put k a)
  | _, _ => none

theorem dictionary?_object (d : Decoder α) (members : List (JsonString × Json)) :
    dictionary? d (.object members) = members.foldlM (bind? d) .empty := rfl

theorem bind?_text {k : String} {v : Json} {a : α} (h : d v = some a) (dict : Dictionary String α) :
    bind? d dict (.text k, v) = some (dict.put k a) := by
  simp only [bind?, h]

theorem bind?_eq_some {dict dict' : Dictionary String α} {m : JsonString × Json}
    (h : bind? d dict m = some dict') : ∃ k a, d m.2 = some a ∧ dict' = dict.put k a := by
  rw [bind?] at h
  split at h
  · rename_i k a hk ha
    exact ⟨k, a, ha, (Option.some.inj h).symm⟩
  · cases h

/-- **The bindings of a dictionary are read back in their order.** -/
theorem dictionary?_record (dict : Dictionary String α)
    (h : ∀ e ∈ dict.entries, d (f e.2) = some e.2) :
    dictionary? d (.record (dict.entries.map fun e => (e.1, f e.2))) = some dict := by
  -- No key of the bindings left is bound yet, so each of them goes to the end.
  suffices hgo : ∀ (l : List (String × α)) (got : Dictionary String α),
      got.entries ++ l = dict.entries →
      (l.map fun e => (JsonString.text e.1, f e.2)).foldlM (bind? d) got = some dict by
    rw [record, List.map_map, dictionary?_object]
    exact hgo dict.entries .empty rfl
  intro l
  induction l with
  | nil =>
    intro got hgot
    rw [List.append_nil] at hgot
    exact congrArg some (Dictionary.ext hgot)
  | cons e r ih =>
    intro got hgot
    have hnew : e.1 ∉ got.keys := by
      have hn := dict.nodup
      rw [← hgot, List.map_append, List.nodup_append] at hn
      exact fun hk => hn.2.2 e.1 hk e.1 (by simp) rfl
    have hd : d (f e.2) = some e.2 := h e (hgot ▸ List.mem_append_right _ List.mem_cons_self)
    rw [List.map_cons, List.foldlM_cons, bind?_text hd]
    refine ih (got.put e.1 e.2) ?_
    rw [Dictionary.entries_put_of_notMem _ hnew, ← hgot, List.append_assoc]
    rfl

/-- What holds of all that is read as a value holds of the values of a dictionary. -/
theorem forall_of_dictionary? {P : α → Prop} (hd : ∀ w a, d w = some a → P a) {v : Json}
    {dict : Dictionary String α} (h : dictionary? d v = some dict) : ∀ e ∈ dict.entries, P e.2 := by
  have hgo : ∀ (members : List (JsonString × Json)) (got : Dictionary String α),
      (∀ e ∈ got.entries, P e.2) → members.foldlM (bind? d) got = some dict →
      ∀ e ∈ dict.entries, P e.2 := by
    intro members
    induction members with
    | nil =>
      intro got hgot h
      obtain rfl := Option.some.inj h
      exact hgot
    | cons m r ih =>
      intro got hgot h
      obtain ⟨got', hm, hr⟩ := Option.bind_eq_some_iff.1 h
      obtain ⟨k, a, ha, rfl⟩ := bind?_eq_some hm
      refine ih (got.put k a) (fun e he => ?_) hr
      rw [Dictionary.mem_entries_iff, Dictionary.get?_put] at he
      split at he
      · exact Option.some.inj he ▸ hd m.2 a ha
      · exact hgot e ((Dictionary.mem_entries_iff got e.1 e.2).2 he)
  cases v with
  | object members => exact hgo members .empty (fun e he => absurd he List.not_mem_nil) h
  | _ => cases h

end

theorem Plain.decodeBytes?_write {α : Type} {d : Decoder α} {v : Json} {a : α} (h : Plain v)
    (hd : d v = some a) : decodeBytes? d (write v) = some a := by
  rw [decodeBytes?, h.parse_write, Option.bind_some, hd]

end ContestExchange.Json
