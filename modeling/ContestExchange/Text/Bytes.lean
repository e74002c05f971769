/-!
# Texts in bytes

Some lengths are counted in bytes of UTF-8, where a character takes one to four.  The
first `n` bytes of a text are a text themselves only if no character is cut there, and
then they are one of its beginnings (`firstBytes?_eq_some_iff`).
-/

namespace ContestExchange.Text

theorem utf8ByteSize_cons (c : Char) (cs : List Char) :
    (String.ofList (c :: cs)).utf8ByteSize = c.utf8Size + (String.ofList cs).utf8ByteSize := by
  rw [String.ofList_cons, String.utf8ByteSize_append, String.utf8ByteSize_singleton]

/-- The characters in the first `n` bytes, if there are so many and they end with a character. -/
def firstBytes? : (n : Nat) → List Char → Option (List Char)
  | 0, _ => some []
  | _ + 1, [] => none
  | n + 1, c :: cs =>
    if c.utf8Size ≤ n + 1 then (firstBytes? (n + 1 - c.utf8Size) cs).map (c :: ·) else none

theorem utf8ByteSize_eq_zero {cs : List Char} (h : (String.ofList cs).utf8ByteSize = 0) :
    cs = [] := by
  cases cs with
  | nil => rfl
  | cons c r =>
    have hpos := c.utf8Size_pos
    rw [utf8ByteSize_cons] at h
    omega

/-- **The first bytes are the beginning that takes so many.** -/
theorem firstBytes?_eq_some_iff {n : Nat} {cs p : List Char} :
    firstBytes? n cs = some p ↔ p <+: cs ∧ (String.ofList p).utf8ByteSize = n := by
  fun_induction firstBytes? n cs generalizing p with
  | case1 cs =>
    constructor
    · rintro ⟨⟩
      exact ⟨List.nil_prefix, rfl⟩
    · rintro ⟨-, hp⟩
      rw [utf8ByteSize_eq_zero hp]
  | case2 n =>
    refine iff_of_false nofun ?_
    rintro ⟨hp, hn⟩
    rw [List.prefix_nil.1 hp] at hn
    cases hn
  | case3 n c cs hc ih =>
    rw [Option.map_eq_some_iff]
    constructor
    · rintro ⟨q, hq, rfl⟩
      obtain ⟨hbegins, hsize⟩ := ih.1 hq
      refine ⟨List.cons_prefix_cons.2 ⟨rfl, hbegins⟩, ?_⟩
      rw [utf8ByteSize_cons, hsize]
      omega
    · rintro ⟨hbegins, hsize⟩
      cases p with
      | nil => cases hsize
      | cons d q =>
        obtain ⟨rfl, hq⟩ := List.cons_prefix_cons.1 hbegins
        rw [utf8ByteSize_cons] at hsize
        exact ⟨q, ih.2 ⟨hq, by omega⟩, rfl⟩
  | case4 n c cs hc =>
    refine iff_of_false nofun ?_
    rintro ⟨hbegins, hsize⟩
    cases p with
    | nil => cases hsize
    | cons d q =>
      obtain ⟨rfl, -⟩ := List.cons_prefix_cons.1 hbegins
      rw [utf8ByteSize_cons] at hsize
      omega

end ContestExchange.Text
