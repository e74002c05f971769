import Mathlib.Data.List.TakeWhile
import ContestExchange.Pattern.Bracket

/-!
# Reading in front of a closing text

When a pattern text is put in front of `)$`, its readers could read on into what
stands behind.  Each of them is *local* (`Local`): as long as it leaves the closing
text alone, it reads what it would read with nothing behind, and leaves the same rest.

Three readers look ahead.  A dash in a bracket means the same with a closing text in
sight as with nothing (`Closing.endsItem_append`), and so does a name in a bracket
(`Closing.readNamed_append`).  After `\b` the look ahead does tell the two apart:
a brace with nothing behind is an error, and in front of a closing text it is left
alone.  It is then an error for the next reader, so this rest is set apart (`LeftBrace`).
-/

namespace ContestExchange.Pattern

open Text (isBlank)

/-- A text of closing parentheses and dollar signs. -/
structure Closing (t : List Char) : Prop where
  ne_nil : t ≠ []
  mem : ∀ c ∈ t, c = ')' ∨ c = '$'

/-- What is left of a text is a brace, which begins a count, and nothing behind it. -/
def LeftBrace (f : Flags) (rest : List Char) : Prop :=
  ∃ r, rest = '{' :: r ∧ f.skip r = []

/-- A reader that reads the same with the text `t` behind and without it, as long as it
leaves `t` alone. -/
def Local {α : Type} (t : List Char) (F : List Char → Except Error (α × List Char)) : Prop :=
  ∀ ⦃cs rest' : List Char⦄ ⦃x : α⦄, F (cs ++ t) = .ok (x, rest') → t.length ≤ rest'.length →
    ∃ rest, rest' = rest ++ t ∧ F cs = .ok (x, rest)

/-- What stops in the same place has gone through the same text. -/
theorem takeWhile_append_of_dropWhile_append {p : Char → Bool} {cs t : List Char}
    (h : (cs ++ t).dropWhile p = cs.dropWhile p ++ t) :
    (cs ++ t).takeWhile p = cs.takeWhile p := by
  have happend := List.takeWhile_append_dropWhile (p := p) (l := cs ++ t)
  rw [h, ← List.append_assoc, List.append_left_inj] at happend
  exact List.append_cancel_right (happend.trans List.takeWhile_append_dropWhile.symm)

/-! ### Items of brackets -/

/-- Whether an item of a bracket ends in front of a dash with the given text behind. -/
def endsItem (f : Flags) (behind : List Char) : Bool :=
  f.glance behind == some ']' || f.glance behind == some '-'

/-- How an item of a bracket goes on behind its first character or escape. -/
inductive ItemRest (f : Flags) (first : Atom) (r : List Char) : CharSet → List Char → Prop
  | alone {s : CharSet} (hs : first.item? f = .ok s) (hr : ∀ behind, f.skip r ≠ '-' :: behind) :
    ItemRest f first r s (f.skip r)
  | dash {s : CharSet} {behind : List Char} (hs : first.item? f = .ok s)
    (hr : f.skip r = '-' :: behind) (hends : endsItem f behind = true) :
    ItemRest f first r s ('-' :: behind)
  | range {behind v rest : List Char} {d lo hi : Char} {last : Atom}
    (hr : f.skip r = '-' :: behind) (hends : endsItem f behind = false)
    (hd : f.skip behind = d :: v) (hlast : readBracketAtom f d v = .ok (last, rest))
    (hlo : first.bound? f = .ok lo) (hhi : last.bound? f = .ok hi) (hle : lo ≤ hi) :
    ItemRest f first r (.range lo hi) rest

section Items

variable {f : Flags} {first : Atom} {r rest : List Char} {s : CharSet}

/-- **An item of a bracket** is a character or an escape and what goes on behind it. -/
theorem readItem_eq_ok_iff {c : Char} {cs : List Char} : readItem f c cs = .ok (s, rest) ↔
    ∃ first r, readBracketAtom f c cs = .ok (first, r) ∧ ItemRest f first r s rest := by
  constructor
  · intro h
    rw [readItem] at h
    split at h
    · cases h
    next first r ha =>
    refine ⟨first, r, ha, ?_⟩
    simp only at h
    split at h
    · next behind hr =>
      split at h
      · next hends =>
        split at h
        · cases h
        · next u hu =>
          cases h
          exact .dash hu hr hends
      · next hends =>
        split at h
        · cases h
        next d v hd =>
        split at h
        · cases h
        next last w hlast =>
        split at h
        · cases h
        · cases h
        next lo hi hlo hhi =>
        split at h
        · next hle =>
          cases h
          exact .range hr (Bool.eq_false_iff.2 hends) hd hlast hlo hhi hle
        · cases h
    · next hr =>
      split at h
      · cases h
      · next u hu =>
        cases h
        exact .alone hu hr
  · rintro ⟨first, r, ha, hrest⟩
    rw [readItem, ha]
    cases hrest with
    | alone hs hr =>
      simp only [hs]
    | dash hs hr hends =>
      rw [endsItem] at hends
      simp only [hr, hs, hends, if_true]
    | range hr hends hd hlast hlo hhi hle =>
      rw [endsItem] at hends
      simp only [hr, hends, hd, hlast, hlo, hhi, if_pos hle, Bool.false_eq_true, if_false]

namespace ItemRest

theorem length_le (h : ItemRest f first r s rest) : rest.length ≤ (f.skip r).length := by
  cases h with
  | alone => exact Nat.le_refl _
  | dash hs hr => exact Nat.le_of_eq (congrArg List.length hr.symm)
  | @range behind v _ d _ _ _ hr _ hd hlast =>
    have hskip := Nat.le_trans (length_readBracketAtom hlast) (Nat.le_of_lt (length_of_skip hd))
    rw [hr]
    exact Nat.le_succ_of_le hskip

theorem ne_anchor (h : ItemRest f first r s rest) (b : Anchor) : first ≠ .anchor b := by
  rintro rfl
  cases h with
  | alone hs => cases hs
  | dash hs => cases hs
  | range _ _ _ _ hlo => cases hlo

end ItemRest

end Items

namespace Closing

variable {t : List Char}

theorem exists_cons (ht : Closing t) : ∃ d r, t = d :: r ∧ (d = ')' ∨ d = '$') := by
  cases t with
  | nil => exact absurd rfl ht.ne_nil
  | cons d r => exact ⟨d, r, rfl, ht.mem d List.mem_cons_self⟩

theorem length_pos (ht : Closing t) : 0 < t.length :=
  List.length_pos_iff.2 ht.ne_nil

/-- A text that goes on with any other character goes on before its end. -/
theorem exists_of_append_eq_cons (ht : Closing t) {c : Char} {s w : List Char}
    (h : s ++ t = c :: w) (hc : c ≠ ')' ∧ c ≠ '$') : ∃ s', s = c :: s' ∧ w = s' ++ t := by
  cases s with
  | nil =>
    have hmem := ht.mem c (by rw [List.nil_append] at h; rw [h]; exact List.mem_cons_self)
    exact absurd hmem (by simp [hc])
  | cons a s =>
    rw [List.cons_append, List.cons.injEq] at h
    exact ⟨s, by rw [h.1], h.2.symm⟩

/-- What stops at a closing character never runs into the closing text. -/
theorem dropWhile_append (ht : Closing t) {p : Char → Bool} (hp : p ')' = false ∧ p '$' = false)
    (cs : List Char) : (cs ++ t).dropWhile p = cs.dropWhile p ++ t := by
  rw [List.dropWhile_append]
  split
  · next h =>
    obtain ⟨d, r, rfl, hd⟩ := ht.exists_cons
    rw [List.isEmpty_iff.1 h, List.nil_append, List.dropWhile_cons_of_neg]
    rcases hd with rfl | rfl <;> simp [hp]
  · rfl

/-! ### Blanks and comments -/

theorem skipVerbose_append (ht : Closing t) (b : Bool) (cs : List Char) :
    skipVerbose b (cs ++ t) = skipVerbose b cs ++ t ∨ skipVerbose b (cs ++ t) = [] := by
  induction cs generalizing b with
  | nil =>
    cases b with
    | false =>
      obtain ⟨d, r, rfl, hd⟩ := ht.exists_cons
      left
      rcases hd with rfl | rfl <;> rfl
    | true =>
      right
      have hcomment (s : List Char) (hs : ∀ c ∈ s, c = ')' ∨ c = '$') :
          skipVerbose true s = [] := by
        induction s with
        | nil => rfl
        | cons c s ih =>
          have hc : (c != '\n') = true := by
            rcases hs c List.mem_cons_self with rfl | rfl <;> rfl
          rw [skipVerbose, hc]
          exact ih fun d hd => hs d (List.mem_cons_of_mem _ hd)
      exact hcomment t ht.mem
  | cons c cs ih =>
    cases b with
    | true => exact ih _
    | false =>
      simp only [List.cons_append, skipVerbose]
      split
      · exact ih false
      · split
        · exact ih true
        · exact .inl rfl

/-- A comment runs to the end of the closing text; nothing else that is skipped runs
into it. -/
theorem skip_append_or (ht : Closing t) (f : Flags) (cs : List Char) :
    f.skip (cs ++ t) = f.skip cs ++ t ∨ f.skip (cs ++ t) = [] := by
  simp only [Flags.skip]
  split
  · exact ht.skipVerbose_append false cs
  · exact .inl rfl

theorem skip_append (ht : Closing t) {f : Flags} {cs : List Char}
    (h : t.length ≤ (f.skip (cs ++ t)).length) : f.skip (cs ++ t) = f.skip cs ++ t := by
  have hpos := ht.length_pos
  rcases ht.skip_append_or f cs with he | he
  · exact he
  · rw [he, List.length_nil] at h
    omega

/-- The look ahead takes a closing text for nothing, so it finds a closing bracket or a
dash in front of it just when it finds one with nothing behind. -/
theorem glance_append (ht : Closing t) (f : Flags) (cs : List Char) {c : Char}
    (hc : c = ']' ∨ c = '-') : f.glance (cs ++ t) = some c ↔ f.glance cs = some c := by
  obtain ⟨d, r, rfl, hd⟩ := ht.exists_cons
  have hdc : d ≠ c ∧ d ≠ '#' := by
    rcases hd with rfl | rfl <;> rcases hc with rfl | rfl <;> decide
  have hfilled : isBlank c = false ∧ c ≠ '#' := by
    rcases hc with rfl | rfl <;> decide
  have hhead (h : cs.head? = some c) : ∃ s, cs.dropWhile isBlank = c :: s := by
    cases cs with
    | nil => cases h
    | cons a s =>
      rw [List.head?_cons, Option.some.injEq] at h
      exact ⟨s, by rw [List.dropWhile_cons, h, hfilled.1]; rfl⟩
  have hdrop (s : List Char) : (s ++ d :: r).dropWhile isBlank = s.dropWhile isBlank ++ d :: r :=
    ht.dropWhile_append (by decide) s
  rw [Flags.glance, Flags.glance]
  split
  · rw [hdrop]
    cases hs : cs.dropWhile isBlank with
    | nil =>
      have hne : cs.head? ≠ some c := fun h => by
        obtain ⟨s, h⟩ := hhead h
        rw [hs] at h
        cases h
      simp [hdc, hne]
    | cons a s =>
      by_cases ha : a = '#'
      · have hne : cs.head? ≠ some c := fun h => by
          obtain ⟨s, h⟩ := hhead h
          rw [hs, ha, List.cons.injEq] at h
          exact hfilled.2 h.1.symm
        subst ha
        simp only [List.cons_append, hdrop]
        cases s.dropWhile isBlank with
        | nil => simp [hdc, hne]
        | cons b s => simp
      · simp [ha]
  · cases cs with
    | nil => simp [hdc]
    | cons a s => simp

theorem endsItem_append (ht : Closing t) (f : Flags) (cs : List Char) :
    endsItem f (cs ++ t) = endsItem f cs := by
  rw [Bool.eq_iff_iff]
  simp only [endsItem, Bool.or_eq_true, beq_iff_eq, ht.glance_append f cs (.inl rfl),
    ht.glance_append f cs (.inr rfl)]

/-! ### Numbers and names -/

theorem readDigits_append (ht : Closing t) {f : Flags} {acc : Option Nat} {cs : List Char}
    (h : t.length ≤ (readDigits f acc (cs ++ t)).2.length) :
    readDigits f acc (cs ++ t) = ((readDigits f acc cs).1, (readDigits f acc cs).2 ++ t) := by
  fun_induction readDigits f acc cs with
  | case1 acc =>
    obtain ⟨d, r, rfl, hd⟩ := ht.exists_cons
    rw [List.nil_append, readDigits, if_neg (by rcases hd with rfl | rfl <;> decide)]
  | case2 acc c cs hc ih =>
    rw [List.cons_append, readDigits, if_pos hc] at h ⊢
    have hskip := ht.skip_append (Nat.le_trans h (length_readDigits f _ _))
    rw [hskip] at h ⊢
    exact ih h
  | case3 acc c cs hc =>
    rw [List.cons_append, readDigits, if_neg hc]

theorem readName_append (ht : Closing t) {f : Flags} {cs : List Char}
    (h : t.length ≤ (readName f (cs ++ t)).2.length) :
    readName f (cs ++ t) = ((readName f cs).1, (readName f cs).2 ++ t) := by
  fun_induction readName f cs with
  | case1 =>
    obtain ⟨d, r, rfl, hd⟩ := ht.exists_cons
    rw [List.nil_append, readName, if_neg (by rcases hd with rfl | rfl <;> decide)]
  | case2 c cs hc r ih =>
    rw [List.cons_append, readName, if_pos hc] at h ⊢
    have hskip := ht.skip_append (Nat.le_trans h (length_readName f _))
    rw [hskip] at h ⊢
    rw [ih h]
  | case3 c cs hc =>
    rw [List.cons_append, readName, if_neg hc]

theorem local_readCount (ht : Closing t) (f : Flags) : Local t (readCount f) := by
  intro cs rest' n h hlen
  rw [readCount, ht.dropWhile_append (by decide)] at h
  split at h
  · cases h
  · next m r he =>
    split at h
    · next hm =>
      cases h
      have hr := Nat.le_trans hlen (length_dropWhile_le isBlank r)
      rw [ht.readDigits_append (by rw [he]; exact hr), Prod.mk.injEq] at he
      obtain ⟨hn, rfl⟩ := he
      refine ⟨_, ht.dropWhile_append (by decide) _, ?_⟩
      rw [readCount]
      split
      · next he' =>
        rw [he'] at hn
        cases hn
      · next he' =>
        rw [he'] at hn ⊢
        cases hn
        rw [if_pos hm]
    · cases h

theorem readHexFixed_nil (f : Flags) (kind : Char) (acc : Nat) :
    readHexFixed f (hexDigits kind) acc [] = .error .escapeUnfinished := by
  unfold hexDigits
  split <;> rfl

theorem local_readHexFixed (ht : Closing t) (f : Flags) (n acc : Nat) :
    Local t (readHexFixed f n acc) := by
  intro cs rest' v h hlen
  induction n generalizing acc cs with
  | zero =>
    cases h
    exact ⟨cs, rfl, rfl⟩
  | succ n ih =>
    cases cs with
    | nil =>
      obtain ⟨d, r, rfl, hd⟩ := ht.exists_cons
      rcases hd with rfl | rfl <;> simp [readHexFixed, show hexValue? ')' = none by decide,
        show hexValue? '$' = none by decide] at h
    | cons c cs =>
      rw [List.cons_append, readHexFixed] at h
      rw [readHexFixed]
      split at h
      · cases h
      · next hv =>
        rw [ht.skip_append (Nat.le_trans hlen (length_readHexFixed h))] at h
        exact ih _ h

theorem local_readHexBraced (ht : Closing t) (f : Flags) (acc : Option Nat) :
    Local t (readHexBraced f acc) := by
  intro cs rest' v h hlen
  fun_induction readHexBraced f acc cs with
  | case1 acc =>
    obtain ⟨d, r, rfl, hd⟩ := ht.exists_cons
    rcases hd with rfl | rfl <;> simp [readHexBraced, show hexValue? ')' = none by decide,
        show hexValue? '$' = none by decide] at h
  | case2 cs => simp [readHexBraced] at h
  | case3 cs n =>
    simp only [List.cons_append, readHexBraced, Except.ok.injEq, Prod.mk.injEq] at h
    obtain ⟨rfl, rfl⟩ := h
    exact ⟨_, ht.skip_append hlen, rfl⟩
  | case4 acc c cs hc hv =>
    rw [List.cons_append, readHexBraced, hv] at h
    · cases h
    · exact hc
  | case5 acc c cs hc d hv ih =>
    rw [List.cons_append, readHexBraced, hv] at h
    · rw [ht.skip_append (Nat.le_trans hlen (length_readHexBraced h))] at h
      exact ih h
    · exact hc

theorem local_readHex (ht : Closing t) (f : Flags) (kind : Char) : Local t (readHex f kind) := by
  intro cs rest' a h hlen
  rw [readHex] at h ⊢
  rcases ht.skip_append_or f cs with hskip | hskip
  case inr =>
    rw [hskip] at h
    cases h
  rw [hskip] at h
  generalize f.skip cs = s at h ⊢
  split at h
  · cases h
  · next w hw =>
    obtain ⟨s, rfl, rfl⟩ := ht.exists_of_append_eq_cons hw (by decide)
    split at h
    · cases h
    · next n r hb =>
      split at h
      · cases h
      · next c hn =>
        cases h
        rw [ht.skip_append (Nat.le_trans hlen (length_readHexBraced hb))] at hb
        obtain ⟨rest, rfl, hown⟩ := ht.local_readHexBraced f none hb hlen
        refine ⟨rest, rfl, ?_⟩
        simp only [hown, hn]
  · next hbrace =>
    split at h
    · cases h
    · next n r hb =>
      split at h
      · cases h
      · next c hn =>
        cases h
        obtain ⟨rest, rfl, hown⟩ := ht.local_readHexFixed f _ _ hb hlen
        refine ⟨rest, rfl, ?_⟩
        split
        · rw [readHexFixed_nil] at hown
          cases hown
        · exact absurd rfl (hbrace _)
        · simp only [hown, hn]

/-! ### Escapes -/

theorem readWordEdge_append (ht : Closing t) {f : Flags} {cs rest' : List Char} {a : Anchor}
    (h : readWordEdge f (cs ++ t) = .ok (a, rest')) (hlen : t.length ≤ rest'.length) :
    ∃ rest, rest' = rest ++ t ∧ (readWordEdge f cs = .ok (a, rest) ∨ LeftBrace f rest) := by
  unfold readWordEdge at h
  split at h
  · next w hw =>
    obtain ⟨s, rfl, rfl⟩ := ht.exists_of_append_eq_cons hw (by decide)
    rcases ht.skip_append_or f s with hskip | hskip
    case inr =>
      rw [hskip] at h
      cases h
    cases hs : f.skip s with
    | nil =>
      refine ⟨'{' :: s, ?_, .inr ⟨s, rfl, hs⟩⟩
      obtain ⟨d, r, rfl, hd⟩ := ht.exists_cons
      rw [hskip, hs] at h
      rcases hd with rfl | rfl <;> exact (Prod.mk.inj (Except.ok.inj h)).2.symm
    | cons c s' =>
      simp only [hskip, hs, List.cons_append] at h
      split at h
      · next hc =>
        split at h
        · next name behind hn =>
          split at h
          · next b hb =>
            cases h
            have hname : readName f (c :: s' ++ t) = (name, '}' :: rest') := hn
            rw [ht.readName_append (by rw [hname]; exact Nat.le_succ_of_le hlen),
              Prod.mk.injEq] at hname
            obtain ⟨rfl, hbehind⟩ := hname
            obtain ⟨rest, hrest, rfl⟩ := ht.exists_of_append_eq_cons hbehind (by decide)
            refine ⟨rest, rfl, .inl ?_⟩
            simp only [readWordEdge, hs, if_pos hc]
            split
            · next name behind hown =>
              rw [hown] at hrest hb
              rw [hb, (List.cons.inj hrest).2]
            · next hnone => exact (hnone _ _ (Prod.ext rfl hrest)).elim
          · cases h
        · cases h
      · next hc =>
        cases h
        refine ⟨'{' :: s, rfl, .inl ?_⟩
        simp only [readWordEdge, hs, if_neg hc]
  · next hbrace =>
    cases h
    refine ⟨cs, rfl, .inl ?_⟩
    unfold readWordEdge
    split
    · exact absurd rfl (hbrace _)
    · rfl

theorem local_readBraced (ht : Closing t) (f : Flags) : Local t (readBraced f) := by
  intro cs rest' name h hlen
  fun_induction readBraced f cs generalizing name with
  | case1 =>
    have hshort := length_readBraced h
    rw [List.nil_append] at hshort
    omega
  | case2 cs =>
    rw [List.cons_append, readBraced] at h
    cases h
    exact ⟨cs, rfl, rfl⟩
  | case3 c cs hc e he ih | case4 c cs hc name' rest he ih =>
    rw [List.cons_append, readBraced] at h
    · split at h
      · cases h
      next name'' r hread =>
      cases h
      rw [ht.skip_append (Nat.le_trans hlen (Nat.le_of_lt (length_readBraced hread)))] at hread
      obtain ⟨rest, rfl, hown⟩ := ih hread
      rw [he] at hown
      cases hown <;> exact ⟨_, rfl, rfl⟩
    · exact hc

theorem local_readProperty (ht : Closing t) (f : Flags) : Local t (readProperty f) := by
  intro cs rest' n h hlen
  rw [readProperty] at h ⊢
  rcases ht.skip_append_or f cs with hskip | hskip
  case inr =>
    rw [hskip] at h
    cases h
  rw [hskip] at h
  generalize f.skip cs = s at h ⊢
  split at h
  · cases h
  · next w hw =>
    obtain ⟨s, rfl, rfl⟩ := ht.exists_of_append_eq_cons hw (by decide)
    split at h
    · cases h
    next name r hread =>
    cases h
    rw [ht.skip_append (Nat.le_trans hlen (Nat.le_of_lt (length_readBraced hread)))] at hread
    obtain ⟨rest, rfl, hown⟩ := ht.local_readBraced f hread hlen
    exact ⟨rest, rfl, by simp only [hown]⟩
  · next c w hbrace hw =>
    split at h
    · cases h
    next hc =>
    cases h
    cases s with
    | nil =>
      -- the name would be a character of the closing text
      rw [List.nil_append] at hw
      rw [hw, List.length_cons] at hlen
      omega
    | cons d s =>
      cases hw
      refine ⟨s, rfl, ?_⟩
      split
      · next he => cases he
      · next he =>
        cases he
        exact (hbrace rfl).elim
      · next he =>
        cases he
        rw [if_neg hc]

/-- The rest of an escape is left as it was, but for a brace behind `\b`. -/
theorem readEscape_append (ht : Closing t) {f : Flags} {cs rest' : List Char} {a : Atom}
    (h : readEscape f (cs ++ t) = .ok (a, rest')) (hlen : t.length ≤ rest'.length) :
    ∃ rest, rest' = rest ++ t ∧
      (readEscape f cs = .ok (a, rest) ∨ (∃ b, a = .anchor b) ∧ LeftBrace f rest) := by
  cases cs with
  | nil =>
    have hshort := length_readEscape h
    rw [List.nil_append] at hshort
    omega
  | cons c cs =>
    rw [List.cons_append, readEscape] at h
    rw [readEscape]
    by_cases hdigit : c.isDigit = true
    · rw [if_pos hdigit] at h
      cases h
    rw [if_neg hdigit] at h ⊢
    by_cases hhex : (c == 'x' || c == 'u' || c == 'U') = true
    · rw [if_pos hhex] at h ⊢
      obtain ⟨rest, rfl, hown⟩ := ht.local_readHex f c h hlen
      exact ⟨rest, rfl, .inl hown⟩
    rw [if_neg hhex] at h ⊢
    by_cases hproperty : (c == 'p' || c == 'P') = true
    · rw [if_pos hproperty] at h ⊢
      split at h
      · cases h
      next n r hn =>
      split at h
      · cases h
      · next s hs =>
        cases h
        obtain ⟨rest, rfl, hown⟩ := ht.local_readProperty f hn hlen
        exact ⟨rest, rfl, .inl (by simp only [hown, hs])⟩
    rw [if_neg hproperty] at h ⊢
    by_cases hedge : (c == 'b') = true
    · rw [if_pos hedge] at h ⊢
      split at h
      · cases h
      · next b r hb =>
        cases h
        obtain ⟨rest, rfl, hown | hbrace⟩ := ht.readWordEdge_append hb hlen
        · exact ⟨rest, rfl, .inl (by rw [hown])⟩
        · exact ⟨rest, rfl, .inr ⟨⟨b, rfl⟩, hbrace⟩⟩
    rw [if_neg hedge] at h ⊢
    generalize letterSet? f c = s, anchor? f c = b, controlChar? c = e at h ⊢
    cases s with
    | some s =>
      cases h
      exact ⟨cs, rfl, .inl rfl⟩
    | none =>
      cases b with
      | some b =>
        cases h
        exact ⟨cs, rfl, .inl rfl⟩
      | none =>
        cases e with
        | some e =>
          cases h
          exact ⟨cs, rfl, .inl rfl⟩
        | none =>
          by_cases hself : isEscapable c = true
          · simp only [if_pos hself] at h ⊢
            cases h
            exact ⟨cs, rfl, .inl rfl⟩
          · simp only [if_neg hself] at h
            cases h

/-! ### Flags and names of groups -/

theorem local_readFlags (ht : Closing t) (f : Flags) (seen : List Char) :
    Local t (readFlags f seen) := by
  intro cs rest' a h hlen
  induction cs generalizing f seen with
  | nil =>
    obtain ⟨d, r, rfl, rfl | rfl⟩ := ht.exists_cons
    · rw [List.nil_append, readFlags, if_pos (show (')' == ':' || ')' == ')') = true from rfl)] at h
      by_cases hdash : (seen.head? == some '-') = true
      · rw [if_pos hdash] at h
        cases h
      · rw [if_neg hdash] at h
        cases h
        exact absurd hlen (Nat.not_succ_le_self _)
    · cases h
  | cons c cs ih =>
    rw [List.cons_append, readFlags] at h
    rw [readFlags]
    by_cases hclosed : (c == ':' || c == ')') = true
    · rw [if_pos hclosed] at h ⊢
      by_cases hdash : (seen.head? == some '-') = true
      · rw [if_pos hdash] at h
        cases h
      · rw [if_neg hdash] at h ⊢
        cases h
        exact ⟨cs, rfl, rfl⟩
    rw [if_neg hclosed] at h ⊢
    by_cases hdash : (c == '-') = true
    · rw [if_pos hdash] at h ⊢
      by_cases hseen : seen.contains c = true
      · rw [if_pos hseen] at h
        cases h
      · rw [if_neg hseen] at h ⊢
        exact ih _ _ h
    rw [if_neg hdash] at h ⊢
    cases hset : f.set? (!seen.contains '-') c with
    | none =>
      simp only [hset] at h
      cases h
    | some f' =>
      simp only [hset] at h ⊢
      by_cases hseen : seen.contains c = true
      · rw [if_pos hseen] at h
        cases h
      · rw [if_neg hseen] at h ⊢
        exact ih _ _ h

theorem local_readGroupName (ht : Closing t) : Local t readGroupName := by
  have hnames : inName ')' = false ∧ inName '$' = false := by decide +kernel
  have hstarts : startsName ')' = false ∧ startsName '$' = false := by decide +kernel
  intro cs rest' name h hlen
  cases cs with
  | nil =>
    obtain ⟨d, r, rfl, rfl | rfl⟩ := ht.exists_cons
    · simp [readGroupName, hstarts] at h
    · simp [readGroupName, hstarts] at h
  | cons c cs =>
    have hdrop := ht.dropWhile_append hnames (c :: cs)
    simp only [readGroupName, List.cons_append] at h hdrop ⊢
    by_cases hc : startsName c = true
    · rw [if_pos hc] at h ⊢
      rw [hdrop] at h
      split at h
      · cases h
      · next w hw =>
        cases h
        obtain ⟨rest, hrest, rfl⟩ := ht.exists_of_append_eq_cons hw (by decide)
        refine ⟨rest, rfl, ?_⟩
        rw [hrest, ← List.cons_append, takeWhile_append_of_dropWhile_append hdrop]
        rfl
      · cases h
    · rw [if_neg hc] at h
      cases h

/-! ### Brackets -/

theorem skipDashes_append (ht : Closing t) {f : Flags} {cs : List Char}
    (h : t.length ≤ (skipDashes f (cs ++ t)).2.length) :
    skipDashes f (cs ++ t) = ((skipDashes f cs).1, (skipDashes f cs).2 ++ t) := by
  fun_induction skipDashes f cs with
  | case1 cs ih =>
    rw [List.cons_append, skipDashes] at h ⊢
    have hskip := ht.skip_append (Nat.le_trans h (length_skipDashes f _))
    rw [hskip] at h ⊢
    rw [ih h]
  | case2 cs hcs =>
    rw [skipDashes]
    intro w hw
    obtain ⟨s, rfl, -⟩ := ht.exists_of_append_eq_cons hw (by decide)
    exact hcs s rfl

/-- A name in a bracket ends in front of a closing text. -/
theorem readNamed_append (ht : Closing t) (f : Flags) (cs : List Char) :
    readNamed f (cs ++ t) = (readNamed f cs).map fun s => (s.1, s.2 ++ t) := by
  cases cs with
  | nil => obtain ⟨d, r, rfl, rfl | rfl⟩ := ht.exists_cons <;> rfl
  | cons c r =>
    by_cases hc : c = ':'
    case neg => simp [readNamed, hc]
    subst hc
    obtain ⟨negated, body, hneg, hbody⟩ : ∃ negated body,
        (r.head? == some '^') = negated ∧ (if negated then r.drop 1 else r) = body :=
      ⟨_, _, rfl, rfl⟩
    have hneg' : ((r ++ t).head? == some '^') = negated := by
      rw [← hneg]
      cases r with
      | nil => obtain ⟨d, r, rfl, rfl | rfl⟩ := ht.exists_cons <;> rfl
      | cons c r => rfl
    have hbody' : (if negated then (r ++ t).drop 1 else r ++ t) = body ++ t := by
      rw [← hbody]
      cases r with
      | nil => simp [← hneg]
      | cons c r => split <;> rfl
    simp only [readNamed, List.cons_append, hneg, hneg', hbody, hbody']
    by_cases hend : body.dropWhile (· != ':') = []
    · have hrest : (body ++ t).dropWhile (· != ':') = [] := by
        rw [List.dropWhile_append, if_pos (List.isEmpty_iff.2 hend), List.dropWhile_eq_nil_iff]
        intro c hc
        rcases ht.mem c hc with rfl | rfl <;> rfl
      rw [hrest, hend]
      rfl
    · have hrest : (body ++ t).dropWhile (· != ':') = body.dropWhile (· != ':') ++ t := by
        rw [List.dropWhile_append, if_neg (List.isEmpty_iff.not.2 hend)]
      rw [hrest, takeWhile_append_of_dropWhile_append hrest]
      split
      · next w hw =>
        obtain ⟨s, hs, hw⟩ := ht.exists_of_append_eq_cons hw (by decide)
        obtain ⟨s, rfl, rfl⟩ := ht.exists_of_append_eq_cons hw.symm (by decide)
        rw [hs]
        simp [Function.comp_def]
      · next hname =>
        split
        · next s hs => exact absurd (congrArg (· ++ t) hs) (hname _)
        · rfl

/-- What follows an opening bracket and the caret behind it, and whether there is one. -/
def afterCaret (f : Flags) (cs : List Char) : Bool × List Char :=
  match f.skip cs with
  | '^' :: r => (true, f.skip r)
  | r => (false, r)

theorem afterCaret_append (ht : Closing t) {f : Flags} {cs : List Char}
    (h : t.length ≤ (afterCaret f (cs ++ t)).2.length) :
    afterCaret f (cs ++ t) = ((afterCaret f cs).1, (afterCaret f cs).2 ++ t) := by
  have hpos := ht.length_pos
  unfold afterCaret at h ⊢
  rcases ht.skip_append_or f cs with hskip | hskip
  case inr =>
    rw [hskip, List.length_nil] at h
    omega
  rw [hskip] at h ⊢
  generalize f.skip cs = s at h ⊢
  split
  · next w hw =>
    obtain ⟨s, rfl, rfl⟩ := ht.exists_of_append_eq_cons hw (by decide)
    simp only [List.cons_append] at h ⊢
    rw [ht.skip_append h]
  · next hcaret =>
    split
    · exact absurd rfl (hcaret _)
    · rfl

/-- What an opening bracket with the given dashes behind it begins. -/
def openWith (f : Flags) (negated : Bool) (dashes : Nat × List Char) : OpenBracket × List Char :=
  match dashes.1, dashes.2 with
  | 0, ']' :: r => (⟨negated, ⟨.single ']', 0⟩, 1, none⟩, f.skip r)
  | 0, r => (⟨negated, ⟨.nothing, 0⟩, 0, none⟩, r)
  | n + 1, r => (⟨negated, ⟨.single '-', 0⟩, n + 1, none⟩, r)

theorem openBracket_eq (f : Flags) (cs : List Char) : openBracket f cs =
    openWith f (afterCaret f cs).1 (skipDashes f (afterCaret f cs).2) := rfl

theorem length_openWith (f : Flags) (negated : Bool) (dashes : Nat × List Char) :
    (openWith f negated dashes).2.length ≤ dashes.2.length := by
  rw [openWith]
  split
  · next r _ he =>
    rw [he]
    exact Nat.le_succ_of_le (length_skip f r)
  · exact Nat.le_refl _
  · exact Nat.le_refl _

theorem openWith_append (ht : Closing t) {f : Flags} {negated : Bool} {n : Nat} {s : List Char}
    (h : t.length ≤ (openWith f negated (n, s ++ t)).2.length) :
    openWith f negated (n, s ++ t) =
      ((openWith f negated (n, s)).1, (openWith f negated (n, s)).2 ++ t) := by
  cases n with
  | succ n => rfl
  | zero =>
    by_cases hs : ∃ r, s = ']' :: r
    · obtain ⟨r, rfl⟩ := hs
      exact Prod.ext rfl (ht.skip_append h)
    · simp only [openWith]
      split
      · next hw =>
        obtain ⟨r, rfl, -⟩ := ht.exists_of_append_eq_cons hw (by decide)
        exact absurd ⟨r, rfl⟩ hs
      · split
        · exact absurd ⟨_, rfl⟩ hs
        · rfl
        · contradiction
      · contradiction

theorem openBracket_append (ht : Closing t) {f : Flags} {cs : List Char}
    (h : t.length ≤ (openBracket f (cs ++ t)).2.length) :
    openBracket f (cs ++ t) = ((openBracket f cs).1, (openBracket f cs).2 ++ t) := by
  rw [openBracket_eq] at h ⊢
  have hdashes := Nat.le_trans h (length_openWith f _ _)
  have hcaret := ht.afterCaret_append (Nat.le_trans hdashes (length_skipDashes f _))
  rw [hcaret] at h hdashes ⊢
  rw [ht.skipDashes_append hdashes] at h ⊢
  rw [ht.openWith_append h]
  rfl

theorem readBracketAtom_append (ht : Closing t) {f : Flags} {c : Char} {cs rest' : List Char}
    {a : Atom} (h : readBracketAtom f c (cs ++ t) = .ok (a, rest'))
    (hlen : t.length ≤ rest'.length) :
    ∃ rest, rest' = rest ++ t ∧ (readBracketAtom f c cs = .ok (a, rest) ∨ ∃ b, a = .anchor b) := by
  rw [readBracketAtom] at h ⊢
  split at h
  · next hc =>
    obtain ⟨rest, rfl, hown | ⟨hanchor, -⟩⟩ := ht.readEscape_append h hlen
    · exact ⟨rest, rfl, .inl (by rw [if_pos hc, hown])⟩
    · exact ⟨rest, rfl, .inr hanchor⟩
  · next hc =>
    cases h
    exact ⟨cs, rfl, .inl (by rw [if_neg hc])⟩

theorem itemRest_append (ht : Closing t) {f : Flags} {first : Atom} {r rest' : List Char}
    {s : CharSet} (h : ItemRest f first (r ++ t) s rest') (hlen : t.length ≤ rest'.length) :
    ∃ rest, rest' = rest ++ t ∧ ItemRest f first r s rest := by
  have hskip := ht.skip_append (Nat.le_trans hlen h.length_le)
  cases h with
  | alone hs hr =>
    refine ⟨_, hskip, .alone hs fun behind hdash => hr (behind ++ t) ?_⟩
    rw [hskip, hdash]
    rfl
  | dash hs hr hends =>
    rw [hskip] at hr
    obtain ⟨behind, hdash, rfl⟩ := ht.exists_of_append_eq_cons hr (by decide)
    exact ⟨'-' :: behind, rfl, .dash hs hdash (by rwa [← ht.endsItem_append])⟩
  | @range behind v _ d _ _ _ hr hends hd hlast hlo hhi hle =>
    rw [hskip] at hr
    obtain ⟨behind, hdash, rfl⟩ := ht.exists_of_append_eq_cons hr (by decide)
    rw [ht.endsItem_append] at hends
    have hv := Nat.le_trans hlen (length_readBracketAtom hlast)
    rw [ht.skip_append (by rw [hd, List.length_cons]; omega)] at hd
    cases hbehind : f.skip behind with
    | nil =>
      rw [hbehind, List.nil_append] at hd
      rw [hd, List.length_cons] at hv
      omega
    | cons d' v' =>
      rw [hbehind, List.cons_append, List.cons.injEq] at hd
      obtain ⟨rfl, rfl⟩ := hd
      obtain ⟨rest, rfl, hown | ⟨b, rfl⟩⟩ := ht.readBracketAtom_append hlast hlen
      · exact ⟨rest, rfl, .range hdash hends hbehind hown hlo hhi hle⟩
      · cases hhi

theorem local_readItem (ht : Closing t) (f : Flags) (c : Char) : Local t (readItem f c) := by
  intro cs rest' s h hlen
  obtain ⟨first, r, ha, hrest⟩ := readItem_eq_ok_iff.1 h
  have hr := Nat.le_trans (Nat.le_trans hlen hrest.length_le) (length_skip f r)
  obtain ⟨r, rfl, hown | ⟨b, rfl⟩⟩ := ht.readBracketAtom_append ha hr
  · obtain ⟨rest, rfl, hfront⟩ := ht.itemRest_append hrest hlen
    exact ⟨rest, rfl, readItem_eq_ok_iff.2 ⟨first, r, hown, hfront⟩⟩
  · exact absurd rfl (hrest.ne_anchor b)

/-- What a bracket reads next, without the proofs that the recursion rests on. -/
theorem readBracket_eq (f : Flags) (b : OpenBracket) (outer : List OpenBracket)
    (cs : List Char) : readBracket f b outer cs =
      match f.skip cs with
      | [] => .error .bracketUnclosed
      | '[' :: rest =>
        match readNamed f rest with
        | some (s, r) =>
          if f.exceeds s then .error .notCharacters else readBracket f (b.add ⟨s, 0⟩) outer r
        | none => readBracket f (openBracket f rest).1 (b :: outer) (openBracket f rest).2
      | ']' :: rest =>
        if f.exceeds (b.close f).set then .error .notCharacters
        else
          match outer with
          | [] => .ok (b.close f, rest)
          | o :: os => readBracket f (o.add (b.close f)) os rest
      | '&' :: '&' :: rest => readBracket f (b.operate f .both) outer rest
      | '-' :: '-' :: rest => readBracket f (b.operate f .without) outer rest
      | '~' :: '~' :: rest => readBracket f (b.operate f .either) outer rest
      | c :: rest =>
        match readItem f c rest with
        | .error e => .error e
        | .ok (s, r) => readBracket f (b.add ⟨s, 0⟩) outer r := by
  rw [readBracket]
  split
  case h_2 hs =>
    simp only [hs]
    split <;> rename_i hn <;> simp only [hn]
  case h_3 hs =>
    cases outer <;> simp only [hs]
  case h_7 hs =>
    simp only [hs]
    split <;> rename_i hi <;> simp only [hi]
  all_goals
    rename_i hs
    simp only [hs]

/-- A character that begins neither a bracket nor an operation, and ends no bracket, begins an
item. -/
theorem readBracket_of_item {f : Flags} {b : OpenBracket} {outer : List OpenBracket}
    {cs v : List Char} {c : Char} (hv : f.skip cs = c :: v) (hopens : c ≠ '[') (hends : c ≠ ']')
    (hboth : ∀ r, c = '&' → v ≠ '&' :: r) (hwithout : ∀ r, c = '-' → v ≠ '-' :: r)
    (heither : ∀ r, c = '~' → v ≠ '~' :: r) : readBracket f b outer cs =
      match readItem f c v with
      | .error e => .error e
      | .ok (s, r) => readBracket f (b.add ⟨s, 0⟩) outer r := by
  rw [readBracket_eq, hv]
  split
  · contradiction
  · next he => exact absurd (List.cons.inj he).1 hopens
  · next he => exact absurd (List.cons.inj he).1 hends
  · next he =>
    cases he
    exact absurd rfl (hboth _ rfl)
  · next he =>
    cases he
    exact absurd rfl (hwithout _ rfl)
  · next he =>
    cases he
    exact absurd rfl (heither _ rfl)
  · next he =>
    cases he
    rfl

/-- What is skipped ends before the closing text if something else is read behind it. -/
theorem skip_eq_cons (ht : Closing t) {f : Flags} {v r : List Char} {c : Char}
    (h : f.skip (v ++ t) = c :: r) (hc : c ≠ ')' ∧ c ≠ '$') :
    ∃ s, f.skip v = c :: s ∧ r = s ++ t := by
  rcases ht.skip_append_or f v with hskip | hskip <;> rw [hskip] at h
  · exact ht.exists_of_append_eq_cons h hc
  · cases h

theorem skip_eq_pair (ht : Closing t) {f : Flags} {v r : List Char} {c : Char}
    (h : f.skip (v ++ t) = c :: c :: r) (hc : c ≠ ')' ∧ c ≠ '$') :
    ∃ s, f.skip v = c :: c :: s ∧ r = s ++ t := by
  obtain ⟨u, hu, hr⟩ := ht.skip_eq_cons h hc
  obtain ⟨s, rfl, rfl⟩ := ht.exists_of_append_eq_cons hr.symm hc
  exact ⟨s, hu, rfl⟩

theorem local_readBracket (ht : Closing t) (f : Flags) (b : OpenBracket)
    (outer : List OpenBracket) : Local t (readBracket f b outer) := by
  intro cs rest' s h hlen
  generalize hw : cs ++ t = w at h
  fun_induction readBracket f b outer w generalizing cs with
  | case1 => cases h
  | case2 => cases h
  | case3 b outer w r hs s' r' hn hwithin ih =>
    subst hw
    obtain ⟨v, hv, rfl⟩ := ht.skip_eq_cons hs (by decide)
    rw [ht.readNamed_append, Option.map_eq_some_iff] at hn
    obtain ⟨⟨s', m⟩, hn, he⟩ := hn
    cases he
    obtain ⟨rest, rfl, hown⟩ := ih rfl h
    exact ⟨rest, rfl, by simp only [readBracket_eq f b outer cs, hv, hn, if_neg hwithin, hown]⟩
  | case4 b outer w r hs hn ih =>
    subst hw
    obtain ⟨v, hv, rfl⟩ := ht.skip_eq_cons hs (by decide)
    rw [ht.readNamed_append, Option.map_eq_none_iff] at hn
    have hopen := ht.openBracket_append (Nat.le_trans hlen (length_readBracket h))
    rw [hopen] at h ih
    obtain ⟨rest, rfl, hown⟩ := ih rfl h
    exact ⟨rest, rfl, by simp only [readBracket_eq f b outer cs, hv, hn, hown]⟩
  | case5 => cases h
  | case6 b w r hs hwithin =>
    subst hw
    obtain ⟨v, hv, rfl⟩ := ht.skip_eq_cons hs (by decide)
    cases h
    exact ⟨v, rfl, by simp only [readBracket_eq f b [] cs, hv, if_neg hwithin]⟩
  | case7 b w r hs hwithin o os ih =>
    subst hw
    obtain ⟨v, hv, rfl⟩ := ht.skip_eq_cons hs (by decide)
    obtain ⟨rest, rfl, hown⟩ := ih rfl h
    exact ⟨rest, rfl, by simp only [readBracket_eq f b _ cs, hv, if_neg hwithin, hown]⟩
  | case8 b outer w r hs ih | case9 b outer w r hs ih | case10 b outer w r hs ih =>
    subst hw
    obtain ⟨v, hv, rfl⟩ := ht.skip_eq_pair hs (by decide)
    obtain ⟨rest, rfl, hown⟩ := ih rfl h
    exact ⟨rest, rfl, by simp only [readBracket_eq f b outer cs, hv, hown]⟩
  | case11 => cases h
  | case12 b outer w c r h1 h2 h3 h4 h5 hs s' r' hi ih =>
    subst hw
    rcases ht.skip_append_or f cs with hskip | hskip <;> rw [hskip] at hs
    case inr => cases hs
    cases hv : f.skip cs with
    | nil =>
      rw [hv, List.nil_append] at hs
      have hshort := Nat.le_trans (length_readBracket h) (length_readItem hi)
      rw [hs, List.length_cons] at hlen
      omega
    | cons d v =>
      rw [hv, List.cons_append, List.cons.injEq] at hs
      obtain ⟨rfl, rfl⟩ := hs
      obtain ⟨m, rfl, hm⟩ := ht.local_readItem f d hi (Nat.le_trans hlen (length_readBracket h))
      obtain ⟨rest, rfl, hown⟩ := ih rfl h
      have hahead {x : Char} (hx : ∀ r, d = x → v ++ t = x :: r → False) (r : List Char)
          (hd : d = x) : v ≠ x :: r := fun hr => hx (r ++ t) hd (congrArg (· ++ t) hr)
      refine ⟨rest, rfl, ?_⟩
      rw [readBracket_of_item hv h1 h2 (hahead h3) (hahead h4) (hahead h5), hm]
      exact hown

theorem local_readSet (ht : Closing t) (f : Flags) : Local t (readSet f) := by
  intro cs rest' s h hlen
  rw [readSet] at h
  have hopen := ht.openBracket_append (Nat.le_trans hlen (length_readBracket h))
  rw [hopen] at h
  exact ht.local_readBracket f _ _ h hlen

end Closing

end ContestExchange.Pattern
