import ContestExchange.Field.Basic
import ContestExchange.Proofs.Pattern.Local
import ContestExchange.Proofs.Pattern.Matching

/-!
# Patterns between anchors

A pattern for tokens is compiled from its text between `^(?:` and `)$`.  Whatever the
text is, a reader inside the group between the anchors does what it would do outside
(`Reader.step_within`), and it does not look at the closing text unless it reads on into
it (`Closing.step_append`).  When it does read on into it, the group is never closed; so
a text between the anchors is read as it is by itself (`Reader.run_between`), but for
one way out: a parenthesis in the text can close the group that was opened for it.

What the anchors are for is then that the pattern has to read the whole text
(`occursIn_between`).
-/

namespace ContestExchange.Pattern

open Text (isBlank)

theorem not_begins {p v t : List Char} (h : ∀ tail, v ++ t = p ++ tail → False) :
    ∀ tail, v = p ++ tail → False :=
  fun tail he => h (tail ++ t) (by rw [he, List.append_assoc])

/-! ### Bounds of repetitions -/

/-- How the bounds of a repetition go on behind the first of them. -/
inductive BoundsRest (f : Flags) (least : Nat) (m : List Char) :
    Nat × Option Nat → List Char → Prop
  | exactly {rest : List Char} (hm : m = '}' :: rest) : BoundsRest f least m (least, some least) rest
  | atLeast {behind rest : List Char} (hm : m = ',' :: behind)
    (hrest : f.skip behind = '}' :: rest) : BoundsRest f least m (least, none) rest
  | upTo {behind rest : List Char} {most : Nat} (hm : m = ',' :: behind)
    (hmost : readCount f (f.skip behind) = .ok (most, '}' :: rest)) (hle : least ≤ most) :
    BoundsRest f least m (least, some most) rest

section Bounds

variable {f : Flags} {least : Nat} {m rest : List Char} {b : Nat × Option Nat}

theorem readCount_of_not_digit (f : Flags) {cs : List Char}
    (h : ∀ c ∈ cs.head?, isBlank c = false ∧ c.isDigit = false) :
    readCount f cs = .error .countMissing := by
  cases cs with
  | nil => simp [readCount, readDigits]
  | cons c cs =>
    obtain ⟨hblank, hdigit⟩ := h c rfl
    rw [readCount, List.dropWhile_cons_of_neg (by simp [hblank]), readDigits,
      if_neg (by simp [hdigit])]

/-- **The bounds of a repetition** are a number and what goes on behind it. -/
theorem readBounds_eq_ok_iff {cs : List Char} : Reader.readBounds f cs = .ok (b, rest) ↔
    ∃ least m, readCount f (f.skip cs) = .ok (least, m) ∧ BoundsRest f least m b rest := by
  constructor
  · intro h
    unfold Reader.readBounds at h
    split at h
    · cases h
    split at h
    · cases h
    · next least r hleast =>
      refine ⟨least, _, hleast, ?_⟩
      split at h
      · next hrest =>
        cases h
        exact .atLeast rfl hrest
      · split at h
        · cases h
        · next most w hmost =>
          split at h
          · next hle =>
            cases h
            exact .upTo rfl hmost hle
          · cases h
        · cases h
    · next least r hleast =>
      cases h
      exact ⟨least, _, hleast, .exactly rfl⟩
    · cases h
  · rintro ⟨least, m, hleast, hrest⟩
    have hfilled : f.skip cs ≠ [] := by
      intro hs
      rw [hs, readCount_of_not_digit f (by simp)] at hleast
      cases hleast
    unfold Reader.readBounds
    split
    · next hs => exact absurd hs hfilled
    cases hrest with
    | exactly hm =>
      subst hm
      simp only [hleast]
    | atLeast hm hrest =>
      subst hm
      simp only [hleast, hrest]
    | @upTo behind _ most hm hmost hle =>
      subst hm
      have hopen : ∀ w, f.skip behind ≠ '}' :: w := by
        intro w hw
        rw [hw, readCount_of_not_digit f (by simp; decide)] at hmost
        cases hmost
      simp only [hleast, hmost, if_pos hle]

theorem BoundsRest.length_le (h : BoundsRest f least m b rest) : rest.length ≤ m.length := by
  cases h with
  | exactly hm =>
    rw [hm]
    exact Nat.le_succ _
  | @atLeast behind _ hm hrest =>
    rw [hm]
    exact Nat.le_succ_of_le (Nat.le_of_lt (length_of_skip hrest))
  | @upTo behind _ _ hm hmost =>
    have hskip := length_skip f behind
    have hcount := length_readCount hmost
    rw [List.length_cons] at hcount
    rw [hm, List.length_cons]
    omega

end Bounds

namespace Closing

variable {t : List Char}

theorem readMark_append (ht : Closing t) (cs : List Char) :
    Reader.readMark (cs ++ t) = ((Reader.readMark cs).1, (Reader.readMark cs).2 ++ t) := by
  unfold Reader.readMark
  split
  · next w hw =>
    obtain ⟨s, rfl, rfl⟩ := ht.exists_of_append_eq_cons hw (by decide)
    rfl
  · next hmark =>
    split
    · exact absurd rfl (hmark _)
    · rfl

theorem boundsRest_append (ht : Closing t) {f : Flags} {least : Nat} {m rest' : List Char}
    {b : Nat × Option Nat} (h : BoundsRest f least (m ++ t) b rest')
    (hlen : t.length ≤ rest'.length) : ∃ rest, rest' = rest ++ t ∧ BoundsRest f least m b rest := by
  cases h with
  | exactly hm =>
    obtain ⟨rest, rfl, rfl⟩ := ht.exists_of_append_eq_cons hm (by decide)
    exact ⟨rest, rfl, .exactly rfl⟩
  | atLeast hm hrest =>
    obtain ⟨behind, rfl, rfl⟩ := ht.exists_of_append_eq_cons hm (by decide)
    rw [ht.skip_append (by rw [hrest, List.length_cons]; omega)] at hrest
    obtain ⟨rest, hown, rfl⟩ := ht.exists_of_append_eq_cons hrest (by decide)
    exact ⟨rest, rfl, .atLeast rfl hown⟩
  | upTo hm hmost hle =>
    obtain ⟨behind, rfl, rfl⟩ := ht.exists_of_append_eq_cons hm (by decide)
    have hbehind := length_readCount hmost
    rw [List.length_cons] at hbehind
    rw [ht.skip_append (by omega)] at hmost
    obtain ⟨v, hv, hown⟩ := ht.local_readCount f hmost (Nat.le_succ_of_le hlen)
    obtain ⟨rest, rfl, rfl⟩ := ht.exists_of_append_eq_cons hv.symm (by decide)
    exact ⟨rest, rfl, .upTo rfl hown hle⟩

theorem local_readBounds (ht : Closing t) (f : Flags) : Local t (Reader.readBounds f) := by
  intro cs rest' b h hlen
  obtain ⟨least, m, hm, hrest⟩ := readBounds_eq_ok_iff.1 h
  have hm' := Nat.le_trans hlen hrest.length_le
  rw [ht.skip_append (Nat.le_trans hm' (length_readCount hm))] at hm
  obtain ⟨m, rfl, hown⟩ := ht.local_readCount f hm hm'
  obtain ⟨rest, rfl, hfront⟩ := ht.boundsRest_append hrest hlen
  exact ⟨rest, rfl, readBounds_eq_ok_iff.2 ⟨least, m, hown, hfront⟩⟩

theorem local_openGroup (ht : Closing t) (r : Reader) : Local t r.openGroup := by
  intro cs rest' s h hlen
  unfold Reader.openGroup at h ⊢
  rcases ht.skip_append_or r.flags cs with hskip | hskip
  case inr =>
    rw [hskip] at h
    cases h
    exact absurd ht.length_pos (Nat.not_lt_of_le hlen)
  rw [hskip] at h
  generalize r.flags.skip cs = v at h ⊢
  split at h
  · cases h
  · cases h
  · cases h
  · cases h
  · next w hw =>
    obtain ⟨v1, rfl, hw1⟩ := ht.exists_of_append_eq_cons hw (by decide)
    obtain ⟨v2, rfl, hw2⟩ := ht.exists_of_append_eq_cons hw1.symm (by decide)
    obtain ⟨v3, rfl, rfl⟩ := ht.exists_of_append_eq_cons hw2.symm (by decide)
    split at h
    · cases h
    · next name w' hname =>
      split at h
      · cases h
      · next r' hr' =>
        cases h
        obtain ⟨rest, rfl, hown⟩ := ht.local_readGroupName hname hlen
        exact ⟨rest, rfl, by simp only [hown, hr']⟩
  · next w hnot hnot' hw =>
    obtain ⟨v1, rfl, hw1⟩ := ht.exists_of_append_eq_cons hw (by decide)
    obtain ⟨v2, rfl, rfl⟩ := ht.exists_of_append_eq_cons hw1.symm (by decide)
    split at h
    · cases h
    · next name w' hname =>
      split at h
      · cases h
      · next r' hr' =>
        cases h
        obtain ⟨rest, rfl, hown⟩ := ht.local_readGroupName hname hlen
        refine ⟨rest, rfl, ?_⟩
        -- what rules out the forms read before this one; the match below rests on it
        have hahead : ∀ tail, v2 = '=' :: tail → False := not_begins (p := ['=']) hnot
        have hahead' : ∀ tail, v2 = '!' :: tail → False := not_begins (p := ['!']) hnot'
        simp only [hown, hr']
  · next w h1 h2 h3 h4 h5 h6 hw =>
    obtain ⟨v1, rfl, rfl⟩ := ht.exists_of_append_eq_cons hw (by decide)
    have hahead : ∀ tail, v1 = '=' :: tail → False := not_begins (p := ['=']) h1
    have hahead' : ∀ tail, v1 = '!' :: tail → False := not_begins (p := ['!']) h2
    have hbehind : ∀ tail, v1 = '<' :: '=' :: tail → False := not_begins (p := ['<', '=']) h3
    have hbehind' : ∀ tail, v1 = '<' :: '!' :: tail → False := not_begins (p := ['<', '!']) h4
    have hname : ∀ tail, v1 = 'P' :: '<' :: tail → False := not_begins (p := ['P', '<']) h5
    have hname' : ∀ tail, v1 = '<' :: tail → False := not_begins (p := ['<']) h6
    split at h
    · cases h
    · next got w' hflags =>
      split at h
      · next hopens =>
        cases h
        obtain ⟨rest, rfl, hown⟩ := ht.local_readFlags _ _ hflags hlen
        refine ⟨rest, rfl, ?_⟩
        simp only [hown, if_pos hopens]
      · next hopens =>
        split at h
        · next hany =>
          cases h
          obtain ⟨rest, rfl, hown⟩ := ht.local_readFlags _ _ hflags hlen
          refine ⟨rest, rfl, ?_⟩
          simp only [hown, if_neg hopens, if_pos hany]
        · cases h
  · next h1 =>
    cases h
    refine ⟨v, rfl, ?_⟩
    have hplain : ∀ tail, v = '?' :: tail → False := not_begins (p := ['?']) h1
    split
    all_goals first
      | rfl
      | exact absurd rfl (hplain _)

/-- The rest of a step is left as it was, but for a brace behind `\b`. -/
theorem step_append (ht : Closing t) {r s : Reader} {c : Char} {cs rest' : List Char}
    (h : r.step c (cs ++ t) = .ok (s, rest')) (hlen : t.length ≤ rest'.length) :
    ∃ rest, rest' = rest ++ t ∧
      (r.step c cs = .ok (s, rest) ∨ s.flags = r.flags ∧ LeftBrace r.flags rest) := by
  unfold Reader.step at h ⊢
  -- one case for each character that has a meaning of its own, the short repetitions first
  split at h
  case h_5 | h_6 | h_7 =>
    rw [ht.readMark_append] at h
    split at h
    · cases h
    · next hr =>
      cases h
      exact ⟨_, rfl, .inl (by simp only [hr])⟩
  · obtain ⟨rest, rfl, hown⟩ := ht.local_openGroup r h hlen
    exact ⟨rest, rfl, .inl hown⟩
  · split at h
    · cases h
    · next hr =>
      cases h
      exact ⟨cs, rfl, .inl rfl⟩
  · cases h
    exact ⟨cs, rfl, .inl rfl⟩
  · split at h
    · cases h
    · next hs =>
      cases h
      obtain ⟨rest, rfl, hown⟩ := ht.local_readSet _ hs hlen
      exact ⟨rest, rfl, .inl (by simp only [hown])⟩
  · split at h
    · cases h
    · next b w hb =>
      have hle : rest'.length ≤ (r.flags.skip w).length := by
        have hread := Reader.length_readMark (r.flags.skip w)
        simp only at h
        split at h
        · cases h
        · cases h
          exact hread
      have hskip := Nat.le_trans hlen hle
      obtain ⟨m, rfl, hown⟩ :=
        ht.local_readBounds _ hb (Nat.le_trans hskip (length_skip r.flags w))
      rw [ht.skip_append hskip] at h
      simp only [ht.readMark_append] at h
      split at h
      · cases h
      · next hr =>
        cases h
        exact ⟨_, rfl, .inl (by simp only [hown, hr])⟩
  · split at h
    · cases h
    · next a w ha =>
      split at h
      · cases h
      · next p hp =>
        cases h
        obtain ⟨rest, rfl, hown | ⟨-, hbrace⟩⟩ := ht.readEscape_append ha hlen
        · exact ⟨rest, rfl, .inl (by simp only [hown, hp])⟩
        · exact ⟨rest, rfl, .inr ⟨rfl, hbrace⟩⟩
  · split at h
    · cases h
    · next hp =>
      cases h
      exact ⟨cs, rfl, .inl rfl⟩
  · cases h
    exact ⟨cs, rfl, .inl rfl⟩
  · cases h
    exact ⟨cs, rfl, .inl rfl⟩
  · cases h
    exact ⟨cs, rfl, .inl rfl⟩

end Closing

/-- A pattern that has to span the text. -/
def between (p : Pattern) : Pattern :=
  .seq (.anchor .textStart) (.seq (.group none p) (.anchor .textEnd))

namespace Reader

/-! ### One group more around the text -/

variable {r s : Reader} {e : Enclosing}

/-- The reader in a text that stands in one more group. -/
def within (e : Enclosing) (r : Reader) : Reader :=
  { r with outer := r.outer ++ [e] }

theorem enterNamed_within (e : Enclosing) (r : Reader) (name : String) :
    (r.within e).enterNamed name = (r.enterNamed name).map (within e) := by
  unfold enterNamed
  rw [show (r.within e).names = r.names from rfl]
  split <;> rfl

theorem openGroup_within (e : Enclosing) (r : Reader) (cs : List Char) :
    (r.within e).openGroup cs = (r.openGroup cs).map (Prod.map (within e) id) := by
  unfold openGroup
  rw [show (r.within e).flags = r.flags from rfl]
  split
  · rfl
  · rfl
  · rfl
  · rfl
  · split
    · rfl
    · rw [enterNamed_within]
      cases r.enterNamed _ <;> rfl
  · split
    · rfl
    · rw [enterNamed_within]
      cases r.enterNamed _ <;> rfl
  · split
    · rfl
    · split
      · rfl
      · split <;> rfl
  · rfl

theorem repeatLast_within (e : Enclosing) (r : Reader) (least : Nat) (most : Option Nat)
    (isMarked : Bool) : (r.within e).repeatLast least most isMarked =
      (r.repeatLast least most isMarked).map (within e) := by
  unfold repeatLast
  rw [show (r.within e).level = r.level from rfl, show (r.within e).flags = r.flags from rfl]
  split <;> rfl

theorem leave_within (e : Enclosing) (h : r.outer ≠ []) :
    (r.within e).leave = r.leave.map (within e) := by
  unfold leave within
  cases hr : r.outer with
  | nil => exact absurd hr h
  | cons o os => rfl

/-- A step in one more group is the same step, unless it closes that group. -/
theorem step_within (e : Enclosing) (r : Reader) (c : Char) (cs : List Char)
    (h : c = ')' → r.outer ≠ []) :
    (r.within e).step c cs = (r.step c cs).map (Prod.map (within e) id) := by
  unfold step
  rw [show (r.within e).flags = r.flags from rfl]
  split
  · exact openGroup_within e r cs
  · rw [leave_within e (h rfl)]
    cases r.leave <;> rfl
  · rfl
  · split <;> rfl
  · rw [repeatLast_within]
    cases r.repeatLast _ _ _ <;> rfl
  · rw [repeatLast_within]
    cases r.repeatLast _ _ _ <;> rfl
  · rw [repeatLast_within]
    cases r.repeatLast _ _ _ <;> rfl
  · split
    · rfl
    · simp only [repeatLast_within]
      cases r.repeatLast _ _ _ <;> rfl
  · split
    · rfl
    · rw [show ∀ a, (r.within e).atom a = r.atom a from fun a => by cases a <;> rfl]
      split <;> rfl
  · rw [show (r.within e).dot = r.dot from rfl]
    split <;> rfl
  · rfl
  · rfl
  · rfl

/-! ### The whole text -/

/-- What a reader does next, without the proofs that the recursion rests on. -/
theorem run_eq (r : Reader) (cs : List Char) : r.run cs =
    match r.flags.skip cs with
    | [] => r.finish
    | c :: rest =>
      match r.step c rest with
      | .error e => .error e
      | .ok (s, rest) => s.run rest := by
  rw [run]
  split
  · next hs => rw [hs]
  · next hs =>
    rw [hs]
    split <;> next hr => simp only [hr]

theorem skip_nil (f : Flags) : f.skip [] = [] := by
  rw [Flags.skip]
  split <;> rfl

theorem skip_cons (f : Flags) {c : Char} {cs : List Char} (hc : isBlank c = false ∧ c ≠ '#') :
    f.skip (c :: cs) = c :: cs := by
  rw [Flags.skip]
  split
  · rw [skipVerbose, if_neg (by simp [hc.1]), if_neg hc.2]
  · rfl

theorem finish_within (e : Enclosing) (r : Reader) :
    (r.within e).finish = .error .groupUnclosed := by
  unfold finish within
  cases r.outer <;> rfl

theorem run_within_nil (e : Enclosing) (r : Reader) :
    (r.within e).run [] = .error .groupUnclosed := by
  rw [run_eq, skip_nil, finish_within]

theorem run_within_dollar (e : Enclosing) (r : Reader) :
    (r.within e).run ['$'] = .error .groupUnclosed := by
  rw [run_eq, skip_cons _ (by decide)]
  exact run_within_nil e (r.push (.anchor r.dollar))

/-- A brace that begins a count is an error in front of a closing text as well. -/
theorem run_leftBrace {r : Reader} {rest t : List Char} (ht : Closing t)
    (h : LeftBrace r.flags rest) (p : Pattern) : r.run (rest ++ t) ≠ .ok p := by
  obtain ⟨v, rfl, hv⟩ := h
  obtain ⟨e, he⟩ : ∃ e, readBounds r.flags (v ++ t) = .error e := by
    rcases ht.skip_append_or r.flags v with hskip | hskip
    case inr => exact ⟨.countUnclosed, by rw [readBounds, hskip]⟩
    obtain ⟨d, t, rfl, hd⟩ := ht.exists_cons
    have hdigits : readDigits r.flags none (d :: t) = (none, d :: t) := by
      rw [readDigits, if_neg (by rcases hd with rfl | rfl <;> decide)]
    have hblank : (d :: t).dropWhile isBlank = d :: t := by
      rcases hd with rfl | rfl <;> rfl
    refine ⟨.countMissing, ?_⟩
    rw [readBounds, hskip, hv, List.nil_append]
    simp only [readCount, hblank, hdigits]
  intro h
  rw [List.cons_append, run_eq, skip_cons _ (by decide)] at h
  simp only [step, he] at h
  cases h

/-- What stands around a pattern that has to span a text: the level in front of the
group that the pattern is put into. -/
def opening (ps : Properties) : Enclosing :=
  ⟨⟨[], [.pattern ⟨.anchor .textStart, 0⟩]⟩, { properties := ps }, none⟩

variable {ps : Properties}

/-- The level outside when a group has been read between the anchors. -/
theorem value_closed (n : Nested) :
    (((opening ps).level.push ⟨.group none n.pattern, n.depth + 1⟩).push
      ⟨.anchor .textEnd, 0⟩).value = ⟨between n.pattern, n.depth + 2⟩ := by
  have hbranch : depthOf [0, n.depth + 1, 0] = n.depth + 2 := by
    simp [depthOf]
  have hvalue : depthOf [n.depth + 2] = n.depth + 2 := by
    simp [depthOf]
  simp [Level.value, Level.branch, Level.push, opening, Part.depth, hbranch, hvalue, alts, seqs,
    between]

/-- A closing text ends the group around a finished pattern, and the text. -/
theorem run_closing {r : Reader} (hr : r.outer = []) :
    (r.within (opening ps)).run [')', '$'] =
      if r.level.value.depth + 2 ≤ maxDepth then .ok (between r.level.value.pattern)
      else .error .nestedTooDeep := by
  have hleave : (r.within (opening ps)).leave = .ok
      { r with
        flags := { properties := ps }
        level := (opening ps).level.push
          ⟨.group none r.level.value.pattern, r.level.value.depth + 1⟩
        outer := [] } := by
    unfold leave within
    rw [hr]
    rfl
  rw [run_eq, skip_cons _ (by decide)]
  simp only [step, hleave]
  rw [run_eq, skip_cons _ (by decide)]
  simp only [step]
  rw [run_eq]
  simp only [Flags.skip, push, finish, dollar, value_closed, Bool.false_eq_true, if_false]

/-- Within the closing text a reader never gets out of its group again. -/
theorem run_within_short {r s : Reader} {c : Char} {cs rest : List Char}
    (hstep : r.step c (cs ++ [')', '$']) = .ok (s, rest)) (hshort : rest.length < 2) :
    (s.within (opening ps)).run rest = .error .groupUnclosed := by
  have ht : Closing ['$'] := ⟨by simp, by simp⟩
  rcases Nat.eq_zero_or_pos rest.length with hzero | hpos
  · rw [List.eq_nil_of_length_eq_zero hzero, run_within_nil]
  · rw [List.append_cons cs ')' ['$']] at hstep
    obtain ⟨m, rfl, -⟩ := ht.step_append hstep hpos
    rw [List.length_append, List.length_singleton] at hshort
    rw [List.eq_nil_of_length_eq_zero (by omega : m.length = 0), List.nil_append,
      run_within_dollar]

/-- What a reader skips in front of the closing text ends there, if the text is read to
its end. -/
theorem skip_between {r : Reader} {cs : List Char} {q : Pattern}
    (h : (r.within (opening ps)).run (cs ++ [')', '$']) = .ok q) :
    r.flags.skip (cs ++ [')', '$']) = r.flags.skip cs ++ [')', '$'] := by
  have ht : Closing [')', '$'] := ⟨by simp, by simp⟩
  rcases ht.skip_append_or r.flags cs with hskip | hskip
  · exact hskip
  · rw [run_eq, show (r.within (opening ps)).flags = r.flags from rfl, hskip, finish_within] at h
    cases h

/-- The end of a text: its reader must be in the group between the anchors. -/
theorem end_between {r : Reader} {cs : List Char} {q : Pattern} (hs : r.flags.skip cs = [])
    (h : (r.within (opening ps)).run (cs ++ [')', '$']) = .ok q) :
    ∃ p, r.finish = .ok p ∧ q = between p := by
  have hclosing : (r.within (opening ps)).run [')', '$'] = .ok q := by
    rw [← h, run_eq, run_eq _ (cs ++ _), show (r.within (opening ps)).flags = r.flags from rfl,
      skip_cons _ (by decide), skip_between h, hs, List.nil_append]
  cases hr : r.outer with
  | nil =>
    rw [run_closing hr] at hclosing
    split at hclosing
    · next hdepth =>
      cases hclosing
      refine ⟨r.level.value.pattern, ?_, rfl⟩
      rw [finish, hr]
      exact if_pos (by omega)
    · cases hclosing
  | cons e es =>
    have hne : r.outer ≠ [] := by simp [hr]
    obtain ⟨s, hleave⟩ : ∃ s, r.leave = .ok s := by
      unfold leave
      rw [hr]
      exact ⟨_, rfl⟩
    rw [run_eq, skip_cons _ (by decide)] at hclosing
    simp only [step, leave_within (opening ps) hne, hleave, Except.map] at hclosing
    rw [run_within_dollar] at hclosing
    cases hclosing

/-- A step in a text that is read to its end between the anchors: it is the same step in
the text alone, or closes the group. -/
theorem step_between {r : Reader} {c : Char} {cs rest : List Char} {q : Pattern}
    (hs : r.flags.skip cs = c :: rest)
    (h : (r.within (opening ps)).run (cs ++ [')', '$']) = .ok q) :
    r.step c rest = .error .groupUnopened ∨
      ∃ s rest', r.step c rest = .ok (s, rest') ∧
        (s.within (opening ps)).run (rest' ++ [')', '$']) = .ok q := by
  have hsplit := skip_between h
  rw [run_eq, show (r.within (opening ps)).flags = r.flags from rfl, hsplit, hs] at h
  simp only [List.cons_append] at h
  by_cases hclose : c = ')' ∧ r.outer = []
  · obtain ⟨rfl, hr⟩ := hclose
    left
    simp only [step, leave, hr]
  right
  rw [step_within (opening ps) r c _ fun hc hr => hclose ⟨hc, hr⟩] at h
  cases hstep : r.step c (rest ++ [')', '$']) with
  | error e =>
    rw [hstep] at h
    cases h
  | ok x =>
    obtain ⟨s, w⟩ := x
    rw [hstep] at h
    have hrun : (s.within (opening ps)).run w = .ok q := h
    rcases Nat.lt_or_ge w.length 2 with hshort | hlen
    · rw [run_within_short hstep hshort] at hrun
      cases hrun
    · have ht : Closing [')', '$'] := ⟨by simp, by simp⟩
      obtain ⟨rest', rfl, hown | ⟨hflags, hbrace⟩⟩ := ht.step_append hstep hlen
      · exact ⟨s, rest', hown, hrun⟩
      · have hwithin : LeftBrace (s.within (opening ps)).flags rest' := by
          rw [show (s.within (opening ps)).flags = r.flags from hflags]
          exact hbrace
        exact absurd hrun (run_leftBrace ht hwithin q)

/-- **A text between anchors is read as the text is.**  If a reader in the group between
the anchors reads a text up to its end, then outside it reads the same pattern, or
finds that the text closes the group. -/
theorem run_between {r : Reader} {cs : List Char} {q : Pattern}
    (h : (r.within (opening ps)).run (cs ++ [')', '$']) = .ok q) :
    r.run cs = .error .groupUnopened ∨ ∃ p, r.run cs = .ok p ∧ q = between p := by
  fun_induction run r cs with
  | case1 r cs hs => exact .inr (end_between hs h)
  | case2 r cs c rest hs e he =>
    rcases step_between hs h with hown | ⟨s, rest', hown, -⟩
    · rw [hown] at he
      cases he
      exact .inl rfl
    · rw [hown] at he
      cases he
  | case3 r cs c rest hs s rest' he ih =>
    rcases step_between hs h with hown | ⟨s, rest', hown, hrun⟩
    · rw [hown] at he
      cases he
    · rw [hown] at he
      cases he
      exact ih hrun

end Reader

theorem parse_anchored (ps : Properties) (text : String) :
    parse ps (TokenPattern.anchored text) =
      ((Reader.start ps).within (Reader.opening ps)).run
        ((Text.trim text).toList ++ [')', '$']) := by
  have hcaret (cs : List Char) : (Reader.start ps).run ('^' :: cs) =
      ((Reader.start ps).push (.anchor .textStart)).run cs := by
    rw [Reader.run_eq]
    rfl
  have hgroup (cs : List Char) : ((Reader.start ps).push (.anchor .textStart)).run
      ('(' :: '?' :: ':' :: cs) = ((Reader.start ps).within (Reader.opening ps)).run cs := by
    rw [Reader.run_eq]
    rfl
  rw [parse, TokenPattern.anchored, String.toList_append, String.toList_append, ← hgroup, ← hcaret]
  rfl

/-! ### Whole tokens -/

/-- A pattern between the anchors is found in a text if it reads the whole of it. -/
theorem occursIn_between {p : Pattern} {v : String} : (between p).occursIn v = true ↔
    p.Reads v.toList.toArray 0 v.toList.length := by
  rw [occursIn_iff]
  constructor
  · rintro ⟨i, hi, j, k, ⟨rfl, hstart⟩, l, hread, rfl, hend⟩
    have hzero : k = 0 := by
      by_contra hk
      simp [Anchor.holds, neighbours, hk] at hstart
      omega
    subst hzero
    have hle := (forward_reads v.toList.toArray p 0 j (Nat.zero_le _) hread).2
    have hge : v.toList.length ≤ j := by
      simpa [Anchor.holds, neighbours] using hend
    rw [List.size_toArray] at hle
    rwa [Nat.le_antisymm hge hle]
  · intro hread
    refine ⟨0, Nat.zero_le _, _, 0, ⟨rfl, rfl⟩, _, hread, rfl, ?_⟩
    simp [Anchor.holds, neighbours]

end ContestExchange.Pattern

namespace ContestExchange.TokenPattern

open Pattern

/-- **A pattern for tokens takes whole tokens.**  If a text is compiled at all, then it is
a pattern by itself, and the tokens that are taken are those which this pattern reads from
the first to the last character.  The exception is a text that closes a group which it
has not opened: that group is the one between the anchors.  All this is so whatever the
names of properties stand for. -/
theorem compile_whole {properties : Properties} {text : String} {q : TokenPattern}
    (h : compile text properties = .ok q) :
    parse properties (Text.trim text) = .error .groupUnopened ∨
      ∃ p, parse properties (Text.trim text) = .ok p ∧
        ∀ v, q.accepts v = true ↔ p.Reads v.toList.toArray 0 v.toList.length := by
  rw [compile] at h
  split at h
  · cases h
  · next p' hp' =>
    split at h
    · cases h
      rw [parse_anchored] at hp'
      rcases Reader.run_between hp' with hopened | ⟨p, hp, rfl⟩
      · exact .inl hopened
      · exact .inr ⟨p, hp, fun v => occursIn_between⟩
    · cases h

theorem compile_whole_property : ∃ q, compile " [\\p{Lu}&&[A-Z]][0-9]+ " = .ok q ∧
    (parse .unicode (Text.trim " [\\p{Lu}&&[A-Z]][0-9]+ ") = .error .groupUnopened ∨
      ∃ p, parse .unicode (Text.trim " [\\p{Lu}&&[A-Z]][0-9]+ ") = .ok p ∧
        ∀ v, q.accepts v = true ↔ p.Reads v.toList.toArray 0 v.toList.length) := by
  have hcompiled : (compile " [\\p{Lu}&&[A-Z]][0-9]+ ").toOption.isSome = true := by decide +kernel
  cases hq : compile " [\\p{Lu}&&[A-Z]][0-9]+ " with
  | error e =>
    rw [hq] at hcompiled
    cases hcompiled
  | ok q => exact ⟨q, rfl, compile_whole hq⟩

/-- A text that closes the group between the anchors, and opens another one in front of
the second: it is no pattern, and what it compiles to takes tokens that go on behind the
first character. -/
theorem compile_closing : ∃ q, compile "a)|(b" = .ok q ∧
    (∀ p, parse .unicode (Text.trim "a)|(b") ≠ .ok p) ∧ q.accepts "ax" = true := by
  have htaken : (compile "a)|(b").toOption.any (·.accepts "ax") = true := by decide +kernel
  have hparsed : (parse .unicode (Text.trim "a)|(b")).toOption.isNone = true := by decide +kernel
  cases hq : compile "a)|(b" with
  | error e =>
    rw [hq] at htaken
    cases htaken
  | ok q =>
    refine ⟨q, rfl, fun p hp => ?_, ?_⟩
    · rw [hp] at hparsed
      cases hparsed
    · rw [hq] at htaken
      exact htaken

end ContestExchange.TokenPattern
