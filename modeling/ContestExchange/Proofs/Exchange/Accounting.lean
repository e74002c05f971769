import ContestExchange.Proofs.Exchange.Reading

/-!
# What becomes of each token

A token without dots ends in one of three ways: it is placed in a slot, and then no
other token is; it is the only one that was not placed and is taken for the
corrected callsign; or it is left over.  The entries, the corrected callsign and
the validity of an exchange are told by which of the three it is (`Accounts`,
`exists_accounts`).

That no slot is given to two tokens (`Separate`) and that a token goes only where
it is legal (`Narrows`) are kept by every move, so they hold of whatever `solve`
gives.
-/

namespace ContestExchange

namespace Placement

variable {ps qs rs : Placement}

/-- No slot is given to two tokens. -/
def Separate (ps : Placement) : Prop :=
  ∀ t u s : Nat, ps[t]? = some (.placed s) → ps[u]? = some (.placed s) → t = u

theorem Move.separate (hm : Move ps qs) (ha : ps.Apart) (hs : ps.Separate) : qs.Separate := by
  obtain ⟨v, r, l, hl, hr, rfl⟩ := hm.exists_assign
  intro t u s ht hu
  rcases (getElem?_assign_eq_placed_iff hl).1 ht with ⟨rfl, rfl⟩ | ⟨-, ht'⟩
  · rcases (getElem?_assign_eq_placed_iff hl).1 hu with ⟨rfl, -⟩ | ⟨-, hu'⟩
    · rfl
    · exact absurd hr (ha _ _ _ _ hl hu')
  · rcases (getElem?_assign_eq_placed_iff hl).1 hu with ⟨rfl, rfl⟩ | ⟨-, hu'⟩
    · exact absurd hr (ha _ _ _ _ hl ht')
    · exact hs t u s ht' hu'

/-- Tokens go nowhere that they could not go before. -/
def Narrows (ps qs : Placement) : Prop :=
  ∀ (t s : Nat) (q : Progress), qs[t]? = some q → q.Allows s → ∃ p, ps[t]? = some p ∧ p.Allows s

theorem Move.narrows (hm : Move qs rs) (h : Narrows ps qs) : Narrows ps rs := by
  obtain ⟨v, r, l, hl, hr, rfl⟩ := hm.exists_assign
  intro t s q hq hs
  rcases allows_of_assign hq hs with ⟨rfl, rfl⟩ | ⟨-, q', hq', hs'⟩
  · exact h t s (.undecided l) hl hr
  · exact h t s q' hq' hs'

theorem Moves.narrows (h : Moves ps qs) : Narrows ps qs :=
  h.keeps (fun _ _ hm hn => hm.narrows hn) fun _ _ q hq hs => ⟨q, hq, hs⟩

theorem nodup_leftovers (ps : Placement) : ps.leftovers.Nodup :=
  List.nodup_range.filter _

end Placement

namespace Catalogue

/-! ### The corrected callsign -/

/-- The tokens without dots. -/
def plain (received : List String) : List String :=
  received.filter (!isDotted ·)

/-- The callsign is the first dotted token that holds more than dots, without its dots. -/
def IsDottedCall (received : List String) (call : String) : Prop :=
  ∃ before token after, received = before ++ token :: after ∧ isDotted token = true ∧
    undotted token = call ∧ call ≠ "" ∧ ∀ t ∈ before, isDotted t = true → undotted t = ""

theorem dottedCall?_cons (t : String) (r : List String) :
    dottedCall? (t :: r) =
      if isDotted t = true ∧ undotted t ≠ "" then some (undotted t) else dottedCall? r := by
  rw [dottedCall?, dottedCall?, List.filter_cons]
  by_cases hd : isDotted t = true
  · rw [if_pos hd, List.map_cons, List.find?_cons]
    by_cases hu : undotted t = ""
    · simp [hu]
    · rw [bne_iff_ne.2 hu, if_pos ⟨hd, hu⟩]
  · simp [hd]

theorem dottedCall?_eq_some_iff {received : List String} {call : String} :
    dottedCall? received = some call ↔ IsDottedCall received call := by
  induction received with
  | nil =>
    constructor
    · intro h
      cases h
    · rintro ⟨before, t, after, he, -⟩
      cases before <;> cases he
  | cons t r ih =>
    rw [dottedCall?_cons]
    by_cases h : isDotted t = true ∧ undotted t ≠ ""
    · rw [if_pos h]
      constructor
      · rintro ⟨⟩
        exact ⟨[], t, r, rfl, h.1, rfl, h.2, fun _ hv => absurd hv List.not_mem_nil⟩
      · rintro ⟨before, u, after, he, -, hu, -, hbefore⟩
        cases before with
        | nil => rw [(List.cons.inj he).1, hu]
        | cons t' before =>
          obtain ⟨rfl, -⟩ := List.cons.inj he
          exact absurd (hbefore t List.mem_cons_self h.1) h.2
    · rw [if_neg h, ih]
      constructor
      · rintro ⟨before, u, after, rfl, hd, hu, hne, hbefore⟩
        refine ⟨t :: before, u, after, rfl, hd, hu, hne, fun v hv hvd => ?_⟩
        rcases List.mem_cons.1 hv with rfl | hv
        · by_contra hvne
          exact h ⟨hvd, hvne⟩
        · exact hbefore v hv hvd
      · rintro ⟨before, u, after, he, hd, hu, hne, hbefore⟩
        cases before with
        | nil =>
          obtain ⟨rfl, -⟩ := List.cons.inj he
          exact absurd ⟨hd, hu ▸ hne⟩ h
        | cons t' before =>
          obtain ⟨rfl, hr⟩ := List.cons.inj he
          exact ⟨before, u, after, hr, hd, hu, hne,
            fun v hv => hbefore v (List.mem_cons_of_mem t hv)⟩

/-! ### Accounts -/

/-- Which of the tokens each slot got, if any. -/
abbrev Filling (template : Template) (tokens : List String) : Type :=
  Fin template.length → Option (Fin tokens.length)

/-- No slot got the token. -/
def Unplaced {template : Template} {tokens : List String} (m : Filling template tokens)
    (i : Fin tokens.length) : Prop :=
  ∀ s, m s ≠ some i

/-- The token is taken for the corrected callsign: none was sent with dots, no other token is
unplaced, and it looks like one. -/
structure TakenAsCall {template : Template} (received : List String)
    (m : Filling template (plain received)) (i : Fin (plain received).length) : Prop where
  no_dotted : ∀ call, ¬IsDottedCall received call
  only : ∀ j, Unplaced m j ↔ j = i
  callsign : Callsign.isPlausible ((plain received).get i) = true

/-- The exchange accounts for every token, if the slots got the tokens that are given here. -/
structure Accounts (c : Catalogue) (template : Template) (received : List String)
    (m : Filling template (plain received)) (x : Exchange) : Prop where
  injective : ∀ {s s' i}, m s = some i → m s' = some i → s = s'
  length_entries : x.entries.length = template.length
  filled : ∀ {s i}, m s = some i →
    c.isLegal (template.get s).name ((plain received).get i) = true ∧
      ∃ id f v, c.resolve? (template.get s).name ((plain received).get i) = some id ∧
        c.fields[id]? = some f ∧
        c.canonical? (template.get s).name ((plain received).get i) = some v ∧
        x.entries[s.1]? = some ⟨f.name, (template.get s).name, v, f.isMult⟩
  unfilled : ∀ {s}, m s = none → x.entries[s.1]? =
    some ⟨(template.get s).name, (template.get s).name, "", c.isMult (template.get s).name⟩
  correction_iff : ∀ call, x.correction = some call ↔
    IsDottedCall received call ∨ ∃ i, TakenAsCall received m i ∧ (plain received).get i = call
  isValid_iff : x.isValid = true ↔ (∀ s, (template.get s).isOptional = false → m s ≠ none) ∧
    ∀ i, (∃ s, m s = some i) ∨ TakenAsCall received m i
  received : x.received = received

/-! ### Where the tokens are -/

section Placed

variable {c : Catalogue} {template : Template} {tokens : List String}

theorem separate_solve (c : Catalogue) (template : Template) (tokens : List String) :
    (c.candidatePlacement template tokens).solve.Separate := by
  have hrun := Placement.solve_isRun (c.ordered_candidatePlacement template tokens)
  have hstart : (c.candidatePlacement template tokens).Separate := by
    intro t u s ht
    rw [candidatePlacement, List.getElem?_map, Option.map_eq_some_iff] at ht
    obtain ⟨token, -, he⟩ := ht
    cases he
  exact (hrun.moves.keeps (P := fun ps => ps.Apart ∧ ps.Separate)
    (fun _ _ hm h => ⟨hm.apart h.1, hm.separate h.1 h.2⟩)
    ⟨c.apart_candidatePlacement template tokens, hstart⟩).2

theorem length_solve (c : Catalogue) (template : Template) (tokens : List String) :
    (c.candidatePlacement template tokens).solve.length = tokens.length :=
  (Placement.solve_isRun (c.ordered_candidatePlacement template tokens)).moves.length_eq.trans
    (List.length_map _)

/-- **A token is placed only where it is legal.** -/
theorem isLegal_of_placed {i : Fin tokens.length} {s : Nat}
    (h : (c.candidatePlacement template tokens).solve[i.1]? = some (.placed s)) :
    ∃ slot, template[s]? = some slot ∧ c.isLegal slot.name (tokens.get i) = true := by
  have hrun := Placement.solve_isRun (c.ordered_candidatePlacement template tokens)
  obtain ⟨p, hp, ha⟩ := hrun.moves.narrows i.1 s _ h rfl
  rw [c.getElem?_candidatePlacement template tokens i, Option.some.injEq] at hp
  subst hp
  exact mem_candidates_iff.1 ha

/-- The slots got the tokens that `solve` placed there. -/
def Gives (c : Catalogue) (m : Filling template tokens) : Prop :=
  ∀ s i, m s = some i ↔ (c.candidatePlacement template tokens).solve[i.1]? = some (.placed s.1)

theorem exists_gives (c : Catalogue) (template : Template) (tokens : List String) :
    ∃ m : Filling template tokens, c.Gives m := by
  classical
  refine ⟨fun s => if h : ∃ i : Fin tokens.length,
    (c.candidatePlacement template tokens).solve[i.1]? = some (.placed s.1) then some h.choose
      else none, fun s i => ?_⟩
  dsimp only
  split
  · rename_i h
    rw [Option.some.injEq]
    constructor
    · rintro rfl
      exact h.choose_spec
    · intro hi
      exact Fin.ext (c.separate_solve template tokens _ _ _ h.choose_spec hi)
  · rename_i h
    exact ⟨fun he => absurd he (by simp), fun hi => absurd ⟨i, hi⟩ h⟩

variable {m : Filling template tokens}

theorem unplaced_iff_mem_leftovers (hm : c.Gives m) (i : Fin tokens.length) :
    Unplaced m i ↔ i.1 ∈ (c.candidatePlacement template tokens).solve.leftovers := by
  rw [Placement.mem_leftovers_iff]
  constructor
  · intro hi
    have hlt : i.1 < (c.candidatePlacement template tokens).solve.length :=
      (c.length_solve template tokens).symm ▸ i.2
    have hget := List.getElem?_eq_getElem hlt
    cases hp : (c.candidatePlacement template tokens).solve[i.1] with
    | undecided l => exact ⟨l, hp ▸ hget⟩
    | placed s =>
      rw [hp] at hget
      obtain ⟨slot, hs, -⟩ := isLegal_of_placed hget
      exact absurd ((hm ⟨s, (List.getElem?_eq_some_iff.1 hs).1⟩ i).2 hget) (hi _)
  · rintro ⟨l, hl⟩ s hs
    rw [(hm s i).1 hs] at hl
    cases hl

theorem lt_of_mem_leftovers {i : Nat}
    (h : i ∈ (c.candidatePlacement template tokens).solve.leftovers) : i < tokens.length := by
  obtain ⟨l, hl⟩ := Placement.mem_leftovers_iff.1 h
  exact c.length_solve template tokens ▸ (List.getElem?_eq_some_iff.1 hl).1

/-- The tokens that are left over. -/
def leftoverTokens (c : Catalogue) (template : Template) (tokens : List String) : List String :=
  (c.candidatePlacement template tokens).solve.leftovers.filterMap (tokens[·]?)

theorem leftoverTokens_eq_nil_iff (hm : c.Gives m) :
    c.leftoverTokens template tokens = [] ↔ ∀ i, ∃ s, m s = some i := by
  rw [leftoverTokens, List.filterMap_eq_nil_iff]
  constructor
  · intro h i
    by_contra hnone
    have hi := h i.1 ((unplaced_iff_mem_leftovers hm i).1 fun s hs => hnone ⟨s, hs⟩)
    rw [List.getElem?_eq_getElem i.2] at hi
    cases hi
  · intro h i hi
    obtain ⟨s, hs⟩ := h ⟨i, lt_of_mem_leftovers hi⟩
    exact absurd hs ((unplaced_iff_mem_leftovers hm _).2 hi s)

theorem leftoverTokens_eq_singleton_iff (hm : c.Gives m) {t : String} :
    c.leftoverTokens template tokens = [t] ↔
      ∃ i : Fin tokens.length, (∀ j, Unplaced m j ↔ j = i) ∧ tokens.get i = t := by
  have hlt : ∀ i ∈ (c.candidatePlacement template tokens).solve.leftovers, i < tokens.length :=
    fun i hi => lt_of_mem_leftovers hi
  have hmem := unplaced_iff_mem_leftovers hm
  have hnodup := (c.candidatePlacement template tokens).solve.nodup_leftovers
  rw [leftoverTokens]
  generalize (c.candidatePlacement template tokens).solve.leftovers = l at hlt hmem hnodup
  constructor
  · intro h
    match l with
    | [] => cases h
    | [i] =>
      have hi := hlt i List.mem_cons_self
      rw [List.filterMap_cons, List.getElem?_eq_getElem hi] at h
      exact ⟨⟨i, hi⟩, fun j => by rw [hmem, List.mem_singleton, Fin.ext_iff], (List.cons.inj h).1⟩
    | i :: j :: r =>
      have hi := hlt i List.mem_cons_self
      have hj := hlt j (List.mem_cons_of_mem i List.mem_cons_self)
      rw [List.filterMap_cons, List.getElem?_eq_getElem hi, List.filterMap_cons,
        List.getElem?_eq_getElem hj] at h
      cases (List.cons.inj h).2
  · rintro ⟨i, honly, rfl⟩
    have hl : l = [i.1] := by
      refine List.perm_singleton.1 ((List.perm_ext_iff_of_nodup hnodup (List.nodup_singleton _)).2
        fun j => ?_)
      rw [List.mem_singleton]
      constructor
      · intro hj
        exact congrArg Fin.val ((honly ⟨j, hlt j hj⟩).1 ((hmem _).2 hj))
      · rintro rfl
        exact (hmem i).1 ((honly i).2 rfl)
    rw [hl, List.filterMap_cons, List.getElem?_eq_getElem i.2]
    rfl

/-- What the slots got, slot by slot. -/
theorem zip_tokensFound_of_gives (hm : c.Gives m) (s : Fin template.length) :
    (template.zip (c.tokensFound template tokens))[s.1]? =
      some (template.get s, (m s).map tokens.get) := by
  rw [zip_tokensFound_getElem?]
  cases hs : m s with
  | some i =>
    have htoken : (c.candidatePlacement template tokens).solve.token? s.1 = some i.1 := by
      refine Placement.token?_eq_some_iff.2 ⟨(hm s i).1 hs, fun u hu hp => ?_⟩
      exact Nat.ne_of_lt hu (c.separate_solve template tokens _ _ _ hp ((hm s i).1 hs))
    rw [htoken, Option.bind_some, List.getElem?_eq_getElem i.2]
    rfl
  | none =>
    cases htoken : (c.candidatePlacement template tokens).solve.token? s.1 with
    | none => rfl
    | some t =>
      have ht := (Placement.token?_eq_some_iff.1 htoken).1
      have hlt : t < tokens.length :=
        c.length_solve template tokens ▸ (List.getElem?_eq_some_iff.1 ht).1
      rw [(hm s ⟨t, hlt⟩).2 ht] at hs
      cases hs

end Placed

/-! ### What is read -/

/-- The corrected callsign, and whether no token is left over then. -/
def corrected (received leftovers : List String) : Option String × Bool :=
  match dottedCall? received, leftovers with
  | some call, _ => (some call, leftovers.isEmpty)
  | none, [t] => if Callsign.isPlausible t then (some t, true) else (none, false)
  | none, l => (none, l.isEmpty)

variable {c : Catalogue} {template : Template} {received : List String}

theorem readTokens_of_enough (h : template.requiredCount ≤ (plain received).length) :
    c.readTokens template received = .ok {
      entries := (template.zip (c.tokensFound template (plain received))).map
        fun s => c.entry s.1 s.2
      correction := (corrected received (c.leftoverTokens template (plain received))).1
      isValid := ((template.zip (c.tokensFound template (plain received))).all fun s =>
          s.1.isOptional || (c.filling? s.1 s.2).isSome) &&
        (corrected received (c.leftoverTokens template (plain received))).2
      received } := by
  rw [readTokens]
  exact if_neg (Nat.not_lt.2 h)

theorem corrected_of_dotted {call : String} (h : dottedCall? received = some call)
    (l : List String) : corrected received l = (some call, l.isEmpty) := by
  simp only [corrected, h]

theorem corrected_of_guess {t : String} (h : dottedCall? received = none)
    (ht : Callsign.isPlausible t = true) : corrected received [t] = (some t, true) := by
  simp only [corrected, h, ht, if_true]

theorem corrected_of_none {l : List String} (h : dottedCall? received = none)
    (hl : ∀ t, l = [t] → Callsign.isPlausible t = false) :
    corrected received l = (none, l.isEmpty) := by
  simp only [corrected, h]
  match l with
  | [] => rfl
  | [t] => simp [hl t rfl]
  | _ :: _ :: _ => rfl

theorem not_dotted_iff : dottedCall? received = none ↔ ∀ call, ¬IsDottedCall received call := by
  simp only [← dottedCall?_eq_some_iff]
  rw [Option.eq_none_iff_forall_ne_some]

section Corrected

variable {m : Filling template (plain received)} (hm : c.Gives m)
include hm

theorem corrected_iff (call : String) :
    (corrected received (c.leftoverTokens template (plain received))).1 = some call ↔
      IsDottedCall received call ∨
        ∃ i, TakenAsCall received m i ∧ (plain received).get i = call := by
  cases hd : dottedCall? received with
  | some call' =>
    rw [corrected_of_dotted hd, ← dottedCall?_eq_some_iff, hd]
    refine ⟨.inl, ?_⟩
    rintro (he | ⟨i, hi, -⟩)
    · exact he
    · exact absurd (dottedCall?_eq_some_iff.1 hd) (hi.no_dotted call')
  | none =>
    have hno := not_dotted_iff.1 hd
    by_cases hg : ∃ i, TakenAsCall received m i
    · obtain ⟨i, hi⟩ := hg
      rw [(leftoverTokens_eq_singleton_iff hm).2 ⟨i, hi.only, rfl⟩,
        corrected_of_guess hd hi.callsign, Option.some.injEq]
      refine ⟨fun he => .inr ⟨i, hi, he⟩, ?_⟩
      rintro (he | ⟨j, hj, rfl⟩)
      · exact absurd he (hno call)
      · rw [(hi.only j).1 ((hj.only j).2 rfl)]
    · rw [corrected_of_none hd]
      · refine ⟨fun he => absurd he (by simp), ?_⟩
        rintro (he | ⟨i, hi, -⟩)
        · exact absurd he (hno call)
        · exact absurd ⟨i, hi⟩ hg
      · intro t ht
        obtain ⟨i, honly, rfl⟩ := (leftoverTokens_eq_singleton_iff hm).1 ht
        by_contra hp
        exact hg ⟨i, hno, honly, by simpa using hp⟩

theorem corrected_settles_iff :
    (corrected received (c.leftoverTokens template (plain received))).2 = true ↔
      ∀ i, (∃ s, m s = some i) ∨ TakenAsCall received m i := by
  by_cases hg : ∃ i, TakenAsCall received m i
  · obtain ⟨i, hi⟩ := hg
    rw [(leftoverTokens_eq_singleton_iff hm).2 ⟨i, hi.only, rfl⟩,
      corrected_of_guess (not_dotted_iff.2 hi.no_dotted) hi.callsign]
    refine ⟨fun _ j => ?_, fun _ => rfl⟩
    by_contra hj
    rw [not_or, not_exists] at hj
    exact hj.2 ((hi.only j).1 hj.1 ▸ hi)
  · have hempty : (corrected received (c.leftoverTokens template (plain received))).2 =
        (c.leftoverTokens template (plain received)).isEmpty := by
      cases hd : dottedCall? received with
      | some call => rw [corrected_of_dotted hd]
      | none =>
        rw [corrected_of_none hd]
        intro t ht
        obtain ⟨i, honly, rfl⟩ := (leftoverTokens_eq_singleton_iff hm).1 ht
        by_contra hp
        exact hg ⟨i, not_dotted_iff.1 hd, honly, by simpa using hp⟩
    rw [hempty, List.isEmpty_iff, leftoverTokens_eq_nil_iff hm]
    exact forall_congr' fun i => ⟨.inl, fun h => h.resolve_right fun ht => hg ⟨i, ht⟩⟩

end Corrected

/-! ### Slots -/

/-- What the entry of a slot shows of a legal token, told by what the name resolves to. -/
theorem exists_shown {slot : Slot} {token : String} (h : c.isLegal slot.name token = true) :
    ∃ id f v, c.resolve? slot.name token = some id ∧ c.fields[id]? = some f ∧
      c.canonical? slot.name token = some v ∧
      c.entry slot (some token) = ⟨f.name, slot.name, v, f.isMult⟩ := by
  obtain ⟨id, hid⟩ := Option.isSome_iff_exists.1 h
  obtain ⟨f, v, hf, hfv, hv⟩ := exists_canonical?_of_resolve? hid
  exact ⟨id, f, v, hid, hf, hv, entry_of_resolve? hid hf hfv⟩

section Filled

variable {m : Filling template (plain received)} (hm : c.Gives m)
include hm

theorem isLegal_of_gives {s : Fin template.length} {i : Fin (plain received).length}
    (hs : m s = some i) : c.isLegal (template.get s).name ((plain received).get i) = true := by
  obtain ⟨slot, hslot, hlegal⟩ := isLegal_of_placed ((hm s i).1 hs)
  obtain ⟨_, rfl⟩ := List.getElem?_eq_some_iff.1 hslot
  exact hlegal

theorem isSome_filling?_iff (s : Fin template.length) :
    (c.filling? (template.get s) ((m s).map (plain received).get)).isSome = true ↔ m s ≠ none := by
  cases hs : m s with
  | none =>
    rw [Option.map_none, filling?_none]
    simp
  | some i =>
    rw [Option.map_some, isSome_filling? (isLegal_of_gives hm hs)]
    simp

theorem all_filled_iff :
    ((template.zip (c.tokensFound template (plain received))).all fun s =>
        s.1.isOptional || (c.filling? s.1 s.2).isSome) = true ↔
      ∀ s, (template.get s).isOptional = false → m s ≠ none := by
  rw [List.all_eq_true]
  constructor
  · intro hall s hopt
    have hs := hall _ (List.mem_of_getElem? (zip_tokensFound_of_gives hm s))
    rw [hopt, Bool.false_or] at hs
    exact (isSome_filling?_iff hm s).1 hs
  · intro hreq p hp
    obtain ⟨s, hs, hget⟩ := List.getElem_of_mem hp
    have hs' : s < template.length := length_zip_tokensFound c template (plain received) ▸ hs
    have hp' := (List.getElem?_eq_some_iff.2 ⟨hs, hget⟩).symm.trans
      (zip_tokensFound_of_gives hm ⟨s, hs'⟩)
    obtain rfl := Option.some.inj hp'
    cases hopt : (template.get ⟨s, hs'⟩).isOptional with
    | true => rfl
    | false =>
      rw [Bool.false_or]
      exact (isSome_filling?_iff hm ⟨s, hs'⟩).2 (hreq ⟨s, hs'⟩ hopt)

end Filled

/-! ### The account -/

/-- **An exchange that can be read accounts for every token.** -/
theorem exists_accounts (c : Catalogue) (h : template.requiredCount ≤ (plain received).length) :
    ∃ x m, c.readTokens template received = .ok x ∧ c.Accounts template received m x := by
  obtain ⟨m, hm⟩ := c.exists_gives template (plain received)
  have hentry : ∀ s, ((template.zip (c.tokensFound template (plain received))).map
      fun s => c.entry s.1 s.2)[s.1]? =
        some (c.entry (template.get s) ((m s).map (plain received).get)) := by
    intro s
    rw [List.getElem?_map, zip_tokensFound_of_gives hm s]
    rfl
  refine ⟨_, m, readTokens_of_enough h, ⟨fun {s s' i} hs hs' => ?_, ?_, fun {s i} hs => ?_,
    fun {s} hs => ?_, corrected_iff hm, ?_, rfl⟩⟩
  · have hp := (hm s i).1 hs
    rw [(hm s' i).1 hs', Option.some.injEq, Progress.placed.injEq] at hp
    exact Fin.ext hp.symm
  · rw [List.length_map, length_zip_tokensFound]
  · have hlegal := isLegal_of_gives hm hs
    obtain ⟨id, f, v, hid, hf, hv, hshown⟩ := exists_shown hlegal
    refine ⟨hlegal, id, f, v, hid, hf, hv, ?_⟩
    rw [hentry s, hs, Option.map_some, hshown]
  · rw [hentry s, hs, Option.map_none, entry_none]
    rfl
  · rw [Bool.and_eq_true, all_filled_iff hm, corrected_settles_iff hm]

theorem requiredCount_le_of_readTokens {x : Exchange} (h : c.readTokens template received = .ok x) :
    template.requiredCount ≤ (plain received).length := by
  by_contra hlt
  rw [readTokens] at h
  have he := (if_pos (Nat.lt_of_not_le hlt)).symm.trans h
  cases he

theorem accounts_of_readTokens {x : Exchange} (h : c.readTokens template received = .ok x) :
    ∃ m, c.Accounts template received m x := by
  obtain ⟨x', m, hx', ha⟩ := c.exists_accounts (requiredCount_le_of_readTokens h)
  obtain rfl := Except.ok.inj (h.symm.trans hx')
  exact ⟨m, ha⟩

/-- **Every token is accounted for.**  Reading fails for want of tokens only; otherwise a slot
shows the token that it got, no slot shares it, and the corrected callsign and the validity are
told by the tokens that no slot got. -/
theorem readTokens_accounts (c : Catalogue) (template : Template) (received : List String) :
    (c.readTokens template received =
        .error (.tooFewTokens template.requiredCount (plain received).length) ↔
      (plain received).length < template.requiredCount) ∧
    ((plain received).length < template.requiredCount ∨
      ∃ x m, c.readTokens template received = .ok x ∧ c.Accounts template received m x) := by
  by_cases h : (plain received).length < template.requiredCount
  · refine ⟨⟨fun _ => h, fun _ => ?_⟩, .inl h⟩
    rw [readTokens]
    exact if_pos h
  · obtain ⟨x, m, hx, ha⟩ := c.exists_accounts (Nat.le_of_not_lt h)
    refine ⟨⟨fun he => ?_, fun h' => absurd h' h⟩, .inr ⟨x, m, hx, ha⟩⟩
    rw [hx] at he
    cases he

end Catalogue

end ContestExchange
