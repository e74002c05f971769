import ContestExchange.Proofs.Exchange.Accounting
import ContestExchange.Proofs.Placement.Thinning

/-!
# Stray tokens

A token that is legal in no slot of the template is a stray.  It has no slot to go to from
the start, so leaving it out changes nothing for the others
(`Placement.Embeds.solve`), and what the slots show is told by the rest of the tokens, in
their order (`tokensFound_filter`).  Strays can only be left over: where every token has
been placed a stray that comes in is the only one that is not, and if it looks like a
callsign it is taken for the corrected one.
-/

namespace ContestExchange.Catalogue

variable {c : Catalogue} {template : Template} {received tokens : List String} {token : String}

/-- Whether the token is legal in some slot of the template. -/
def fits (c : Catalogue) (template : Template) (token : String) : Bool :=
  template.any fun slot => c.isLegal slot.name token

/-- The tokens without dots that are legal in some slot, in the order received. -/
def fitting (c : Catalogue) (template : Template) (received : List String) : List String :=
  (plain received).filter (c.fits template)

theorem fits_eq_false_iff : c.fits template token = false ↔
    ∀ slot ∈ template, c.isLegal slot.name token = false := by
  simp only [fits, List.any_eq_false, Bool.not_eq_true]

theorem candidates_of_not_fits (h : c.fits template token = false) :
    c.candidates template token = [] := by
  refine List.eq_nil_iff_forall_not_mem.2 fun i hi => ?_
  obtain ⟨slot, hs, hlegal⟩ := mem_candidates_iff.1 hi
  rw [fits_eq_false_iff.1 h slot (List.mem_of_getElem? hs)] at hlegal
  cases hlegal

/-! ### Leaving out strays -/

theorem exists_strictMono_filter {α : Type} (p : α → Bool) (l : List α) :
    ∃ e : Nat → Nat, StrictMono e ∧ (∀ i, l[e i]? = (l.filter p)[i]?) ∧
      ∀ (t : Nat) (a : α), l[t]? = some a → p a = true → t ∈ Set.range e := by
  induction l with
  | nil => exact ⟨id, strictMono_id, fun i => rfl, fun t a ht => by simp at ht⟩
  | cons b l ih =>
    obtain ⟨e, hmono, hget, hrange⟩ := ih
    by_cases hb : p b = true
    · refine ⟨fun i => i.casesOn 0 fun i => e i + 1, ?_, ?_, ?_⟩
      · intro i j hij
        cases i with
        | zero =>
          cases j with
          | zero => exact absurd hij (Nat.lt_irrefl 0)
          | succ j => exact Nat.succ_pos (e j)
        | succ i =>
          cases j with
          | zero => exact absurd hij (Nat.not_lt_zero _)
          | succ j => exact Nat.succ_lt_succ (hmono (Nat.lt_of_succ_lt_succ hij))
      · intro i
        rw [List.filter_cons_of_pos hb]
        cases i with
        | zero => rfl
        | succ i => exact hget i
      · intro t a ht ha
        cases t with
        | zero => exact ⟨0, rfl⟩
        | succ t =>
          obtain ⟨i, rfl⟩ := hrange t a ht ha
          exact ⟨i + 1, rfl⟩
    · refine ⟨fun i => e i + 1, fun i j hij => Nat.succ_lt_succ (hmono hij), ?_, ?_⟩
      · intro i
        rw [List.filter_cons_of_neg hb]
        exact hget i
      · intro t a ht ha
        cases t with
        | zero =>
          obtain rfl := Option.some.inj ht
          exact absurd ha hb
        | succ t =>
          obtain ⟨i, rfl⟩ := hrange t a ht ha
          exact ⟨i, rfl⟩

/-- **Strays may go nowhere**, so the tokens are placed as they are without them. -/
theorem exists_embeds_filter (c : Catalogue) (template : Template) (tokens : List String) :
    ∃ e, (∀ i, tokens[e i]? = (tokens.filter (c.fits template))[i]?) ∧
      (∀ (t : Nat) (token : String), tokens[t]? = some token → c.fits template token = true →
        t ∈ Set.range e) ∧
      Placement.Embeds e (c.candidatePlacement template (tokens.filter (c.fits template))).solve
        (c.candidatePlacement template tokens).solve := by
  obtain ⟨e, hmono, hget, hrange⟩ := exists_strictMono_filter (c.fits template) tokens
  refine ⟨e, hget, hrange, Placement.Embeds.solve ⟨hmono, fun i => ?_, fun t p hp ht => ?_⟩⟩
  · rw [candidatePlacement, candidatePlacement, List.getElem?_map, List.getElem?_map, hget]
  · rw [candidatePlacement, List.getElem?_map, Option.map_eq_some_iff] at hp
    obtain ⟨token, htoken, rfl⟩ := hp
    have hnot : c.fits template token = false := by
      by_contra hfits
      exact ht (hrange t token htoken (Bool.eq_true_of_not_eq_false hfits))
    rw [candidates_of_not_fits hnot]

/-- **The slots get what they get without the strays.** -/
theorem tokensFound_filter (c : Catalogue) (template : Template) (tokens : List String) :
    c.tokensFound template (tokens.filter (c.fits template)) = c.tokensFound template tokens := by
  obtain ⟨e, hget, -, he⟩ := c.exists_embeds_filter template tokens
  rw [tokensFound, tokensFound]
  refine List.map_congr_left fun s _ => ?_
  rw [he.token? s, Option.bind_map]
  exact congrArg (Option.bind _) (funext fun i => (hget i).symm)

/-! ### A stray that comes in -/

theorem filter_insert {α : Type} {p : α → Bool} {a : α} (l r : List α) (h : p a = false) :
    (l ++ a :: r).filter p = (l ++ r).filter p := by
  rw [List.filter_append, List.filter_append, List.filter_cons_of_neg (Bool.eq_false_iff.1 h)]

theorem eq_or_mem_of_getElem?_insert {α : Type} {l r : List α} {a b : α} {i : Nat}
    (h : (l ++ a :: r)[i]? = some b) : i = l.length ∨ b ∈ l ++ r := by
  rcases Nat.lt_trichotomy i l.length with hlt | heq | hlt
  · rw [List.getElem?_append_left hlt] at h
    exact .inr (List.mem_append_left r (List.mem_of_getElem? h))
  · exact .inl heq
  · rw [List.getElem?_append_right (Nat.le_of_lt hlt)] at h
    obtain ⟨k, hk⟩ : ∃ k, i - l.length = k + 1 := ⟨i - l.length - 1, by omega⟩
    rw [hk, List.getElem?_cons_succ] at h
    exact .inr (List.mem_append_right l (List.mem_of_getElem? h))

theorem not_isDotted_of_isPlausible (h : Callsign.isPlausible token = true) :
    isDotted token = false := by
  rw [Callsign.isPlausible, Bool.and_eq_true, List.all_eq_true] at h
  by_contra hdot
  have hmem : '.' ∈ token.toList := List.contains_iff_mem.1 (Bool.eq_true_of_not_eq_false hdot)
  exact absurd (h.2 '.' hmem) (by decide)

theorem plain_insert (before after : List String) (h : isDotted token = false) :
    plain (before ++ token :: after) = plain before ++ token :: plain after := by
  rw [plain, List.filter_append, List.filter_cons_of_pos (by rw [h]; rfl)]
  rfl

theorem dottedCall?_insert (before after : List String) (h : isDotted token = false) :
    dottedCall? (before ++ token :: after) = dottedCall? (before ++ after) := by
  rw [dottedCall?, dottedCall?, filter_insert before after h]

/-- Nothing is taken for a callsign and all is settled only if no token is left over. -/
theorem eq_nil_of_corrected {leftovers : List String} (h : corrected received leftovers = (none, true)) :
    dottedCall? received = none ∧ leftovers = [] := by
  cases hd : dottedCall? received with
  | some call =>
    rw [corrected_of_dotted hd] at h
    cases h
  | none =>
    refine ⟨rfl, ?_⟩
    by_cases hguess : ∃ t, leftovers = [t] ∧ Callsign.isPlausible t = true
    · obtain ⟨t, rfl, ht⟩ := hguess
      rw [corrected_of_guess hd ht] at h
      cases h
    · have hnone : ∀ t, leftovers = [t] → Callsign.isPlausible t = false := by
        intro t ht
        by_contra hp
        exact hguess ⟨t, ht, Bool.eq_true_of_not_eq_false hp⟩
      rw [corrected_of_none hd hnone] at h
      exact List.isEmpty_iff.1 (congrArg Prod.snd h)

theorem unplaced_of_not_fits {m : Filling template tokens} (hm : c.Gives m)
    {i : Fin tokens.length} (h : c.fits template (tokens.get i) = false) : Unplaced m i := by
  intro s hs
  obtain ⟨slot, hslot, hlegal⟩ := isLegal_of_placed ((hm s i).1 hs)
  rw [fits_eq_false_iff.1 h slot (List.mem_of_getElem? hslot)] at hlegal
  cases hlegal

theorem fits_of_leftoverTokens_eq_nil (h : c.leftoverTokens template tokens = []) :
    ∀ t ∈ tokens, c.fits template t = true := by
  intro t ht
  obtain ⟨i, rfl⟩ := List.mem_iff_get.1 ht
  obtain ⟨m, hm⟩ := c.exists_gives template tokens
  obtain ⟨s, hs⟩ := (leftoverTokens_eq_nil_iff hm).1 h i
  by_contra hnot
  exact unplaced_of_not_fits hm (Bool.eq_false_of_not_eq_true hnot) s hs

/-- **A stray is the one token that is left over**, if none was without it. -/
theorem leftoverTokens_insert {before after : List String}
    (hnone : c.leftoverTokens template (before ++ after) = [])
    (h : c.fits template token = false) :
    c.leftoverTokens template (before ++ token :: after) = [token] := by
  have hfits := fits_of_leftoverTokens_eq_nil hnone
  obtain ⟨e, hget, hrange, he⟩ := c.exists_embeds_filter template (before ++ token :: after)
  rw [filter_insert before after h, List.filter_eq_self.2 hfits] at hget he
  obtain ⟨m', hm'⟩ := c.exists_gives template (before ++ after)
  obtain ⟨m, hm⟩ := c.exists_gives template (before ++ token :: after)
  have hlt : before.length < (before ++ token :: after).length := by
    rw [List.length_append, List.length_cons]
    omega
  have htoken : (before ++ token :: after).get ⟨before.length, hlt⟩ = token := by
    rw [List.get_eq_getElem, List.getElem_append_right (Nat.le_refl _)]
    simp only [Nat.sub_self, List.getElem_cons_zero]
  refine (leftoverTokens_eq_singleton_iff hm).2 ⟨⟨before.length, hlt⟩, fun j => ⟨fun hj => ?_, ?_⟩,
    htoken⟩
  · have hgetj := List.getElem?_eq_getElem j.2
    rcases eq_or_mem_of_getElem?_insert hgetj with heq | hmem
    · exact Fin.ext heq
    · -- the token is one of the others, and has the slot that it has without the stray
      obtain ⟨i, hi⟩ := hrange j.1 _ hgetj (hfits _ hmem)
      have hgeti : (before ++ after)[i]? = some (before ++ token :: after)[j.1] := by
        rw [← hget i, hi]
        exact hgetj
      obtain ⟨hilt, -⟩ := List.getElem?_eq_some_iff.1 hgeti
      obtain ⟨s, hs⟩ := (leftoverTokens_eq_nil_iff hm').1 hnone ⟨i, hilt⟩
      have hplaced := (he.getElem?_eq i).trans ((hm' s ⟨i, hilt⟩).1 hs)
      rw [hi] at hplaced
      exact absurd ((hm s j).2 hplaced) (hj s)
  · rintro rfl
    exact unplaced_of_not_fits hm (htoken.symm ▸ h)

/-! ### Reading with and without strays -/

theorem tokensFound_eq_of_fitting {received' : List String}
    (h : c.fitting template received = c.fitting template received') :
    c.tokensFound template (plain received) = c.tokensFound template (plain received') := by
  rw [← tokensFound_filter, ← c.tokensFound_filter template (plain received')]
  exact congrArg (c.tokensFound template) h

theorem fitting_insert (before after : List String) (h : c.fits template token = false)
    (hdot : isDotted token = false) :
    c.fitting template (before ++ token :: after) = c.fitting template (before ++ after) := by
  rw [fitting, fitting, plain_insert before after hdot, filter_insert _ _ h, plain, plain, plain,
    ← List.filter_append]

/-- **What is shown is told by the tokens that fit.** -/
theorem entries_eq_of_fitting {received' : List String}
    (hsame : c.fitting template received = c.fitting template received')
    (henough : template.requiredCount ≤ (plain received).length)
    (henough' : template.requiredCount ≤ (plain received').length) :
    ∃ x x', c.readTokens template received = .ok x ∧ c.readTokens template received' = .ok x' ∧
      x.entries = x'.entries := by
  refine ⟨_, _, readTokens_of_enough henough, readTokens_of_enough henough', ?_⟩
  dsimp only
  rw [tokensFound_eq_of_fitting hsame]

/-- **A stray that looks like a callsign is taken for the corrected one**, if the exchange was valid
without it and had none. -/
theorem readTokens_insert {before after : List String} {x : Exchange}
    (hx : c.readTokens template (before ++ after) = .ok x) (hvalid : x.isValid = true)
    (hcorrection : x.correction = none) (hcall : Callsign.isPlausible token = true)
    (hfits : c.fits template token = false) :
    ∃ y, c.readTokens template (before ++ token :: after) = .ok y ∧ y.isValid = true ∧
      y.entries = x.entries ∧ y.correction = some token := by
  have hdot := not_isDotted_of_isPlausible hcall
  have henough := requiredCount_le_of_readTokens hx
  rw [readTokens_of_enough henough] at hx
  obtain rfl := Except.ok.inj hx
  rw [Bool.and_eq_true] at hvalid
  -- nothing was left over before the stray came in
  obtain ⟨hd, hnil⟩ := eq_nil_of_corrected (Prod.ext hcorrection hvalid.2)
  have hplain : plain (before ++ after) = plain before ++ plain after := List.filter_append ..
  have hleft : c.leftoverTokens template (plain (before ++ token :: after)) = [token] := by
    rw [plain_insert before after hdot]
    exact leftoverTokens_insert (hplain ▸ hnil) hfits
  have hfound := tokensFound_eq_of_fitting (fitting_insert before after hfits hdot)
  have hguess := corrected_of_guess ((dottedCall?_insert before after hdot).trans hd) hcall
  have hmore : template.requiredCount ≤ (plain (before ++ token :: after)).length := by
    rw [plain_insert before after hdot, List.length_append, List.length_cons]
    rw [hplain, List.length_append] at henough
    omega
  refine ⟨_, readTokens_of_enough hmore, ?_, ?_, ?_⟩
  · dsimp only
    rw [hleft, hguess, hfound, Bool.and_true]
    exact hvalid.1
  · dsimp only
    rw [hfound]
  · dsimp only
    rw [hleft, hguess]

/-- **Strays do not disturb the reading of an exchange.**  Two lists of tokens with the same
tokens that fit are shown in the same way, if each has enough tokens to be read.  And a stray
that looks like a callsign is taken for the corrected callsign, wherever it comes in, if the
exchange was valid without it and had none. -/
theorem readTokens_strays (c : Catalogue) (template : Template) :
    (∀ received received', c.fitting template received = c.fitting template received' →
      template.requiredCount ≤ (plain received).length →
      template.requiredCount ≤ (plain received').length →
      ∃ x x', c.readTokens template received = .ok x ∧ c.readTokens template received' = .ok x' ∧
        x.entries = x'.entries) ∧
    ∀ before token after x, c.readTokens template (before ++ after) = .ok x →
      x.isValid = true → x.correction = none → Callsign.isPlausible token = true →
      (∀ slot ∈ template, c.isLegal slot.name token = false) →
      ∃ y, c.readTokens template (before ++ token :: after) = .ok y ∧ y.isValid = true ∧
        y.entries = x.entries ∧ y.correction = some token := by
  constructor
  · intro received received' hsame henough henough'
    exact entries_eq_of_fitting hsame henough henough'
  · intro before token after x hx hvalid hcorrection hcall hstray
    exact readTokens_insert hx hvalid hcorrection hcall (fits_eq_false_iff.2 hstray)

/-- Two zones among strays, and with a callsign between them. -/
theorem readTokens_strays_zones :
    (∃ x x', zones.readTokens zonesTemplate ["5", "4"] = .ok x ∧
      zones.readTokens zonesTemplate ["X", "5", "9", "4"] = .ok x' ∧ x.entries = x'.entries) ∧
    ∃ x y, zones.readTokens zonesTemplate ["5", "4"] = .ok x ∧
      zones.readTokens zonesTemplate ["5", "K1AR", "4"] = .ok y ∧ y.isValid = true ∧
      y.entries = x.entries ∧ y.correction = some "K1AR" := by
  obtain ⟨hsame, hinsert⟩ := zones.readTokens_strays zonesTemplate
  refine ⟨hsame _ _ (by decide) (by decide) (by decide), ?_⟩
  obtain ⟨x, hx, hvalid, hcorrection⟩ : ∃ x, zones.readTokens zonesTemplate ["5", "4"] = .ok x ∧
      x.isValid = true ∧ x.correction = none :=
    ⟨_, rfl, by decide +kernel, by decide +kernel⟩
  obtain ⟨y, hy⟩ := hinsert ["5"] "K1AR" ["4"] x hx hvalid hcorrection (by decide) (by decide)
  exact ⟨x, y, hx, hy⟩

end ContestExchange.Catalogue
