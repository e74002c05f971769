import ContestExchange.Proofs.Exchange.Accounting

/-!
# Reading an exchange again

The values that an exchange shows can be sent in turn, slot by slot.  They are not the
tokens that were received: a canonical form may be legal in other slots than the token
that it stands for, so there is no telling from the first reading where the second one
could place it.  But under the name of a field a canonical form is legal itself, and the
slot shows it as it showed the token (`entry_canonical?`).  So each value fits the slot
that it stands in, and tokens that fit the slots one by one are read one by one, wherever
else they fit (`readTokens_slotwise`).  What comes out is the exchange that the values
were taken from (`readTokens_values`).
-/

namespace ContestExchange.Catalogue

variable {c : Catalogue} {template : Template} {received tokens : List String} {x : Exchange}
  {slot : Slot} {token v : String} {id : Nat}

/-- Every slot stands for a field, and none for a group. -/
def OfFields (c : Catalogue) (template : Template) : Prop :=
  ∀ slot ∈ template, ∃ id, c.kind? slot.name = some (.single id)

/-- Every slot got a token. -/
def IsFull (c : Catalogue) (template : Template) (received : List String) : Prop :=
  none ∉ c.tokensFound template (plain received)

/-! ### Canonical forms in the slots of fields -/

/-- **The canonical form of a token is legal in the slot of a field**, and the slot shows it as it
shows the token. -/
theorem entry_canonical? (hc : c.Built) (hk : c.kind? slot.name = some (.single id))
    (hv : c.canonical? slot.name token = some v) :
    c.isLegal slot.name v = true ∧ c.entry slot (some v) = c.entry slot (some token) := by
  obtain ⟨i, hi, -⟩ := Option.bind_eq_some_iff.1 hv
  obtain ⟨f, w, hf, hfw, hw⟩ := exists_canonical?_of_resolve? hi
  obtain rfl : w = v := Option.some.inj (hw.symm.trans hv)
  obtain ⟨j, -, hj, -, -, -⟩ := resolve?_of_canonical? hc hk hi hv
  -- both belong to the one field that the name stands for
  obtain rfl : i = id := List.mem_singleton.1 (mem_ids_of_resolve? hk hi)
  obtain rfl : j = i := List.mem_singleton.1 (mem_ids_of_resolve? hk hj)
  have hself : f.canonical? w = some w := Field.canonical?_self (hc.coherent hf) hfw
  refine ⟨?_, ?_⟩
  · rw [isLegal, hj, Option.isSome_some]
  · rw [entry_of_resolve? hj hf hself, entry_of_resolve? hi hf hfw]

/-- What an exchange shows in a slot, if every slot got a token. -/
theorem exists_token_of_isFull (hx : c.readTokens template received = .ok x)
    (hfull : c.IsFull template received) {i : Nat} (hi : template[i]? = some slot) :
    ∃ token v, c.canonical? slot.name token = some v ∧
      x.entries[i]? = some (c.entry slot (some token)) ∧ (c.entry slot (some token)).value = v := by
  obtain ⟨m, hm⟩ := c.exists_gives template (plain received)
  obtain ⟨hlt, rfl⟩ := List.getElem?_eq_some_iff.1 hi
  have hget := zip_tokensFound_of_gives hm ⟨i, hlt⟩
  have hentry : x.entries[i]? =
      some (c.entry template[i] ((m ⟨i, hlt⟩).map (plain received).get)) := by
    rw [readTokens_of_enough (requiredCount_le_of_readTokens hx)] at hx
    obtain rfl := Except.ok.inj hx
    rw [List.getElem?_map, hget]
    rfl
  cases hs : m ⟨i, hlt⟩ with
  | none =>
    rw [hs] at hget
    exact absurd (List.mem_of_getElem? (List.getElem?_zip_eq_some.1 hget).2) hfull
  | some j =>
    rw [hs] at hentry
    obtain ⟨id, f, v, -, -, hv, hshown⟩ := exists_shown (isLegal_of_gives hm hs)
    exact ⟨_, v, hv, hentry, congrArg Entry.value hshown⟩

/-! ### Tokens that fit the slots one by one -/

/-- **As many tokens as slots, each of them legal in its own slot, are read slot by slot.** -/
theorem readTokens_slotwise (hdots : ∀ t ∈ tokens, isDotted t = false)
    (hlegal : List.Forall₂ (fun slot t => c.isLegal slot.name t = true) template tokens) :
    ∃ y, c.readTokens template tokens = .ok y ∧ y.isValid = true ∧ y.correction = none ∧
      y.entries = List.zipWith (fun slot t => c.entry slot (some t)) template tokens := by
  have hlength : template.length = tokens.length := hlegal.length_eq
  have hget : ∀ i : Fin tokens.length,
      c.isLegal (template.get (Fin.cast hlength.symm i)).name tokens[i] = true := by
    intro i
    exact (List.forall₂_iff_get.1 hlegal).2 i (Fin.cast hlength.symm i).2 i.2
  have hm : c.Assigns template tokens (Fin.cast hlength.symm) :=
    ⟨Fin.cast_injective _, hget⟩
  have hin : (c.candidatePlacement template tokens).InPlace := by
    refine ⟨c.ordered_candidatePlacement template tokens,
      c.apart_candidatePlacement template tokens, fun t p hp => ?_⟩
    rw [candidatePlacement, List.getElem?_map, Option.map_eq_some_iff] at hp
    obtain ⟨token, ht, rfl⟩ := hp
    obtain ⟨hlt, rfl⟩ := List.getElem?_eq_some_iff.1 ht
    exact mem_candidates_iff.2
      ⟨_, List.getElem?_eq_getElem (hlength.symm ▸ hlt), hget ⟨t, hlt⟩⟩
  have hcount : template.requiredCount ≤ tokens.length := hlength ▸ List.countP_le_length
  obtain ⟨y, hy, hreads⟩ := readTokens_of_placed hdots hcount hm fun i =>
    Placement.solve_of_inPlace hin ((List.length_map _).symm ▸ i.2)
  refine ⟨y, hy, hreads.isValid_iff.2 fun s _ => ⟨Fin.cast hlength s, rfl⟩, hreads.correction, ?_⟩
  apply List.ext_getElem?
  intro i
  by_cases hi : i < tokens.length
  · obtain ⟨e, he, hfills⟩ := hreads.filled ⟨i, hi⟩
    have hslot : template[i]? = some (template.get (Fin.cast hlength.symm ⟨i, hi⟩)) :=
      List.getElem?_eq_getElem _
    rw [List.getElem?_zipWith, hslot, List.getElem?_eq_getElem hi]
    exact he.trans (congrArg some ((fills_iff (hget ⟨i, hi⟩)).1 hfills))
  · have hle : template.length ≤ i := hlength ▸ Nat.le_of_not_lt hi
    have hout : y.entries.length ≤ i := hreads.length_entries.symm ▸ hle
    rw [List.getElem?_eq_none hout, List.getElem?_eq_none]
    rw [List.length_zipWith]
    omega

/-- **The values of an exchange are read as the exchange itself**, if the slots stand for fields and
each got a token, and no value has a dot: in the order of the slots they are a valid exchange
without a corrected callsign that shows the same in every slot. -/
theorem readTokens_values (hc : c.Built) (hfields : c.OfFields template)
    (hx : c.readTokens template received = .ok x) (hfull : c.IsFull template received)
    (hdots : ∀ e ∈ x.entries, isDotted e.value = false) :
    ∃ y, c.readTokens template (x.entries.map Entry.value) = .ok y ∧ y.isValid = true ∧
      y.correction = none ∧ y.entries = x.entries := by
  have hlength : template.length = x.entries.length := by
    obtain ⟨m, ha⟩ := accounts_of_readTokens hx
    exact ha.length_entries.symm
  -- what a slot shows is legal there, and would be shown in the same way
  have hagain : ∀ (i : Nat) (hi : i < template.length) (hi' : i < x.entries.length),
      c.isLegal template[i].name x.entries[i].value = true ∧
        c.entry template[i] (some x.entries[i].value) = x.entries[i] := by
    intro i hi hi'
    have hslot := List.getElem?_eq_getElem hi
    obtain ⟨token, v, hv, he, hvalue⟩ := exists_token_of_isFull hx hfull hslot
    obtain ⟨id, hk⟩ := hfields _ (List.getElem_mem hi)
    rw [List.getElem?_eq_getElem hi', Option.some.injEq] at he
    rw [he, hvalue]
    exact entry_canonical? hc hk hv
  have hlegal : List.Forall₂ (fun slot t => c.isLegal slot.name t = true) template
      (x.entries.map Entry.value) := by
    rw [List.forall₂_map_right_iff, List.forall₂_iff_get]
    exact ⟨hlength, fun i hi hi' => (hagain i hi hi').1⟩
  obtain ⟨y, hy, hvalid, hcorrection, hentries⟩ := readTokens_slotwise (c := c) (by
    intro t ht
    obtain ⟨e, he, rfl⟩ := List.mem_map.1 ht
    exact hdots e he) hlegal
  refine ⟨y, hy, hvalid, hcorrection, hentries.trans ?_⟩
  rw [List.zipWith_map_right]
  apply List.ext_getElem
  · rw [List.length_zipWith, hlength, Nat.min_self]
  · intro i hi hi'
    rw [List.getElem_zipWith]
    exact (hagain i (hlength.symm ▸ hi') hi').2

theorem built_places : places.Built :=
  (((Built.empty.insert (reached_twoNames _ _ _)).insert (reached_twoNames _ _ _)).insert
    (reached_twoNames _ _ _)).insertGroup _

/-- A state came before its country, under a name that the country has too; their values are read
in order again. -/
theorem readTokens_values_places :
    let template : Template := [⟨"COUNTRY", false⟩, ⟨"STATE", false⟩]
    ∃ x, places.readTokens template ["NY", "US-NY"] = .ok x ∧
      x.entries.map Entry.value = ["K", "US-NY"] ∧
      ∃ y, places.readTokens template ["K", "US-NY"] = .ok y ∧ y.isValid = true ∧
        y.correction = none ∧ y.entries = x.entries := by
  intro template
  have hfields : places.OfFields template := by
    intro slot hs
    rcases List.mem_pair.1 hs with rfl | rfl
    · exact ⟨0, by decide +kernel⟩
    · exact ⟨1, by decide +kernel⟩
  obtain ⟨x, hx, hvalues⟩ : ∃ x, places.readTokens template ["NY", "US-NY"] = .ok x ∧
      x.entries.map Entry.value = ["K", "US-NY"] := ⟨_, rfl, by decide +kernel⟩
  have hfull : places.IsFull template ["NY", "US-NY"] := by
    rw [IsFull]
    decide +kernel
  have hdots : ∀ e ∈ x.entries, isDotted e.value = false := by
    intro e he
    have hv : e.value ∈ x.entries.map Entry.value := List.mem_map_of_mem he
    rw [hvalues] at hv
    rcases List.mem_pair.1 hv with h | h
    · rw [h]
      decide
    · rw [h]
      decide
  refine ⟨x, hx, hvalues, ?_⟩
  rw [← hvalues]
  exact readTokens_values built_places hfields hx hfull hdots

end ContestExchange.Catalogue
