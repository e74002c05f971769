import Mathlib.Data.List.NodupEquivFin
import ContestExchange.Exchange.Reading
import ContestExchange.Proofs.Field.Groups
import ContestExchange.Proofs.Placement.Matching

/-!
# Exchanges that leave no doubt

What an exchange says follows from where its tokens are placed
(`readTokens_of_placed`): the entry of a slot shows the canonical form of the token
that was placed there, under the name of the first field of the slot that takes
the token (`Fills`).

A reader asks the field or the group that a slot stands for, not the name: `admits`
tells where a token may go, and `fieldFor?` which field shows it, without asking a
single field again.  Both come to what the catalogue says of the name
(`any_admits`, `filling?_of_resolve?`).

With the theory of placements this decides two kinds of exchanges.  If the tokens
fit the slots in one way only, they are read in that way, in whatever order they
were sent (`readTokens_of_unique`).  If they fit in the order in which they were
sent, they are read in that order, even if they fit in other ways too
(`readTokens_in_order`).
-/

namespace ContestExchange.Catalogue

open Function

/-! ### Entries -/

/-- The entry shows the token in the slot: under the name of the first field there
that takes it, in that field's canonical form. -/
structure Fills (c : Catalogue) (slot : Slot) (token : String) (e : Entry) : Prop where
  slot_eq : e.slot = slot.name
  field_first : ∃ (k : Kind) (before : List Nat) (id : Nat) (after : List Nat) (f : Field),
    c.kind? slot.name = some k ∧ k.ids = before ++ id :: after ∧
      (∀ j ∈ before, c.takes token j = false) ∧ c.fields[id]? = some f ∧ f.isLegal token = true ∧
      e.field = f.name ∧ f.canonical? token = some e.value ∧ e.isMult = f.isMult

/-- **A slot may take the tokens that are legal under its name.** -/
theorem any_admits (c : Catalogue) (name v : String) :
    (c.kind? name).any (c.admits v) = c.isLegal name v := by
  rw [isLegal, resolve?]
  cases c.kind? name with
  | none => rfl
  | some k =>
    rw [Option.any_some, Option.bind_some]
    cases k with
    | single id =>
      rw [admits, Kind.ids, List.isSome_find?, List.any_cons, List.any_nil, Bool.or_false]
    | group ids => rw [admits, Kind.ids, List.isSome_find?]

@[simp] theorem filling?_none (c : Catalogue) (slot : Slot) : c.filling? slot none = none := by
  rw [filling?]
  cases c.kind? slot.name <;> rfl

/-- **A legal token is shown by the field that it resolves to.** -/
theorem filling?_of_resolve? {c : Catalogue} {slot : Slot} {token : String} {id : Nat} {f : Field}
    (hid : c.resolve? slot.name token = some id) (hf : c.fields[id]? = some f) :
    c.filling? slot (some token) = some (f, token) := by
  obtain ⟨k, hk, hfind⟩ := Option.bind_eq_some_iff.1 hid
  have hfield : c.fieldFor? token k = some f := by
    cases k with
    | single i =>
      obtain rfl := List.mem_singleton.1 (List.mem_of_find?_eq_some hfind)
      exact hf
    | group ids =>
      rw [fieldFor?, show ids.find? (c.takes token) = some id from hfind, Option.bind_some, hf]
  rw [filling?, hk, Option.bind_some, Option.bind_some, hfield, Option.map_some]

theorem isSome_filling? {c : Catalogue} {slot : Slot} {token : String}
    (h : c.isLegal slot.name token = true) : (c.filling? slot (some token)).isSome = true := by
  obtain ⟨id, hid⟩ := Option.isSome_iff_exists.1 h
  obtain ⟨f, hf, -⟩ := exists_field_of_resolve? hid
  rw [filling?_of_resolve? hid hf, Option.isSome_some]

theorem entry_of_resolve? {c : Catalogue} {slot : Slot} {token v : String} {id : Nat} {f : Field}
    (hid : c.resolve? slot.name token = some id) (hf : c.fields[id]? = some f)
    (hv : f.canonical? token = some v) :
    c.entry slot (some token) = ⟨f.name, slot.name, v, f.isMult⟩ := by
  rw [entry, filling?_of_resolve? hid hf]
  simp only [hv, Option.getD_some]

theorem entry_none (c : Catalogue) (slot : Slot) : c.entry slot none = c.emptyEntry slot := by
  rw [entry, filling?_none]

/-- **The entry of a slot and a token that is legal there shows the token in the
slot.** -/
theorem fills_iff {c : Catalogue} {slot : Slot} {token : String} {e : Entry}
    (h : c.isLegal slot.name token = true) :
    c.Fills slot token e ↔ e = c.entry slot (some token) := by
  obtain ⟨id, hid⟩ := Option.isSome_iff_exists.1 h
  obtain ⟨k, before, after, hk, hids, hnot, htakes⟩ := resolve?_eq_some_iff.1 hid
  obtain ⟨f, hf, hlegal⟩ := takes_iff.1 htakes
  obtain ⟨v, hv⟩ := Option.isSome_iff_exists.1 ((f.isSome_canonical? token).trans hlegal)
  rw [entry_of_resolve? hid hf hv]
  constructor
  · rintro ⟨hslot, k', before', id', after', f', hk', hids', hnot', hf', hl', hn, hv', hm⟩
    have hid' : c.resolve? slot.name token = some id' := resolve?_eq_some_iff.2
      ⟨k', before', after', hk', hids', hnot', takes_iff.2 ⟨f', hf', hl'⟩⟩
    rw [hid, Option.some.injEq] at hid'
    subst hid'
    rw [hf, Option.some.injEq] at hf'
    subst hf'
    rw [hv, Option.some.injEq] at hv'
    cases e
    simp_all
  · rintro rfl
    exact ⟨rfl, k, before, id, after, f, hk, hids, hnot, hf, hlegal, rfl, hv, rfl⟩

/-! ### Exchanges whose tokens are all placed -/

/-- A way to give every token a slot of its own that it is legal for. -/
structure Assigns (c : Catalogue) (template : Template) (tokens : List String)
    (m : Fin tokens.length → Fin template.length) : Prop where
  injective : Injective m
  isLegal : ∀ i, c.isLegal template[m i].name tokens[i] = true

/-- The exchange shows every token in the slot that it is given here, and nothing
else. -/
structure ReadsAs (c : Catalogue) (template : Template) (tokens : List String)
    (m : Fin tokens.length → Fin template.length) (x : Exchange) : Prop where
  length_entries : x.entries.length = template.length
  filled : ∀ i, ∃ e, x.entries[(m i).1]? = some e ∧ c.Fills template[m i] tokens[i] e
  empty : ∀ s : Fin template.length, s ∉ Set.range m →
    x.entries[s.1]? = some (c.emptyEntry template[s])
  correction : x.correction = none
  received : x.received = tokens
  isValid_iff : x.isValid = true ↔
    ∀ s : Fin template.length, template[s].isOptional = false → s ∈ Set.range m

/-- What is known of the tokens before any is placed. -/
def candidatePlacement (c : Catalogue) (template : Template) (tokens : List String) : Placement :=
  tokens.map fun t => .undecided (c.candidates template t)

theorem mem_candidates_iff {c : Catalogue} {template : Template} {token : String} {i : Nat} :
    i ∈ c.candidates template token ↔
      ∃ slot, template[i]? = some slot ∧ c.isLegal slot.name token = true := by
  rw [candidates, List.mem_filter, List.mem_range, Option.any_eq_true]
  simp only [any_admits]
  constructor
  · exact fun h => h.2
  · rintro ⟨slot, hs, hl⟩
    exact ⟨(List.getElem?_eq_some_iff.1 hs).1, slot, hs, hl⟩

theorem ordered_candidatePlacement (c : Catalogue) (template : Template) (tokens : List String) :
    (c.candidatePlacement template tokens).Ordered := by
  intro t l h
  rw [candidatePlacement, List.getElem?_map, Option.map_eq_some_iff] at h
  obtain ⟨token, -, he⟩ := h
  rw [Progress.undecided.injEq] at he
  subst he
  exact List.pairwise_lt_range.filter _

theorem apart_candidatePlacement (c : Catalogue) (template : Template) (tokens : List String) :
    (c.candidatePlacement template tokens).Apart := by
  intro t u l s _ hu
  rw [candidatePlacement, List.getElem?_map, Option.map_eq_some_iff] at hu
  obtain ⟨token, -, he⟩ := hu
  simp at he

theorem getElem?_candidatePlacement (c : Catalogue) (template : Template) (tokens : List String)
    (i : Fin tokens.length) : (c.candidatePlacement template tokens)[i.1]? =
      some (.undecided (c.candidates template tokens[i])) := by
  rw [candidatePlacement, List.getElem?_map, List.getElem?_eq_getElem i.2]
  rfl

theorem filter_not_isDotted {tokens : List String} (h : ∀ t ∈ tokens, isDotted t = false) :
    tokens.filter (!isDotted ·) = tokens :=
  List.filter_eq_self.2 fun t ht => by simp [h t ht]

theorem dottedCall?_eq_none {tokens : List String} (h : ∀ t ∈ tokens, isDotted t = false) :
    dottedCall? tokens = none := by
  have hnone : tokens.filter isDotted = [] :=
    List.filter_eq_nil_iff.2 fun t ht => by simp [h t ht]
  rw [dottedCall?, hnone]
  rfl

/-- The token that is placed in each slot. -/
def tokensFound (c : Catalogue) (template : Template) (tokens : List String) :
    List (Option String) :=
  (List.range template.length).map fun i =>
    ((c.candidatePlacement template tokens).solve.token? i).bind (tokens[·]?)

theorem zip_tokensFound_getElem? (c : Catalogue) (template : Template) (tokens : List String)
    (s : Fin template.length) : (template.zip (c.tokensFound template tokens))[s.1]? =
      some (template[s], ((c.candidatePlacement template tokens).solve.token? s).bind
        (tokens[·]?)) := by
  refine List.getElem?_zip_eq_some.2 ⟨List.getElem?_eq_getElem s.2, ?_⟩
  rw [tokensFound, List.getElem?_map, List.getElem?_range s.2]
  rfl

theorem length_zip_tokensFound (c : Catalogue) (template : Template) (tokens : List String) :
    (template.zip (c.tokensFound template tokens)).length = template.length := by
  simp [tokensFound]

theorem readTokens_of_no_leftovers {c : Catalogue} {template : Template} {tokens : List String}
    (hdots : ∀ t ∈ tokens, isDotted t = false) (hcount : template.requiredCount ≤ tokens.length)
    (hnone : (c.candidatePlacement template tokens).solve.leftovers = []) :
    c.readTokens template tokens = .ok {
      entries := (template.zip (c.tokensFound template tokens)).map fun s => c.entry s.1 s.2
      correction := none
      isValid := (template.zip (c.tokensFound template tokens)).all fun s =>
        s.1.isOptional || (c.filling? s.1 s.2).isSome
      received := tokens } := by
  rw [readTokens, filter_not_isDotted hdots, if_neg (Nat.not_lt.2 hcount), dottedCall?_eq_none hdots]
  change Except.ok (Exchange.mk _ _ _ _) = _
  rw [candidatePlacement] at hnone
  simp only [hnone, List.filterMap_nil, List.isEmpty_nil, Bool.and_true]
  rfl

section Placed

variable {c : Catalogue} {template : Template} {tokens : List String}
  {m : Fin tokens.length → Fin template.length}

theorem leftovers_of_placed (hplaced : ∀ i : Fin tokens.length,
    (c.candidatePlacement template tokens).solve[i.1]? = some (.placed (m i).1)) :
    (c.candidatePlacement template tokens).solve.leftovers = [] := by
  have hrun := Placement.solve_isRun (c.ordered_candidatePlacement template tokens)
  have hlen : (c.candidatePlacement template tokens).solve.length = tokens.length :=
    hrun.moves.length_eq.trans (List.length_map _)
  refine List.eq_nil_iff_forall_not_mem.2 fun t ht => ?_
  obtain ⟨l, hl⟩ := Placement.mem_leftovers_iff.1 ht
  have htn : t < tokens.length := hlen ▸ (List.getElem?_eq_some_iff.1 hl).1
  rw [hplaced ⟨t, htn⟩] at hl
  simp at hl

theorem token?_of_placed (hm : Injective m) (hplaced : ∀ i : Fin tokens.length,
    (c.candidatePlacement template tokens).solve[i.1]? = some (.placed (m i).1))
    (i : Fin tokens.length) :
    (c.candidatePlacement template tokens).solve.token? (m i) = some i.1 := by
  refine Placement.token?_eq_some_iff.2 ⟨hplaced i, fun u hu h => ?_⟩
  have hui := hplaced ⟨u, Nat.lt_trans hu i.2⟩
  rw [h, Option.some.injEq, Progress.placed.injEq] at hui
  have := hm (Fin.ext hui)
  rw [this] at hu
  exact Nat.lt_irrefl _ hu

theorem token?_of_not_placed (hplaced : ∀ i : Fin tokens.length,
    (c.candidatePlacement template tokens).solve[i.1]? = some (.placed (m i).1))
    {s : Fin template.length} (hs : s ∉ Set.range m) :
    ((c.candidatePlacement template tokens).solve.token? s).bind (tokens[·]?) = none := by
  cases h : (c.candidatePlacement template tokens).solve.token? s with
  | none => rfl
  | some t =>
    rw [Option.bind_some, List.getElem?_eq_none_iff]
    by_contra ht
    have htp := hplaced ⟨t, Nat.lt_of_not_le ht⟩
    rw [(Placement.token?_eq_some_iff.1 h).1, Option.some.injEq, Progress.placed.injEq] at htp
    exact hs ⟨_, Fin.ext htp.symm⟩

/-- **What an exchange says when every token is placed.** -/
theorem readTokens_of_placed (hdots : ∀ t ∈ tokens, isDotted t = false)
    (hcount : template.requiredCount ≤ tokens.length) (hm : c.Assigns template tokens m)
    (hplaced : ∀ i : Fin tokens.length,
      (c.candidatePlacement template tokens).solve[i.1]? = some (.placed (m i).1)) :
    ∃ x, c.readTokens template tokens = .ok x ∧ c.ReadsAs template tokens m x := by
  refine ⟨_, readTokens_of_no_leftovers hdots hcount (leftovers_of_placed hplaced), ?_⟩
  have hfound : ∀ i, (template.zip (c.tokensFound template tokens))[(m i).1]? =
      some (template[m i], some tokens[i]) := by
    intro i
    rw [zip_tokensFound_getElem?, token?_of_placed hm.injective hplaced, Option.bind_some,
      List.getElem?_eq_getElem i.2]
    rfl
  have hfree : ∀ s : Fin template.length, s ∉ Set.range m →
      (template.zip (c.tokensFound template tokens))[s.1]? = some (template[s], none) := by
    intro s hs
    rw [zip_tokensFound_getElem?, token?_of_not_placed hplaced hs]
  refine ⟨?_, fun i => ?_, fun s hs => ?_, rfl, rfl, ?_⟩
  · rw [List.length_map, length_zip_tokensFound]
  · refine ⟨_, ?_, (fills_iff (hm.isLegal i)).2 rfl⟩
    rw [List.getElem?_map, hfound]
    rfl
  · rw [List.getElem?_map, hfree s hs, Option.map_some, entry_none]
  · rw [List.all_eq_true]
    constructor
    · intro hall s hs
      by_contra hrange
      have hopt : template[s].isOptional = true := by
        simpa using hall _ (List.mem_of_getElem? (hfree s hrange))
      exact Bool.false_ne_true (hs.symm.trans hopt)
    · intro hrequired p hp
      obtain ⟨s, hs, hget⟩ := List.getElem_of_mem hp
      have hs' : s < template.length := length_zip_tokensFound c template tokens ▸ hs
      have hget' := List.getElem?_eq_some_iff.2 ⟨hs, hget⟩
      by_cases hrange : (⟨s, hs'⟩ : Fin template.length) ∈ Set.range m
      · obtain ⟨i, hi⟩ := hrange
        have hsome : some p = some (template[m i], some tokens[i]) :=
          (hget'.symm.trans (by rw [hi])).trans (hfound i)
        rw [Option.some.injEq] at hsome
        rw [hsome, isSome_filling? (hm.isLegal i), Bool.or_true]
      · have := hfree ⟨s, hs'⟩ hrange
        rw [hget', Option.some.injEq] at this
        rw [this]
        have hopt := mt (hrequired ⟨s, hs'⟩) hrange
        simpa using hopt

theorem determines_of_unique (hm : c.Assigns template tokens m)
    (huniq : ∀ m', c.Assigns template tokens m' → m' = m) :
    (c.candidatePlacement template tokens).Determines fun i => (m i).1 := by
  refine ⟨List.length_map _, c.ordered_candidatePlacement template tokens,
    c.apart_candidatePlacement template tokens, ⟨fun i j h => hm.injective (Fin.ext h), fun i => ?_⟩,
    fun m' hm' => ?_⟩
  · refine ⟨_, c.getElem?_candidatePlacement template tokens i, mem_candidates_iff.2 ?_⟩
    exact ⟨_, List.getElem?_eq_getElem (m i).2, hm.isLegal i⟩
  · have hslot : ∀ i, ∃ slot, template[m' i]? = some slot ∧ c.isLegal slot.name tokens[i] = true := by
      intro i
      obtain ⟨p, hp, ha⟩ := hm'.allows i
      rw [c.getElem?_candidatePlacement template tokens i, Option.some.injEq] at hp
      subst hp
      exact mem_candidates_iff.1 ha
    have hlt : ∀ i, m' i < template.length := fun i =>
      let ⟨_, hs, _⟩ := hslot i
      (List.getElem?_eq_some_iff.1 hs).1
    have heq : (fun i => (⟨m' i, hlt i⟩ : Fin template.length)) = m := by
      refine huniq _ ⟨fun i j h => hm'.injective (Fin.val_eq_of_eq h), fun i => ?_⟩
      obtain ⟨slot, hs, hl⟩ := hslot i
      obtain ⟨_, hget⟩ := List.getElem?_eq_some_iff.1 hs
      rw [← hget] at hl
      exact hl
    exact funext fun i => congrArg Fin.val (congrFun heq i)

/-! ### The order of the tokens -/

/-- Two equal tokens could change places. -/
theorem nodup_of_unique (hm : c.Assigns template tokens m)
    (huniq : ∀ m', c.Assigns template tokens m' → m' = m) : tokens.Nodup := by
  refine List.nodup_iff_injective_get.2 fun i j hij => ?_
  have hswap : m ∘ Equiv.swap i j = m := by
    refine huniq _ ⟨hm.injective.comp (Equiv.swap i j).injective, fun k => ?_⟩
    have hk : tokens.get (Equiv.swap i j k) = tokens.get k := by
      rcases eq_or_ne k i with rfl | hki
      · rw [Equiv.swap_apply_left]
        exact hij.symm
      · rcases eq_or_ne k j with rfl | hkj
        · rw [Equiv.swap_apply_right]
          exact hij
        · rw [Equiv.swap_apply_of_ne_of_ne hki hkj]
    have hl : c.isLegal template[m (Equiv.swap i j k)].name (tokens.get (Equiv.swap i j k)) = true :=
      hm.isLegal (Equiv.swap i j k)
    rw [hk] at hl
    exact hl
  have := hm.injective (congrFun hswap j)
  rw [Equiv.swap_apply_right] at this
  exact this

theorem exists_equiv_of_perm {tokens' : List String} (hn : tokens.Nodup) (hp : tokens'.Perm tokens) :
    ∃ e : Fin tokens'.length ≃ Fin tokens.length, ∀ i, tokens[e i] = tokens'[i] := by
  have hn' : tokens'.Nodup := hp.nodup_iff.2 hn
  refine ⟨(hn'.getEquiv tokens').trans
    ((Equiv.subtypeEquivRight fun t => hp.mem_iff).trans (hn.getEquiv tokens).symm), fun i => ?_⟩
  exact congrArg Subtype.val ((hn.getEquiv tokens).apply_symm_apply _)

theorem Assigns.comp {tokens' : List String} (hm : c.Assigns template tokens m)
    (e : Fin tokens'.length ≃ Fin tokens.length) (he : ∀ i, tokens[e i] = tokens'[i]) :
    c.Assigns template tokens' (m ∘ e) := by
  refine ⟨hm.injective.comp e.injective, fun i => ?_⟩
  have := hm.isLegal (e i)
  rw [he i] at this
  exact this

/-- What is shown of the same tokens in the same slots is the same. -/
theorem ReadsAs.eq_of_comp {tokens' : List String} {x x' : Exchange}
    (hm : c.Assigns template tokens m) (h : c.ReadsAs template tokens m x)
    (e : Fin tokens'.length ≃ Fin tokens.length) (he : ∀ i, tokens[e i] = tokens'[i])
    (h' : c.ReadsAs template tokens' (m ∘ e) x') :
    x'.entries = x.entries ∧ x'.isValid = x.isValid := by
  have hrange : Set.range (m ∘ e) = Set.range m := e.surjective.range_comp m
  constructor
  · refine List.ext_getElem? fun s => ?_
    by_cases hs : s < template.length
    · by_cases hmem : (⟨s, hs⟩ : Fin template.length) ∈ Set.range (m ∘ e)
      · obtain ⟨i, hi⟩ := hmem
        obtain ⟨en', hen', hfill'⟩ := h'.filled i
        obtain ⟨en, hen, hfill⟩ := h.filled (e i)
        have hval : (m (e i)).1 = s := congrArg Fin.val hi
        rw [he i] at hfill
        have hleg := (hm.comp e he).isLegal i
        rw [(fills_iff hleg).1 hfill'] at hen'
        rw [(fills_iff hleg).1 hfill] at hen
        rw [← hval]
        exact hen'.trans hen.symm
      · exact (h'.empty ⟨s, hs⟩ hmem).trans (h.empty ⟨s, hs⟩ (hrange ▸ hmem)).symm
    · rw [List.getElem?_eq_none (h'.length_entries ▸ Nat.le_of_not_lt hs),
        List.getElem?_eq_none (h.length_entries ▸ Nat.le_of_not_lt hs)]
  · rw [Bool.eq_iff_iff, h'.isValid_iff, h.isValid_iff, hrange]

/-- **Tokens that fit the slots in one way only are read in that way**, whatever
order they are sent in. -/
theorem readTokens_of_unique (hdots : ∀ t ∈ tokens, isDotted t = false)
    (hcount : template.requiredCount ≤ tokens.length) (hm : c.Assigns template tokens m)
    (huniq : ∀ m', c.Assigns template tokens m' → m' = m) :
    ∃ x, c.readTokens template tokens = .ok x ∧ c.ReadsAs template tokens m x ∧
      ∀ tokens' : List String, tokens'.Perm tokens →
        ∃ x', c.readTokens template tokens' = .ok x' ∧ x'.entries = x.entries ∧
          x'.correction = x.correction ∧ x'.isValid = x.isValid := by
  obtain ⟨x, hx, hreads⟩ := readTokens_of_placed hdots hcount hm
    (Placement.solve_of_determines (determines_of_unique hm huniq))
  refine ⟨x, hx, hreads, fun tokens' hp => ?_⟩
  obtain ⟨e, he⟩ := exists_equiv_of_perm (nodup_of_unique hm huniq) hp
  have hm' := hm.comp e he
  have huniq' : ∀ m', c.Assigns template tokens' m' → m' = m ∘ e := by
    intro m' h
    have hback : c.Assigns template tokens (m' ∘ e.symm) :=
      h.comp e.symm fun i => (he _).symm.trans (congrArg tokens.get (e.apply_symm_apply i))
    funext i
    rw [← huniq _ hback, comp_apply, comp_apply, e.symm_apply_apply]
  obtain ⟨x', hx', hreads'⟩ := readTokens_of_placed (fun t ht => hdots t (hp.mem_iff.1 ht))
    (hp.length_eq ▸ hcount) hm' (Placement.solve_of_determines (determines_of_unique hm' huniq'))
  obtain ⟨hentries, hvalid⟩ := hreads.eq_of_comp hm e he hreads'
  exact ⟨x', hx', hentries, hreads'.correction.trans hreads.correction.symm, hvalid⟩

end Placed

/-- A field that takes the listed values. -/
def listing (name : String) (values : List String) : Field :=
  { Field.ofName name with spellings := values.foldl (fun t v => (t.addCanonical v).1) .empty }

/-- Two kinds of zones; zone 5 is one of either kind. -/
def zones : Catalogue :=
  ((empty.insert (listing "CQZONE" ["4", "5"])).1.insert (listing "ITUZONE" ["5", "8"])).1

/-- Both zones of a station. -/
def zonesTemplate : Template :=
  [⟨"CQZONE", false⟩, ⟨"ITUZONE", false⟩]

theorem readTokens_zones_swapped :
    ∃ x, zones.readTokens zonesTemplate ["5", "4"] = .ok x ∧
      zones.ReadsAs zonesTemplate ["5", "4"] Fin.rev x ∧
      ∀ tokens' : List String, tokens'.Perm ["5", "4"] →
        ∃ x', zones.readTokens zonesTemplate tokens' = .ok x' ∧ x'.entries = x.entries ∧
          x'.correction = x.correction ∧ x'.isValid = x.isValid := by
  refine readTokens_of_unique (by decide) (by decide) ⟨Fin.rev_injective, by decide⟩ ?_
  intro m hm
  have hsecond : ∀ s : Fin 2, zones.isLegal zonesTemplate[s].name "4" = true → s = 0 := by decide
  have h1 : m 1 = (0 : Fin 2) := hsecond _ (hm.isLegal 1)
  have h0 : m 0 ≠ (0 : Fin 2) := fun h => absurd (hm.injective (h.trans h1.symm)) (by decide)
  have hfirst : ∀ s : Fin 2, s ≠ 0 → s = 1 := by decide
  funext i
  match i with
  | 0 => exact hfirst _ h0
  | 1 => exact h1

/-! ### Tokens in the order of the slots -/

theorem requiredCount_le {template : Template} {n : Nat}
    (h : ∀ (i : Nat) (slot : Slot), n ≤ i → template[i]? = some slot → slot.isOptional = true) :
    template.requiredCount ≤ n := by
  have hdrop : (template.drop n).countP (!·.isOptional) = 0 := by
    rw [List.countP_eq_zero]
    intro slot hs
    obtain ⟨i, hi⟩ := List.getElem?_of_mem hs
    rw [List.getElem?_drop] at hi
    simp [h (n + i) slot (Nat.le_add_right n i) hi]
  calc template.requiredCount
      = (template.take n).countP (!·.isOptional) + (template.drop n).countP (!·.isOptional) := by
        rw [← List.countP_append, List.take_append_drop, Template.requiredCount]
    _ = (template.take n).countP (!·.isOptional) := by rw [hdrop, Nat.add_zero]
    _ ≤ n := Nat.le_trans List.countP_le_length (List.length_take_le n template)

/-- **Tokens that fit the first slots in their order are read in their order**,
whatever other slots they fit, if the slots behind are optional. -/
theorem readTokens_in_order {c : Catalogue} {template : Template} {tokens : List String}
    (hdots : ∀ t ∈ tokens, isDotted t = false)
    (hlegal : ∀ (i : Nat) (t : String), tokens[i]? = some t →
      ∃ slot, template[i]? = some slot ∧ c.isLegal slot.name t = true)
    (hopt : ∀ (i : Nat) (slot : Slot), tokens.length ≤ i → template[i]? = some slot →
      slot.isOptional = true) :
    ∃ x, c.readTokens template tokens = .ok x ∧ x.isValid = true ∧ x.correction = none ∧
      x.entries.length = template.length ∧
      (∀ (i : Nat) (slot : Slot) (t : String), template[i]? = some slot → tokens[i]? = some t →
        ∃ e, x.entries[i]? = some e ∧ c.Fills slot t e) ∧
      ∀ (i : Nat) (slot : Slot), tokens.length ≤ i → template[i]? = some slot →
        x.entries[i]? = some (c.emptyEntry slot) := by
  have hslot : ∀ i : Fin tokens.length,
      ∃ slot, template[i.1]? = some slot ∧ c.isLegal slot.name tokens[i] = true :=
    fun i => hlegal i.1 tokens[i] (List.getElem?_eq_getElem i.2)
  have hlt : ∀ i : Fin tokens.length, i.1 < template.length := fun i =>
    let ⟨_, hs, _⟩ := hslot i
    (List.getElem?_eq_some_iff.1 hs).1
  have hm : c.Assigns template tokens fun i => ⟨i.1, hlt i⟩ := by
    refine ⟨fun i j h => Fin.ext (Fin.mk.inj h), fun i => ?_⟩
    obtain ⟨slot, hs, hl⟩ := hslot i
    obtain ⟨_, hget⟩ := List.getElem?_eq_some_iff.1 hs
    rw [← hget] at hl
    exact hl
  have hin : (c.candidatePlacement template tokens).InPlace := by
    refine ⟨c.ordered_candidatePlacement template tokens,
      c.apart_candidatePlacement template tokens, fun t p hp => ?_⟩
    rw [candidatePlacement, List.getElem?_map, Option.map_eq_some_iff] at hp
    obtain ⟨token, ht, rfl⟩ := hp
    exact mem_candidates_iff.2 (hlegal t token ht)
  obtain ⟨x, hx, hreads⟩ := readTokens_of_placed hdots (requiredCount_le hopt) hm fun i =>
    Placement.solve_of_inPlace hin ((List.length_map _).symm ▸ i.2)
  have hbehind : ∀ s : Fin template.length, tokens.length ≤ s.1 →
      s ∉ Set.range fun i : Fin tokens.length => (⟨i.1, hlt i⟩ : Fin template.length) := by
    rintro s hs ⟨i, rfl⟩
    exact Nat.lt_irrefl _ (Nat.lt_of_lt_of_le i.2 hs)
  refine ⟨x, hx, hreads.isValid_iff.2 fun s hs => ?_, hreads.correction, hreads.length_entries,
    fun i slot t hi ht => ?_, fun i slot hi hs => ?_⟩
  · by_contra hrange
    have hle : tokens.length ≤ s.1 := Nat.le_of_not_lt fun h => hrange ⟨⟨s.1, h⟩, rfl⟩
    exact Bool.false_ne_true (hs.symm.trans (hopt s.1 _ hle (List.getElem?_eq_getElem s.2)))
  · obtain ⟨hit, rfl⟩ := List.getElem?_eq_some_iff.1 ht
    obtain ⟨_, rfl⟩ := List.getElem?_eq_some_iff.1 hi
    exact hreads.filled ⟨i, hit⟩
  · obtain ⟨his, rfl⟩ := List.getElem?_eq_some_iff.1 hs
    exact hreads.empty ⟨i, his⟩ (hbehind ⟨i, his⟩ hi)

theorem readTokens_zones_alike :
    ∃ x, zones.readTokens zonesTemplate ["5", "5"] = .ok x ∧ x.isValid = true ∧
      x.correction = none ∧ x.entries.length = zonesTemplate.length ∧
      (∀ (i : Nat) (slot : Slot) (t : String), zonesTemplate[i]? = some slot →
        ["5", "5"][i]? = some t → ∃ e, x.entries[i]? = some e ∧ zones.Fills slot t e) ∧
      ∀ (i : Nat) (slot : Slot), ["5", "5"].length ≤ i → zonesTemplate[i]? = some slot →
        x.entries[i]? = some (zones.emptyEntry slot) := by
  refine readTokens_in_order (by decide) (fun i t ht => ?_) fun i slot hi hs => ?_
  · have hi : i < 2 := (List.getElem?_eq_some_iff.1 ht).1
    have hall : ∀ i : Fin 2, ∃ slot, zonesTemplate[i.1]? = some slot ∧
        zones.isLegal slot.name ["5", "5"][i] = true := by
      intro i
      match i with
      | 0 => exact ⟨_, rfl, by decide⟩
      | 1 => exact ⟨_, rfl, by decide⟩
    rw [← (List.getElem?_eq_some_iff.1 ht).2]
    exact hall ⟨i, hi⟩
  · have : i < 2 := (List.getElem?_eq_some_iff.1 hs).1
    exact absurd this (Nat.not_lt.2 hi)

end ContestExchange.Catalogue
