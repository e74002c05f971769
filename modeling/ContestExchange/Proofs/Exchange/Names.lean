import ContestExchange.Proofs.Exchange.Accounting
import ContestExchange.Proofs.Field.Catalogue

/-!
# The names that entries show

A slot gets one token at most, and no two slots get the same.  But an entry shows
the name of a field, and a field may belong to two slots: to one that stands for it
and to a group, or to two groups.  Both slots may show it then
(`readTokens_shared`), since the members of a group are tried in their order,
whatever the other slots show.

That is the only way (`readTokens_names`): names that coincide are those of a field
that belongs to both slots and takes both tokens.  So where no field belongs to two
slots, no name is shown twice.
-/

namespace ContestExchange.Catalogue

variable {c : Catalogue} {template : Template} {received : List String} {x : Exchange}
  {name n n' v : String} {id : Nat}

/-! ### Fields of slots -/

/-- The name stands for the field, or for a group that has it. -/
def Belongs (c : Catalogue) (id : Nat) (name : String) : Prop :=
  ∃ k, c.kind? name = some k ∧ id ∈ k.ids

theorem belongs_of_resolve? (h : c.resolve? name v = some id) :
    c.Belongs id name ∧ c.takes v id = true := by
  obtain ⟨k, hk, hid⟩ := Option.bind_eq_some_iff.1 h
  exact ⟨⟨k, hk, mem_ids_of_resolve? hk h⟩, List.find?_some hid⟩

theorem id?_of_kind? (h : c.kind? name = some (.single id)) : c.id? name = some id := by
  rw [kind?] at h
  split at h
  · rename_i i hi
    cases h
    exact hi
  · obtain ⟨ids, -, he⟩ := Option.map_eq_some_iff.1 h
    cases he

/-- A field that belongs to two names is in a group. -/
theorem exists_group_of_belongs (h : c.Belongs id n) (h' : c.Belongs id n') (hne : n ≠ n') :
    ∃ ids, id ∈ ids ∧ (c.kind? n = some (.group ids) ∨ c.kind? n' = some (.group ids)) := by
  obtain ⟨k, hk, hid⟩ := h
  obtain ⟨k', hk', hid'⟩ := h'
  cases k with
  | group ids => exact ⟨ids, hid, .inl hk⟩
  | single i =>
    cases k' with
    | group ids => exact ⟨ids, hid', .inr hk'⟩
    | single j =>
      -- one index would be under both names
      obtain rfl := List.mem_singleton.1 hid
      obtain rfl := List.mem_singleton.1 hid'
      have hname := id?_eq_some_iff.1 (id?_of_kind? hk)
      rw [id?_eq_some_iff.1 (id?_of_kind? hk')] at hname
      exact absurd (Option.some.inj hname).symm hne

/-! ### What two slots show -/

/-- The slot got the token and shows it in the entry. -/
structure Shows (m : Filling template (plain received)) (x : Exchange) (s : Fin template.length)
    (token : String) (e : Entry) : Prop where
  got : ∃ i, m s = some i ∧ (plain received).get i = token
  entry : x.entries[s.1]? = some e

variable {m : Filling template (plain received)} {s s' : Fin template.length} {t t' : String}
  {e e' : Entry}

theorem Shows.resolves (hs : Shows m x s t e) (ha : c.Accounts template received m x) :
    ∃ id f, c.resolve? (template.get s).name t = some id ∧ c.fields[id]? = some f ∧
      e.field = f.name := by
  obtain ⟨i, hi, rfl⟩ := hs.got
  obtain ⟨-, id, f, v, hid, hf, -, hshown⟩ := ha.filled hi
  refine ⟨id, f, hid, hf, ?_⟩
  rw [Option.some.inj (hs.entry.symm.trans hshown)]

/-- **Slots that show one name share the field of that name**, and it takes both tokens. -/
theorem Shows.shared (hs : Shows m x s t e) (hs' : Shows m x s' t' e')
    (ha : c.Accounts template received m x) (he : e.field = e'.field) :
    ∃ id, c.id? e.field = some id ∧ c.Belongs id (template.get s).name ∧
      c.Belongs id (template.get s').name ∧ c.takes t id = true ∧ c.takes t' id = true := by
  obtain ⟨id, f, hid, hf, hname⟩ := hs.resolves ha
  obtain ⟨id', f', hid', hf', hname'⟩ := hs'.resolves ha
  have hindex : c.id? e.field = some id := hname ▸ id?_of_getElem? hf
  have hindex' : c.id? e.field = some id' := he ▸ hname' ▸ id?_of_getElem? hf'
  obtain rfl := Option.some.inj (hindex.symm.trans hindex')
  obtain ⟨hbelongs, htakes⟩ := belongs_of_resolve? hid
  obtain ⟨hbelongs', htakes'⟩ := belongs_of_resolve? hid'
  exact ⟨id, hindex, hbelongs, hbelongs', htakes, htakes'⟩

/-- No field belongs to two slots. -/
def Disjoint (c : Catalogue) (template : Template) : Prop :=
  ∀ s s' : Fin template.length, ∀ id,
    c.Belongs id (template.get s).name → c.Belongs id (template.get s').name → s = s'

/-- **Names are shared through groups only.**  Whatever was read, two slots of different names show
one name only if the field of that name belongs to both, is in a group, and takes the tokens of
both.  Where no field belongs to two slots, each shows another name. -/
theorem readTokens_names (hx : c.readTokens template received = .ok x)
    (hslots : (template.map Slot.name).Nodup) :
    ∃ m : Filling template (plain received), c.Accounts template received m x ∧
      (∀ s s' t t' e e', Shows m x s t e → Shows m x s' t' e' → s ≠ s' → e.field = e'.field →
        ∃ id ids, c.id? e.field = some id ∧ c.takes t id = true ∧ c.takes t' id = true ∧
          c.Belongs id (template.get s).name ∧ c.Belongs id (template.get s').name ∧ id ∈ ids ∧
          (c.kind? (template.get s).name = some (.group ids) ∨
            c.kind? (template.get s').name = some (.group ids))) ∧
      (c.Disjoint template →
        ∀ s s' t t' e e', Shows m x s t e → Shows m x s' t' e' → s ≠ s' → e.field ≠ e'.field) := by
  obtain ⟨m, ha⟩ := accounts_of_readTokens hx
  refine ⟨m, ha, ?_, ?_⟩
  · intro s s' t t' e e' hs hs' hne he
    obtain ⟨id, hid, hbelongs, hbelongs', htakes, htakes'⟩ := hs.shared hs' ha he
    have hnames : (template.get s).name ≠ (template.get s').name := by
      intro hname
      have hs : s.1 < (template.map Slot.name).length := (List.length_map _).symm ▸ s.2
      have hs' : s'.1 < (template.map Slot.name).length := (List.length_map _).symm ▸ s'.2
      refine hne (Fin.ext (@List.Nodup.getElem_inj_iff _ _ hslots _ hs _ hs' |>.1 ?_))
      rw [List.getElem_map, List.getElem_map]
      exact hname
    obtain ⟨ids, hmem, hgroup⟩ := exists_group_of_belongs hbelongs hbelongs' hnames
    exact ⟨id, ids, hid, htakes, htakes', hbelongs, hbelongs', hmem, hgroup⟩
  · intro hdisjoint s s' t t' e e' hs hs' hne he
    obtain ⟨id, -, hbelongs, hbelongs', -⟩ := hs.shared hs' ha he
    exact hne (hdisjoint s s' id hbelongs hbelongs')

theorem disjoint_zones : zones.Disjoint zonesTemplate := by
  have hkind : ∀ s : Fin 2, zones.kind? (zonesTemplate.get s).name = some (.single s.1) := by
    decide +kernel
  intro s s' id hs hs'
  obtain ⟨k, hk, hid⟩ := hs
  obtain ⟨k', hk', hid'⟩ := hs'
  rw [hkind s, Option.some.injEq] at hk
  rw [hkind s', Option.some.injEq] at hk'
  subst hk hk'
  apply Fin.ext
  rw [← List.mem_singleton.1 hid, List.mem_singleton.1 hid']

/-- Either zone is shown under its own name. -/
theorem readTokens_names_zones :
    ∃ x, zones.readTokens zonesTemplate ["5", "4"] = .ok x ∧
      ∃ m : Filling zonesTemplate (plain ["5", "4"]),
        zones.Accounts zonesTemplate ["5", "4"] m x ∧
        ∀ s s' t t' e e', Shows m x s t e → Shows m x s' t' e' → s ≠ s' → e.field ≠ e'.field := by
  have hx : ∃ x, zones.readTokens zonesTemplate ["5", "4"] = .ok x := ⟨_, rfl⟩
  obtain ⟨x, hx⟩ := hx
  have hslots : (zonesTemplate.map Slot.name).Nodup := by decide
  obtain ⟨m, ha, -, hdistinct⟩ := readTokens_names hx hslots
  exact ⟨x, hx, m, ha, hdistinct disjoint_zones⟩

/-! ### A shared field -/

/-- Two kinds of zones, and a slot that takes either. -/
def eitherZone : Catalogue :=
  (zones.insertGroup ["ITUZONE", "CQZONE"]).1

/-- A zone of one kind, and then a zone of either kind. -/
def eitherZoneTemplate : Template :=
  [⟨"ITUZONE", false⟩, ⟨"ITUZONE+CQZONE", false⟩]

theorem reached_listing (name : String) (values : List String) :
    (listing name values).spellings.Reached :=
  Spellings.foldl_reached (fun _ v ht => ht.add (.canonical v)) values Spellings.reached_empty

theorem built_eitherZone : eitherZone.Built :=
  .insertGroup (.insert (.insert .empty (reached_listing _ _)) (reached_listing _ _)) _

/-- Zone 5 is one of either kind, and both slots show the first. -/
theorem readTokens_shared :
    eitherZone.Built ∧ (eitherZoneTemplate.map Slot.name).Nodup ∧
      ∃ x, eitherZone.readTokens eitherZoneTemplate ["5", "5"] = .ok x ∧ x.isValid = true ∧
        x.entries = [⟨"ITUZONE", "ITUZONE", "5", false⟩,
          ⟨"ITUZONE", "ITUZONE+CQZONE", "5", false⟩] :=
  ⟨built_eitherZone, by decide, _, rfl, by decide +kernel, by decide +kernel⟩

end ContestExchange.Catalogue
