import Mathlib.Data.List.Forall2
import ContestExchange.Exchange.Reading
import ContestExchange.Proofs.Field.Catalogue

/-!
# Indices stay what they are

Groups hold the indices of their members, and the indices of fields are handed
out.  Both stay good because a change only ever adds names at the end
(`names_prefix_apply`): what is under an index now is under it after any number of
changes.  So a group keeps meaning the same members (`Denotes.mono`), whatever
is put in their place, until a group of its name is made anew.

A lookup by an index that is not there would stop the program.  The lookups that
give no answer then (`legalAt?`, `admitsIn?`, `fieldIn?`) always give one, and it is
the answer of `resolve?`, `admits` and `fieldFor?`.
-/

namespace ContestExchange.Catalogue

variable {c d : Catalogue} {name v token : String} {i : Nat} {ids : List Nat}
  {members : List String} {k : Kind}

/-! ### Names under indices -/

/-- The indices are those of the members, in their order. -/
def Denotes (c : Catalogue) (ids : List Nat) (members : List String) : Prop :=
  List.Forall₂ (fun id name => c.names[id]? = some name) ids members

theorem getElem?_mono {l m : List String} (h : l <+: m) (hi : l[i]? = some name) :
    m[i]? = some name := by
  obtain ⟨r, rfl⟩ := h
  obtain ⟨hlt, -⟩ := List.getElem?_eq_some_iff.1 hi
  rw [List.getElem?_append_left hlt, hi]

theorem id?_mono (h : c.names <+: d.names) (hi : c.id? name = some i) :
    d.id? name = some i :=
  id?_eq_some_iff.2 (getElem?_mono h (id?_eq_some_iff.1 hi))

theorem Denotes.mono (hd : c.Denotes ids members) (h : c.names <+: d.names) :
    d.Denotes ids members :=
  hd.imp fun _ _ => getElem?_mono h

theorem Denotes.lt (h : c.Denotes ids members) : ∀ id ∈ ids, id < c.fields.length := by
  induction h with
  | nil =>
    intro id hid
    cases hid
  | cons hname _ ih =>
    intro id hid
    rcases List.mem_cons.1 hid with rfl | hid
    · exact lt_of_id? (id?_eq_some_iff.2 hname)
    · exact ih id hid

theorem Denotes.map_names (h : c.Denotes ids members) :
    ids.map (c.names[·]?) = members.map some := by
  induction h with
  | nil => rfl
  | cons hname _ ih => rw [List.map_cons, List.map_cons, hname, ih]

theorem denotes_of_mapM (h : members.mapM c.id? = some ids) : c.Denotes ids members := by
  induction members generalizing ids with
  | nil =>
    rw [List.mapM_nil] at h
    cases h
    exact .nil
  | cons name r ih =>
    rw [List.mapM_cons] at h
    obtain ⟨i, hi, h⟩ := Option.bind_eq_some_iff.1 h
    obtain ⟨is, his, h⟩ := Option.bind_eq_some_iff.1 h
    cases h
    exact .cons (id?_eq_some_iff.1 hi) (ih his)

/-- Every group is one of known members. -/
def Closed (c : Catalogue) : Prop :=
  ∀ g ids, c.groups.get? g = some ids → ∃ members, c.Denotes ids members

theorem closed_empty : empty.Closed := by
  intro g ids h
  cases h

theorem Closed.mono (hc : c.Closed) (h : c.names <+: d.names) (hg : d.groups = c.groups) :
    d.Closed := by
  intro g ids hids
  rw [hg] at hids
  obtain ⟨members, hd⟩ := hc g ids hids
  exact ⟨members, hd.mono h⟩

theorem Closed.put (hc : c.Closed) (hd : c.Denotes ids members) (g : String) :
    Closed { c with groups := c.groups.put g ids } := by
  intro g' ids' h
  rw [Dictionary.get?_put] at h
  split at h
  · cases h
    exact ⟨members, hd⟩
  · exact hc g' ids' h

/-! ### One operation -/

theorem names_replace {f : Field} (h : c.id? f.name = some i) : (c.replace i f h).names = c.names :=
  map_name_set (id?_eq_some_iff.1 h)

theorem names_push {f : Field} (h : c.id? f.name = none) :
    (c.push f h).names = c.names ++ [f.name] :=
  List.map_append

theorem names_prefix_insert (c : Catalogue) (f : Field) : c.names <+: (c.insert f).1.names := by
  rcases c.insert_cases f with ⟨h, he⟩ | ⟨i, h, he⟩
  · rw [he, names_push]
    exact List.prefix_append _ _
  · rw [he]
    exact (names_replace h).symm ▸ List.prefix_rfl

theorem groups_insert (c : Catalogue) (f : Field) : (c.insert f).1.groups = c.groups := by
  rcases c.insert_cases f with ⟨h, he⟩ | ⟨i, h, he⟩
  · rw [he]
    rfl
  · rw [he]
    rfl

theorem id?_insert (c : Catalogue) (f : Field) :
    (c.insert f).1.id? f.name = some (c.insert f).2 := by
  rw [insert]
  split
  · rename_i i hi
    exact hi
  · exact Dictionary.get?_put_self _ _ _

section Update

variable {change : Field → Field × Bool} (keeps : ∀ f, (change f).1.name = f.name)
include keeps

theorem names_update (c : Catalogue) (name : String) :
    (c.update name change keeps).1.names = c.names := by
  rcases c.update_cases name keeps with ⟨-, he⟩ | ⟨i, f, h, -, -, he⟩
  · rw [he]
  · rw [he]
    exact names_replace h

theorem groups_update (c : Catalogue) (name : String) :
    (c.update name change keeps).1.groups = c.groups := by
  rcases c.update_cases name keeps with ⟨-, he⟩ | ⟨i, f, h, -, -, he⟩
  · rw [he]
  · rw [he]
    rfl

end Update

/-- What making a group comes to. -/
theorem insertGroup_cases (c : Catalogue) (members : List String) :
    c.insertGroup members = (c, false) ∨ ∃ ids, c.Denotes ids members ∧ 2 ≤ ids.length ∧
      c.insertGroup members =
        ({ c with groups := c.groups.put (Group.nameOf members) ids }, true) := by
  rw [insertGroup]
  split
  · exact .inl rfl
  · rename_i ids hids
    by_cases h : 2 ≤ ids.length
    · rw [if_pos h]
      exact .inr ⟨ids, denotes_of_mapM hids, h, rfl⟩
    · rw [if_neg h]
      exact .inl rfl

theorem names_insertGroup (c : Catalogue) (members : List String) :
    (c.insertGroup members).1.names = c.names := by
  rcases c.insertGroup_cases members with he | ⟨ids, -, -, he⟩
  · rw [he]
  · rw [he]
    rfl

/-- A group that is made means its members. -/
theorem denotes_insertGroup (h : (c.insertGroup members).2 = true) :
    ∃ ids, (c.insertGroup members).1.groups.get? (Group.nameOf members) = some ids ∧
      (c.insertGroup members).1.Denotes ids members := by
  rcases c.insertGroup_cases members with he | ⟨ids, hd, -, he⟩
  · rw [he] at h
    cases h
  · rw [he]
    exact ⟨ids, Dictionary.get?_put_self _ _ _, hd⟩

/-! ### Any sequence of operations -/

/-- A change of a catalogue. -/
inductive Change where
  | insert (f : Field)
  | insertGroup (members : List String)
  | learn (name v : String)
  | addAlternative (name value alt : String)
  | setMult (name : String) (b : Bool)

def apply (c : Catalogue) : Change → Catalogue
  | .insert f => (c.insert f).1
  | .insertGroup members => (c.insertGroup members).1
  | .learn name v => (c.learn name v).1
  | .addAlternative name value alt => (c.addAlternative name value alt).1
  | .setMult name b => (c.setMult name b).1

def applyAll (c : Catalogue) (l : List Change) : Catalogue :=
  l.foldl apply c

/-- Whether the change makes a group of that name. -/
def makes (c : Catalogue) (g : String) : Change → Bool
  | .insertGroup members => Group.nameOf members == g && (c.insertGroup members).2
  | _ => false

/-- Whether none of the changes makes a group of that name. -/
def leaves (g : String) : Catalogue → List Change → Bool
  | _, [] => true
  | c, ch :: r => !c.makes g ch && leaves g (c.apply ch) r

theorem names_prefix_apply (c : Catalogue) (ch : Change) : c.names <+: (c.apply ch).names := by
  cases ch with
  | insert f => exact c.names_prefix_insert f
  | insertGroup members => exact (c.names_insertGroup members).symm ▸ List.prefix_rfl
  | learn name v => exact (c.names_update _ name).symm ▸ List.prefix_rfl
  | addAlternative name value alt => exact (c.names_update _ name).symm ▸ List.prefix_rfl
  | setMult name b => exact (c.names_update _ name).symm ▸ List.prefix_rfl

theorem names_prefix_applyAll (c : Catalogue) (l : List Change) :
    c.names <+: (c.applyAll l).names := by
  induction l generalizing c with
  | nil => exact List.prefix_rfl
  | cons ch r ih => exact (c.names_prefix_apply ch).trans (ih _)

theorem Closed.apply (hc : c.Closed) (ch : Change) : (c.apply ch).Closed := by
  have hprefix := c.names_prefix_apply ch
  cases ch with
  | insert f => exact hc.mono hprefix (c.groups_insert f)
  | insertGroup members =>
    show (c.insertGroup members).1.Closed
    rcases c.insertGroup_cases members with he | ⟨ids, hd, -, he⟩
    · rw [he]
      exact hc
    · rw [he]
      exact hc.put hd _
  | learn name v => exact hc.mono hprefix (c.groups_update _ name)
  | addAlternative name value alt => exact hc.mono hprefix (c.groups_update _ name)
  | setMult name b => exact hc.mono hprefix (c.groups_update _ name)

theorem Closed.applyAll (hc : c.Closed) (l : List Change) : (c.applyAll l).Closed := by
  induction l generalizing c with
  | nil => exact hc
  | cons ch r ih => exact ih (hc.apply ch)

theorem groups_apply {g : String} {ch : Change} (h : c.makes g ch = false) :
    (c.apply ch).groups.get? g = c.groups.get? g := by
  cases ch with
  | insert f => exact congrArg (·.get? g) (c.groups_insert f)
  | insertGroup members =>
    show (c.insertGroup members).1.groups.get? g = _
    rw [makes] at h
    rcases c.insertGroup_cases members with he | ⟨ids, -, -, he⟩
    · rw [he]
    · rw [he, Bool.and_true, beq_eq_false_iff_ne] at h
      rw [he]
      exact Dictionary.get?_put_of_ne _ (Ne.symm h) ids
  | learn name v => exact congrArg (·.get? g) (c.groups_update _ name)
  | addAlternative name value alt => exact congrArg (·.get? g) (c.groups_update _ name)
  | setMult name b => exact congrArg (·.get? g) (c.groups_update _ name)

theorem groups_applyAll {g : String} {l : List Change} (h : leaves g c l = true) :
    (c.applyAll l).groups.get? g = c.groups.get? g := by
  induction l generalizing c with
  | nil => rfl
  | cons ch r ih =>
    rw [leaves, Bool.and_eq_true, Bool.not_eq_true'] at h
    exact (ih h.2).trans (groups_apply h.1)

/-! ### The catalogue of a contest -/

section Contest

variable {contest : Contest} {g : Grammar}

theorem names_prefix_ensure (c : Catalogue) (name : String) :
    c.names <+: (ensure contest g c name).1.names := by
  rw [ensure]
  split
  · exact List.prefix_rfl
  · exact c.names_prefix_insert _

theorem id?_ensure (c : Catalogue) (name : String) :
    (ensure contest g c name).1.id? name = some (ensure contest g c name).2 := by
  rw [ensure]
  split
  · assumption
  · exact c.id?_insert (Field.load contest g name)

theorem groups_ensure (c : Catalogue) (name : String) :
    (ensure contest g c name).1.groups = c.groups := by
  rw [ensure]
  split
  · rfl
  · exact c.groups_insert _

theorem names_prefix_ensureAll (c : Catalogue) (l : List String) :
    c.names <+: (ensureAll contest g c l).1.names := by
  induction l generalizing c with
  | nil => exact List.prefix_rfl
  | cons name r ih => exact (c.names_prefix_ensure name).trans (ih _)

theorem groups_ensureAll (c : Catalogue) (l : List String) :
    (ensureAll contest g c l).1.groups = c.groups := by
  induction l generalizing c with
  | nil => rfl
  | cons name r ih => exact (ih _).trans (c.groups_ensure name)

theorem denotes_ensureAll (c : Catalogue) (l : List String) :
    (ensureAll contest g c l).1.Denotes (ensureAll contest g c l).2 l := by
  induction l generalizing c with
  | nil => exact .nil
  | cons name r ih =>
    have hname : (ensure contest g c name).1.names[(ensure contest g c name).2]? = some name :=
      id?_eq_some_iff.1 (c.id?_ensure name)
    exact .cons (getElem?_mono (names_prefix_ensureAll _ r) hname) (ih _)

theorem names_prefix_addSlot (c : Catalogue) (name : String) :
    c.names <+: (addSlot contest g c name).names := by
  rw [addSlot]
  split
  · exact c.names_prefix_ensureAll _
  · exact c.names_prefix_ensure name

theorem Closed.addSlot (hc : c.Closed) (name : String) : (addSlot contest g c name).Closed := by
  rw [Catalogue.addSlot]
  split
  · have hall : (ensureAll contest g c (Group.members name)).1.Closed :=
      hc.mono (c.names_prefix_ensureAll _) (c.groups_ensureAll _)
    exact hall.put (c.denotes_ensureAll _) name
  · exact hc.mono (c.names_prefix_ensure name) (c.groups_ensure name)

theorem closed_ofContest : (ofContest contest g).Closed := by
  have h : ∀ (l : List String) (c : Catalogue), c.Closed →
      (l.foldl (Catalogue.addSlot contest g) c).Closed := by
    intro l
    induction l with
    | nil => exact fun _ hc => hc
    | cons name r ih => exact fun c hc => ih _ (hc.addSlot name)
  exact h _ empty closed_empty

end Contest

/-! ### Lookups that could fail -/

/-- Whether the field at an index takes the value; no answer if there is no field. -/
def legalAt? (c : Catalogue) (v : String) (id : Nat) : Option Bool :=
  (c.fields[id]?).map (·.isLegal v)

/-- `admits`, without an answer if a field is asked that is not there. -/
def admitsIn? (c : Catalogue) (token : String) : Kind → Option Bool
  | .single id => c.legalAt? token id
  | .group ids => ids.anyM (c.legalAt? token)

/-- `fieldFor?`, without an answer if a field is asked that is not there. -/
def fieldIn? (c : Catalogue) (token : String) : Kind → Option (Option Field)
  | .single id => (c.fields[id]?).map some
  | .group ids => (ids.findM? (c.legalAt? token)).bind fun
    | none => some none
    | some id => (c.fields[id]?).map some

theorem legalAt?_eq (h : i < c.fields.length) : c.legalAt? v i = some (c.takes v i) := by
  rw [legalAt?, takes, List.getElem?_eq_getElem h]
  rfl

theorem findM?_legalAt? (h : ∀ id ∈ ids, id < c.fields.length) :
    ids.findM? (c.legalAt? v) = some (ids.find? (c.takes v)) := by
  induction ids with
  | nil => rfl
  | cons id r ih =>
    have hr := ih fun j hj => h j (List.mem_cons_of_mem id hj)
    rw [List.findM?, legalAt?_eq (h id List.mem_cons_self), List.find?_cons]
    cases c.takes v id with
    | true => rfl
    | false => exact hr

theorem anyM_legalAt? (h : ∀ id ∈ ids, id < c.fields.length) :
    ids.anyM (c.legalAt? v) = some (ids.any (c.takes v)) := by
  induction ids with
  | nil => rfl
  | cons id r ih =>
    have hr := ih fun j hj => h j (List.mem_cons_of_mem id hj)
    rw [List.anyM, legalAt?_eq (h id List.mem_cons_self), List.any_cons]
    cases c.takes v id with
    | true => rfl
    | false => exact hr

theorem admitsIn?_eq (h : ∀ id ∈ k.ids, id < c.fields.length) :
    c.admitsIn? token k = some (c.admits token k) := by
  cases k with
  | single id => exact legalAt?_eq (h id List.mem_cons_self)
  | group ids => exact anyM_legalAt? h

theorem fieldIn?_eq (h : ∀ id ∈ k.ids, id < c.fields.length) :
    c.fieldIn? token k = some (c.fieldFor? token k) := by
  cases k with
  | single id =>
    rw [fieldIn?, fieldFor?, List.getElem?_eq_getElem (h id List.mem_cons_self)]
    rfl
  | group ids =>
    have hfirst : ids.findM? (c.legalAt? token) = some (ids.find? (c.takes token)) :=
      findM?_legalAt? h
    rw [fieldIn?, fieldFor?, hfirst]
    cases hfind : ids.find? (c.takes token) with
    | none => rfl
    | some id =>
      show (c.fields[id]?).map some = some c.fields[id]?
      rw [List.getElem?_eq_getElem (h id (List.mem_of_find?_eq_some hfind)), Option.map_some]

theorem Closed.lt_of_kind? (hc : c.Closed) (hk : c.kind? name = some k) :
    ∀ id ∈ k.ids, id < c.fields.length := by
  rw [kind?] at hk
  cases hi : c.id? name with
  | some i =>
    rw [hi] at hk
    cases hk
    intro id hid
    rw [List.mem_singleton.1 hid]
    exact lt_of_id? hi
  | none =>
    rw [hi] at hk
    obtain ⟨ids, hids, rfl⟩ := Option.map_eq_some_iff.1 hk
    obtain ⟨members, hd⟩ := hc name ids hids
    exact hd.lt

/-! ### The main result -/

/-- The indices of a catalogue are good: those under the names, those in the groups and all that
are looked up for a slot. -/
structure Indexed (c : Catalogue) : Prop where
  id?_iff : ∀ name i, c.id? name = some i ↔ ∃ f, c.fields[i]? = some f ∧ f.name = name
  nodup : c.names.Nodup
  lt_of_mem : ∀ g ids, c.groups.get? g = some ids → ∀ id ∈ ids, id < c.fields.length
  resolves : ∀ name k v, c.kind? name = some k →
    k.ids.findM? (c.legalAt? v) = some (c.resolve? name v)
  admits : ∀ name k token, c.kind? name = some k →
    c.admitsIn? token k = some (c.admits token k)
  shows : ∀ name k token, c.kind? name = some k →
    c.fieldIn? token k = some (c.fieldFor? token k)

theorem nodup_names (c : Catalogue) : c.names.Nodup := by
  rw [List.nodup_iff_injective_getElem]
  intro i j hij
  have hi := id?_eq_some_iff.2 (List.getElem?_eq_getElem i.2)
  have hj := id?_eq_some_iff.2 (List.getElem?_eq_getElem j.2)
  rw [show c.names[i.1] = c.names[j.1] from hij, hj] at hi
  exact Fin.ext (Option.some.inj hi).symm

theorem Closed.indexed (hc : c.Closed) : c.Indexed where
  id?_iff name i := by
    rw [id?_eq_some_iff, names, List.getElem?_map, Option.map_eq_some_iff]
  nodup := c.nodup_names
  lt_of_mem g ids hids := by
    obtain ⟨members, hd⟩ := hc g ids hids
    exact hd.lt
  resolves name k v hk := by
    rw [findM?_legalAt? (hc.lt_of_kind? hk), resolve?, hk, Option.bind_some]
  admits _ _ _ hk := admitsIn?_eq (hc.lt_of_kind? hk)
  shows _ _ _ hk := fieldIn?_eq (hc.lt_of_kind? hk)

/-- **Indices stay sound.**  Whatever is done to the empty catalogue or to that of a contest, its
indices are good; and whatever is done then, an index stays with its name, and what a group holds
means the same members and stays until a group of that name is made. -/
theorem indices_stay {origin : Catalogue}
    (ho : origin = empty ∨ ∃ contest g, origin = ofContest contest g) (l : List Change) :
    (origin.applyAll l).Indexed ∧ ∀ m : List Change,
      (∀ name i, (origin.applyAll l).id? name = some i →
        ((origin.applyAll l).applyAll m).id? name = some i) ∧
      ∀ g ids, (origin.applyAll l).groups.get? g = some ids →
        (∃ members, (origin.applyAll l).Denotes ids members ∧
          ((origin.applyAll l).applyAll m).Denotes ids members) ∧
        (leaves g (origin.applyAll l) m = true →
          ((origin.applyAll l).applyAll m).groups.get? g = some ids) := by
  have horigin : origin.Closed := by
    rcases ho with rfl | ⟨contest, g, rfl⟩
    · exact closed_empty
    · exact closed_ofContest
  have hc : (origin.applyAll l).Closed := horigin.applyAll l
  refine ⟨hc.indexed, fun m => ?_⟩
  have hprefix := (origin.applyAll l).names_prefix_applyAll m
  refine ⟨fun name i hi => id?_mono hprefix hi, fun g ids hids => ⟨?_, fun hm => ?_⟩⟩
  · obtain ⟨members, hd⟩ := hc g ids hids
    exact ⟨members, hd, hd.mono hprefix⟩
  · rw [groups_applyAll hm, hids]

/-- A zone or a society, as a group. -/
def zoneOrSociety : Catalogue :=
  empty.applyAll [.insert (.ofName "ITUZONE"), .insert (.ofName "SOCIETY"),
    .insertGroup ["ITUZONE", "SOCIETY"]]

/-- A member is replaced, a field takes the name of the group, and there is a group of another
name. -/
theorem indices_stay_zoneOrSociety :
    let changes : List Change := [.insert { Field.ofName "SOCIETY" with isNumeric := true },
      .insert (.ofName "ITUZONE+SOCIETY"), .insertGroup ["SOCIETY", "ITUZONE"],
      .setMult "ITUZONE" true]
    zoneOrSociety.Indexed ∧
      (zoneOrSociety.applyAll changes).id? "SOCIETY" = some 1 ∧
      (∃ members, zoneOrSociety.Denotes [0, 1] members ∧
        (zoneOrSociety.applyAll changes).Denotes [0, 1] members) ∧
      (zoneOrSociety.applyAll changes).groups.get? "ITUZONE+SOCIETY" = some [0, 1] := by
  intro changes
  obtain ⟨hindexed, hstay⟩ := indices_stay (.inl rfl) [.insert (.ofName "ITUZONE"),
    .insert (.ofName "SOCIETY"), .insertGroup ["ITUZONE", "SOCIETY"]]
  obtain ⟨hid, hgroup⟩ := hstay changes
  obtain ⟨hmembers, hkept⟩ := hgroup "ITUZONE+SOCIETY" [0, 1] (by decide +kernel)
  exact ⟨hindexed, hid "SOCIETY" 1 (by decide +kernel), hmembers, hkept (by decide +kernel)⟩

end ContestExchange.Catalogue
