import ContestExchange.Proofs.Field.Indices
import ContestExchange.Proofs.Text.Order

/-!
# The catalogue serves the contest

A contest's clauses make its templates, and they make its catalogue, each in its own
way.  The two agree (`ofContest_serves`): whatever slot a template has, the
catalogue has the field of that name or the group of those members.

The fields are those of all clauses, groups taken apart, each loaded once where it
is first mentioned (`fields_ofContest`).  No field is named like a group
(`isGroup_of_mem_members`), so the name of a group stands for the group.
-/

namespace ContestExchange

open Text

/-! ### The names of fields -/

namespace Group

/-- The fields that a slot of this name takes. -/
def fieldsOf (name : String) : List String :=
  if isGroup name then members name else [name]

theorem isGroup_of_mem_members {name m : String} (h : m ∈ members name) : isGroup m = false := by
  rw [isGroup, members, trimmedParts_of_mem h]
  rfl

theorem isGroup_of_mem_fieldsOf {name m : String} (h : m ∈ fieldsOf name) : isGroup m = false := by
  rw [fieldsOf] at h
  split at h
  · exact isGroup_of_mem_members h
  · rename_i hname
    rw [List.mem_singleton.1 h]
    simpa using hname

end Group

/-- The fields of all clauses, groups taken apart, each once, in the order of first mention. -/
def Contest.fieldNames (contest : Contest) : List String :=
  (((contest.clauses.flatMap Clause.fields).map trim).flatMap Group.fieldsOf).eraseDups

theorem Contest.fieldNames_eq (contest : Contest) :
    contest.fieldNames = (contest.slotNames.flatMap Group.fieldsOf).eraseDups :=
  (eraseDups_flatMap_eraseDups Group.fieldsOf _).symm

theorem Contest.mem_slotNames {contest : Contest} {country : String} {mode : Mode}
    {template : Template} (h : contest.template? country mode = some template) {slot : Slot}
    (hslot : slot ∈ template) : slot.name ∈ contest.slotNames := by
  obtain ⟨clause, hclause, rfl⟩ := Option.map_eq_some_iff.1 h
  obtain ⟨f, hf, rfl⟩ := List.mem_map.1 hslot
  rw [slotNames, List.mem_eraseDups]
  exact List.mem_map.2 ⟨f, List.mem_flatMap.2 ⟨clause, List.mem_of_find?_eq_some hclause, hf⟩, rfl⟩

namespace Catalogue

variable {c : Catalogue} {contest : Contest} {g : Grammar} {names : List String} {name : String}

/-! ### What is loaded -/

/-- The fields are those that were asked for, each loaded when it was asked for first. -/
def Loaded (contest : Contest) (g : Grammar) (c : Catalogue) (names : List String) : Prop :=
  c.fields = names.eraseDups.map (Field.load contest g)

theorem map_name_load (l : List String) : (l.map (Field.load contest g)).map Field.name = l := by
  have hload : Field.name ∘ Field.load contest g = id := rfl
  rw [List.map_map, hload, List.map_id]

theorem Loaded.names_eq (h : c.Loaded contest g names) : c.names = names.eraseDups := by
  rw [Catalogue.names, h, map_name_load]

theorem Loaded.ensure (h : c.Loaded contest g names) (name : String) :
    (ensure contest g c name).1.Loaded contest g (names ++ [name]) := by
  rw [Catalogue.ensure]
  split
  · rename_i i hi
    have hmem : name ∈ c.names := List.mem_of_getElem? (id?_eq_some_iff.1 hi)
    rw [h.names_eq, List.mem_eraseDups] at hmem
    rw [Loaded, eraseDups_concat_of_mem hmem]
    exact h
  · rename_i hnone
    have hmem := notMem_names_of_id? hnone
    rw [h.names_eq, List.mem_eraseDups] at hmem
    rcases c.insert_cases (Field.load contest g name) with ⟨_, he⟩ | ⟨i, hi, -⟩
    · rw [he, Loaded, eraseDups_concat_of_notMem hmem, List.map_append, ← h]
      rfl
    · exact absurd (hnone.symm.trans hi) (by simp)

theorem Loaded.ensureAll (h : c.Loaded contest g names) (l : List String) :
    (ensureAll contest g c l).1.Loaded contest g (names ++ l) := by
  induction l generalizing c names with
  | nil => exact (List.append_nil names).symm ▸ h
  | cons name r ih =>
    have hr := ih (h.ensure name)
    rwa [List.append_assoc] at hr

theorem Loaded.addSlot (h : c.Loaded contest g names) (name : String) :
    (addSlot contest g c name).Loaded contest g (names ++ Group.fieldsOf name) := by
  rw [Catalogue.addSlot, Group.fieldsOf]
  split
  · exact h.ensureAll (Group.members name)
  · exact h.ensure name

theorem Loaded.foldl_addSlot (h : c.Loaded contest g names) (slots : List String) :
    (slots.foldl (Catalogue.addSlot contest g) c).Loaded contest g
      (names ++ slots.flatMap Group.fieldsOf) := by
  induction slots generalizing c names with
  | nil => exact (List.append_nil names).symm ▸ h
  | cons name r ih =>
    have hr := ih (h.addSlot name)
    rwa [List.append_assoc, ← List.flatMap_cons] at hr

/-- **The fields of a contest** are loaded once each, in the order of first mention. -/
theorem fields_ofContest (contest : Contest) (g : Grammar) :
    (ofContest contest g).fields = contest.fieldNames.map (Field.load contest g) := by
  have hempty : empty.Loaded contest g [] := rfl
  rw [contest.fieldNames_eq]
  exact hempty.foldl_addSlot contest.slotNames

theorem names_ofContest (contest : Contest) (g : Grammar) :
    (ofContest contest g).names = contest.fieldNames := by
  rw [names, fields_ofContest, map_name_load]

theorem isGroup_of_mem_names (h : name ∈ (ofContest contest g).names) :
    Group.isGroup name = false := by
  rw [names_ofContest, Contest.fieldNames, List.mem_eraseDups] at h
  obtain ⟨slot, -, hname⟩ := List.mem_flatMap.1 h
  exact Group.isGroup_of_mem_fieldsOf hname

/-! ### What the groups are -/

/-- The slots of these names are provided for, though a field may take the name of a group. -/
def Provides (c : Catalogue) (slots : List String) : Prop :=
  ∀ name ∈ slots,
    (Group.isGroup name = false → ∃ i, c.id? name = some i) ∧
      (Group.isGroup name = true →
        ∃ ids, c.groups.get? name = some ids ∧ c.Denotes ids (Group.members name))

theorem provides_addSlot (c : Catalogue) (name : String) :
    (addSlot contest g c name).Provides [name] := by
  intro slot hslot
  rw [List.mem_singleton.1 hslot, addSlot]
  split
  · rename_i hg
    refine ⟨fun h => absurd (hg.symm.trans h) (by decide), fun _ => ?_⟩
    exact ⟨(ensureAll contest g c (Group.members name)).2, Dictionary.get?_put_self _ _ _,
      c.denotes_ensureAll (Group.members name)⟩
  · rename_i hg
    exact ⟨fun _ => ⟨_, c.id?_ensure name⟩, fun h => absurd h hg⟩

theorem Provides.addSlot {slots : List String} (h : c.Provides slots) (name : String) :
    (addSlot contest g c name).Provides slots := by
  intro slot hslot
  have hprefix : c.names <+: (Catalogue.addSlot contest g c name).names :=
    c.names_prefix_addSlot name
  by_cases hsame : slot = name
  · exact hsame ▸ c.provides_addSlot slot slot List.mem_cons_self
  · obtain ⟨hsingle, hgroup⟩ := h slot hslot
    constructor
    · intro hg
      obtain ⟨i, hi⟩ := hsingle hg
      exact ⟨i, id?_mono hprefix hi⟩
    · intro hg
      obtain ⟨ids, hids, hd⟩ := hgroup hg
      refine ⟨ids, ?_, hd.mono hprefix⟩
      rw [Catalogue.addSlot]
      split
      · show ((Catalogue.ensureAll contest g c _).1.groups.put name _).get? slot = some ids
        rw [Dictionary.get?_put_of_ne _ hsame, groups_ensureAll, hids]
      · rw [groups_ensure, hids]

theorem Provides.foldl_addSlot {slots : List String} (h : c.Provides slots) (l : List String) :
    (l.foldl (Catalogue.addSlot contest g) c).Provides (slots ++ l) := by
  induction l generalizing c slots with
  | nil => exact (List.append_nil slots).symm ▸ h
  | cons name r ih =>
    have hnext : (Catalogue.addSlot contest g c name).Provides (slots ++ [name]) := by
      intro slot hslot
      rcases List.mem_append.1 hslot with hslot | hslot
      · exact h.addSlot name slot hslot
      · exact c.provides_addSlot name slot hslot
    have hr := ih hnext
    rwa [List.append_assoc] at hr

theorem provides_ofContest (contest : Contest) (g : Grammar) :
    (ofContest contest g).Provides contest.slotNames := by
  have hempty : empty.Provides [] := fun _ hslot => absurd hslot List.not_mem_nil
  exact hempty.foldl_addSlot contest.slotNames

/-! ### The main result -/

/-- What the name of a slot is to stand for: the field of that name, or the group of the fields
that it lists, in that order. -/
structure Serves (c : Catalogue) (name : String) : Prop where
  single : Group.isGroup name = false →
    ∃ id f, c.kind? name = some (.single id) ∧ c.fields[id]? = some f ∧ f.name = name
  group : Group.isGroup name = true →
    ∃ ids, c.kind? name = some (.group ids) ∧
      ids.map (fun id => (c.fields[id]?).map Field.name) = (Group.members name).map some

theorem serves_of_mem (h : name ∈ contest.slotNames) : (ofContest contest g).Serves name := by
  obtain ⟨hsingle, hgroup⟩ := provides_ofContest contest g name h
  constructor
  · intro hg
    obtain ⟨i, hi⟩ := hsingle hg
    obtain ⟨f, hf, hname⟩ := name_of_id? hi
    refine ⟨i, f, ?_, hf, hname⟩
    rw [kind?, hi]
  · intro hg
    obtain ⟨ids, hids, hd⟩ := hgroup hg
    have hnone : (ofContest contest g).id? name = none := by
      cases hi : (ofContest contest g).id? name with
      | none => rfl
      | some i =>
        have hmem := List.mem_of_getElem? (id?_eq_some_iff.1 hi)
        exact absurd (hg.symm.trans (isGroup_of_mem_names hmem)) (by decide)
    refine ⟨ids, ?_, ?_⟩
    · rw [kind?, hnone]
      exact congrArg (Option.map Kind.group) hids
    · rw [← hd.map_names]
      refine List.map_congr_left fun id _ => ?_
      rw [names, List.getElem?_map]

/-- **The catalogue of a contest serves every template of the contest.**  Each field is loaded
once, in the order of first mention over all clauses, and is a multiplier or a number as the
contest says. -/
theorem ofContest_serves (contest : Contest) (g : Grammar) :
    (∀ country mode template, contest.template? country mode = some template →
      ∀ slot ∈ template, (ofContest contest g).Serves slot.name) ∧
    (ofContest contest g).fields = contest.fieldNames.map (Field.load contest g) ∧
    contest.fieldNames.Nodup ∧
    ∀ f ∈ (ofContest contest g).fields,
      f.isMult = contest.isMult f.name ∧ f.isNumeric = contest.isNumeric f.name := by
  refine ⟨?_, fields_ofContest contest g, nodup_eraseDups _, ?_⟩
  · intro country mode template ht slot hslot
    exact serves_of_mem (Contest.mem_slotNames ht hslot)
  · intro f hf
    rw [fields_ofContest] at hf
    obtain ⟨name, -, rfl⟩ := List.mem_map.1 hf
    exact ⟨rfl, rfl⟩

/-- A society may stand where others send a zone. -/
def zoneContest : Contest :=
  { Contest.empty with
    multFields := ["ITUZONE", "SOCIETY"]
    clauses := [⟨["DL"], [], [" RST", "SOCIETY + ITUZONE+"], []⟩,
      ⟨["*"], [], ["ITUZONE", "RST", "AGE"], ["AGE"]⟩] }

theorem ofContest_serves_zoneContest :
    let c := ofContest zoneContest ⟨fun _ => none, fun _ => some "DARC"⟩
    c.Serves "SOCIETY + ITUZONE+" ∧ c.names = ["RST", "SOCIETY", "ITUZONE", "AGE"] ∧
      c.isMult "SOCIETY" = true := by
  intro c
  obtain ⟨hserves, hfields, -, -⟩ :=
    ofContest_serves zoneContest ⟨fun _ => none, fun _ => some "DARC"⟩
  refine ⟨hserves "DL" .cw _ rfl ⟨"SOCIETY + ITUZONE+", false⟩ (by decide +kernel), ?_, ?_⟩
  · have hnames : zoneContest.fieldNames = ["RST", "SOCIETY", "ITUZONE", "AGE"] := by
      decide +kernel
    rw [names, hfields, map_name_load, hnames]
  · decide +kernel

end Catalogue

end ContestExchange
