import ContestExchange.Proofs.Field.Catalogue

/-!
# How a catalogue changes

A change of a field is seen under the field's name and nowhere else
(`field?_update`).  A value is learned by a field that did not accept it, and then
it is accepted for good (`Accepts.learn`); a field is told to be a multiplier, or not
to be one, by `setMult` alone.
-/

namespace ContestExchange.Catalogue

open Text

variable {c : Catalogue} {name n v w : String} {f g : Field} {b : Bool}

/-! ### Fields under their names -/

theorem field?_of_id? {i : Nat} (hi : c.id? name = some i) : c.field? name = c.fields[i]? := by
  rw [field?, hi, Option.bind_some]

theorem field?_eq_none_iff : c.field? name = none ↔ c.id? name = none := by
  constructor
  · intro h
    cases hi : c.id? name with
    | none => rfl
    | some i =>
      obtain ⟨f, hf, -⟩ := name_of_id? hi
      rw [field?_of_id? hi, hf] at h
      cases h
  · intro h
    rw [field?, h, Option.bind_none]

theorem name_of_field? (h : c.field? name = some f) : f.name = name := by
  obtain ⟨i, hi, hf⟩ := Option.bind_eq_some_iff.1 h
  obtain ⟨f', hf', hname⟩ := name_of_id? hi
  obtain rfl : f = f' := Option.some.inj (hf.symm.trans hf')
  exact hname

theorem mem_names_iff : name ∈ c.names ↔ (c.field? name).isSome = true := by
  constructor
  · intro h
    obtain ⟨f, hf, rfl⟩ := List.mem_map.1 h
    obtain ⟨i, hi⟩ := List.mem_iff_getElem?.1 hf
    rw [field?_of_id? (id?_of_getElem? hi), hi]
    rfl
  · intro h
    obtain ⟨f, hf⟩ := Option.isSome_iff_exists.1 h
    obtain ⟨i, -, hi⟩ := Option.bind_eq_some_iff.1 hf
    exact name_of_field? hf ▸ List.mem_map_of_mem (List.mem_of_getElem? hi)

theorem field?_replace {i : Nat} (hi : c.id? g.name = some i) (n : String) :
    (c.replace i g hi).field? n = if n = g.name then some g else c.field? n := by
  show (c.id? n).bind ((c.fields.set i g)[·]?) = _
  by_cases hn : n = g.name
  · rw [if_pos hn, hn, hi, Option.bind_some, List.getElem?_set_self (lt_of_id? hi)]
  · rw [if_neg hn, field?]
    refine Option.bind_congr fun j hj => ?_
    refine List.getElem?_set_ne fun he => hn ?_
    -- at one index there is one name
    have hname := id?_eq_some_iff.1 hi
    rw [he, id?_eq_some_iff.1 hj] at hname
    exact Option.some.inj hname

/-- **What is under a name after a change of one field.** -/
theorem field?_update (c : Catalogue) (name : String) {change : Field → Field × Bool}
    (keeps : ∀ f, (change f).1.name = f.name) (n : String) :
    (c.update name change keeps).1.field? n =
      if n = name then (c.field? name).map fun f => (change f).1 else c.field? n := by
  rcases c.update_cases name keeps with ⟨hi, he⟩ | ⟨i, f, hg, hi, hf, he⟩
  · rw [he, field?_eq_none_iff.2 hi, Option.map_none]
    split
    · rename_i hn
      rw [hn, field?_eq_none_iff.2 hi]
    · rfl
  · have hfield : c.field? name = some f := (field?_of_id? hi).trans hf
    have hname : (change f).1.name = name := (keeps f).trans (name_of_field? hfield)
    rw [he, field?_replace, hname, hfield, Option.map_some]

theorem told_update (c : Catalogue) (name : String) {change : Field → Field × Bool}
    (keeps : ∀ f, (change f).1.name = f.name) :
    (c.update name change keeps).2 = (c.field? name).any fun f => (change f).2 := by
  rcases c.update_cases name keeps with ⟨hi, he⟩ | ⟨i, f, _, hi, hf, he⟩
  · rw [he, field?_eq_none_iff.2 hi]
    rfl
  · rw [he, field?_of_id? hi, hf]
    rfl

theorem ext {d : Catalogue} (hfields : c.fields = d.fields) (hids : c.ids = d.ids)
    (hgroups : c.groups = d.groups) : c = d := by
  cases c
  cases d
  cases hfields
  cases hids
  cases hgroups
  rfl

theorem update_eq_self {change : Field → Field × Bool} {keeps : ∀ f, (change f).1.name = f.name}
    (h : ∀ f, c.field? name = some f → (change f).1 = f) :
    (c.update name change keeps).1 = c := by
  rcases c.update_cases name keeps with ⟨-, he⟩ | ⟨i, f, hg, hi, hf, he⟩
  · rw [he]
  · obtain ⟨hlt, rfl⟩ := List.getElem?_eq_some_iff.1 hf
    rw [he]
    refine ext ?_ rfl rfl
    show c.fields.set i _ = c.fields
    rw [h _ ((field?_of_id? hi).trans hf), List.set_getElem_self]

/-! ### Learning -/

/-- The field of that name has the value among its spellings, blanks aside. -/
def Accepts (c : Catalogue) (name v : String) : Prop :=
  ∃ f, c.field? name = some f ∧ f.spellings.contains (trim v) = true

theorem field?_learn (c : Catalogue) (name v n : String) :
    (c.learn name v).1.field? n =
      if n = name then (c.field? name).map fun f => (f.addCanonical v).1 else c.field? n :=
  c.field?_update name (fun f => f.name_addCanonical v) n

theorem told_learn (c : Catalogue) (name v : String) :
    (c.learn name v).2 =
      (c.field? name).any fun f => (f.spellings.addCanonical (trim v)).2 := by
  rw [learn, told_update]
  simp only [Field.addCanonical]

/-- **What is learned was not accepted, and is from then on.** -/
theorem accepts_of_learned (h : (c.learn name v).2 = true) :
    ¬c.Accepts name v ∧ (c.learn name v).1.Accepts name v := by
  rw [told_learn] at h
  cases hf : c.field? name with
  | none =>
    rw [hf] at h
    cases h
  | some f =>
    rw [hf, Option.any_some] at h
    rcases f.spellings.addCanonical_cases (trim v) with ⟨-, he⟩ | ⟨hne, hnew, he⟩
    · rw [he] at h
      cases h
    · constructor
      · rintro ⟨g, hg, hv⟩
        obtain rfl : f = g := Option.some.inj (hf.symm.trans hg)
        obtain ⟨d, hd⟩ := Spellings.contains_iff.1 hv
        rw [hnew] at hd
        cases hd
      · refine ⟨(f.addCanonical v).1, ?_, ?_⟩
        · rw [field?_learn, if_pos rfl, hf, Option.map_some]
        · rw [f.spellings_addCanonical]
          exact Spellings.contains_iff.2 (f.spellings.exists_canonical?_addCanonical hne)

theorem Accepts.learn (h : c.Accepts n w) (name v : String) :
    (c.learn name v).1.Accepts n w := by
  obtain ⟨f, hf, hw⟩ := h
  rw [Accepts, field?_learn]
  by_cases hn : n = name
  · rw [if_pos hn, ← hn, hf, Option.map_some]
    refine ⟨_, rfl, ?_⟩
    rw [f.spellings_addCanonical]
    exact (f.spellings.adds_addCanonical (trim v)).later.contains hw
  · rw [if_neg hn]
    exact ⟨f, hf, hw⟩

theorem learn_eq_self (h : (c.learn name v).2 = false) : (c.learn name v).1 = c := by
  refine update_eq_self fun f hf => ?_
  rw [told_learn, hf, Option.any_some] at h
  have hadds := f.spellings.adds_addCanonical (trim v)
  rw [Field.addCanonical, hadds.unchanged h]

/-! ### Multipliers -/

theorem field?_setMult (c : Catalogue) (name : String) (b : Bool) (n : String) :
    (c.setMult name b).1.field? n =
      if n = name then (c.field? name).map fun f => { f with isMult := b } else c.field? n :=
  c.field?_update name (fun _ => rfl) n

theorem told_setMult (c : Catalogue) (name : String) (b : Bool) :
    (c.setMult name b).2 = (c.field? name).isSome := by
  rw [setMult, told_update]
  cases c.field? name <;> rfl

theorem setMult_eq_self (h : ∀ f, c.field? name = some f → f.isMult = b) :
    (c.setMult name b).1 = c :=
  update_eq_self fun f hf => by rw [← h f hf]

theorem Accepts.setMult (h : c.Accepts n w) (name : String) (b : Bool) :
    (c.setMult name b).1.Accepts n w := by
  obtain ⟨f, hf, hw⟩ := h
  rw [Accepts, field?_setMult]
  by_cases hn : n = name
  · rw [if_pos hn, ← hn, hf, Option.map_some]
    exact ⟨_, rfl, hw⟩
  · rw [if_neg hn]
    exact ⟨f, hf, hw⟩

end ContestExchange.Catalogue
