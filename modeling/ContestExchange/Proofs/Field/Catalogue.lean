import Mathlib.Data.List.Nodup
import ContestExchange.Field.Catalogue
import ContestExchange.Proofs.Field.Classes
import ContestExchange.Proofs.Text.Words

/-!
# What every catalogue keeps

However a catalogue is put together (`Built`), no two of its fields have one name,
and its tables come from additions (`Built.sound`).

A catalogue is tidy if its tables hold no text with a blank at an end.  Sheets, a
contest's own values and everything that fields are taught after that are trimmed,
so the catalogue of a contest is tidy (`tidy_ofContest`) and stays so.
-/

namespace ContestExchange

open Text

/-! ### Tidy tables -/

namespace Spellings

variable {t : Spellings}

/-- No spelling and no canonical value has a blank at an end. -/
def Tidy (t : Spellings) : Prop :=
  ∀ v c, t.canonical? v = some c → trim v = v ∧ trim c = c

theorem tidy_empty : empty.Tidy := by
  intro v c h
  cases h

theorem Tidy.put (h : t.Tidy) {v c : String} {m : List String} (hv : trim v = v)
    (hc : trim c = c) : (t.put v c m).Tidy := by
  intro w d hw
  rw [canonical?_put] at hw
  split at hw
  · rename_i he
    obtain rfl := Option.some.inj hw
    exact ⟨he ▸ hv, hc⟩
  · exact h w d hw

theorem Tidy.addCanonical (h : t.Tidy) {v : String} (hv : trim v = v) :
    (t.addCanonical v).1.Tidy := by
  rcases t.addCanonical_cases v with ⟨-, he⟩ | ⟨-, -, he⟩
  · rw [he]
    exact h
  · rw [he]
    exact h.put hv hv

theorem Tidy.addAlternative (h : t.Tidy) {value alt : String} (hv : trim value = value)
    (ha : trim alt = alt) : (t.addAlternative value alt).1.Tidy := by
  have hvalue := h.addCanonical hv
  rcases t.addAlternative_cases value alt with ⟨-, he⟩ | ⟨-, c, hc, ⟨-, he⟩ | ⟨-, -, he⟩⟩
  · rw [he]
    exact h
  · rw [he]
    exact hvalue
  · rw [he]
    exact hvalue.put ha (hvalue value c hc).2

theorem foldl_tidy {α : Type} {f : Spellings → α → Spellings} {l : List α}
    (hf : ∀ t, ∀ x ∈ l, t.Tidy → (f t x).Tidy) (h : t.Tidy) : (l.foldl f t).Tidy := by
  induction l generalizing t with
  | nil => exact h
  | cons x r ih =>
    exact ih (fun t y hy => hf t y (List.mem_cons_of_mem x hy)) (hf t x List.mem_cons_self h)

theorem Tidy.addClass (h : t.Tidy) {value : String} {alts : List String} (hv : trim value = value)
    (ha : ∀ a ∈ alts, trim a = a) : (t.addClass value alts).Tidy :=
  foldl_tidy (fun _ a hmem ht => ht.addAlternative hv (ha a hmem)) (h.addCanonical hv)

theorem Tidy.addEntry (h : t.Tidy) {line : String} (hl : trim line = line) :
    (t.addEntry line).Tidy := by
  rw [Spellings.addEntry]
  split
  · exact h.addCanonical hl
  · exact h.addClass (trim_trim _) fun _ ha => trim_of_mem_trimmedParts ha

theorem tidy_parse (text : String) : (parse text).Tidy := by
  refine foldl_tidy (fun t line hline ht => ht.addEntry ?_) tidy_empty
  obtain ⟨cs, -, rfl⟩ := List.mem_map.1 (List.mem_filter.1 hline).1
  exact trim_ofList_trimChars cs

theorem Tidy.addOverride (h : t.Tidy) (text : String) : (t.addOverride text).Tidy := by
  have hparts : ∀ p ∈ trimmedParts '|' text, trim p = p := fun _ hp => trim_of_mem_trimmedParts hp
  rw [Spellings.addOverride]
  split
  · exact h
  · rename_i value alts he
    rw [he] at hparts
    exact h.addClass (hparts value List.mem_cons_self)
      fun a ha => hparts a (List.mem_cons_of_mem value ha)

theorem Tidy.addOverrides (h : t.Tidy) (texts : List String) : (t.addOverrides texts).Tidy :=
  foldl_tidy (fun _ text _ ht => ht.addOverride text) h

end Spellings

namespace Field

variable (f : Field) (contest : Contest) (g : Grammar) (name : String)

theorem spellings_addCanonical (v : String) :
    (f.addCanonical v).1.spellings = (f.spellings.addCanonical (trim v)).1 := by
  simp only [addCanonical]

theorem spellings_addAlternative (value alt : String) : (f.addAlternative value alt).1.spellings =
    (f.spellings.addAlternative (trim value) (trim alt)).1 := by
  simp only [addAlternative]

theorem reached_addCanonical (h : f.spellings.Reached) (v : String) :
    (f.addCanonical v).1.spellings.Reached := by
  rw [spellings_addCanonical]
  exact h.add (.canonical (trim v))

theorem reached_addAlternative (h : f.spellings.Reached) (value alt : String) :
    (f.addAlternative value alt).1.spellings.Reached := by
  rw [spellings_addAlternative]
  exact h.add (.alternative (trim value) (trim alt))

theorem tidy_addCanonical (h : f.spellings.Tidy) (v : String) :
    (f.addCanonical v).1.spellings.Tidy := by
  rw [spellings_addCanonical]
  exact h.addCanonical (trim_trim v)

theorem tidy_addAlternative (h : f.spellings.Tidy) (value alt : String) :
    (f.addAlternative value alt).1.spellings.Tidy := by
  rw [spellings_addAlternative]
  exact h.addAlternative (trim_trim value) (trim_trim alt)

theorem spellings_load {P : Spellings → Prop} (hempty : P .empty)
    (hparse : ∀ text, P (Spellings.parse text))
    (hoverrides : ∀ t texts, P t → P (t.addOverrides texts)) :
    P (load contest g name).spellings := by
  have htable : P (((g.values? name).map Spellings.parse).getD .empty) := by
    cases g.values? name with
    | none => exact hempty
    | some text => exact hparse text
  show P (Option.getD (Option.map _ ((countryOf? name).bind contest.countryValues.get?)) _)
  cases (countryOf? name).bind contest.countryValues.get? with
  | none => exact htable
  | some texts => exact hoverrides _ texts htable

theorem reached_load : (load contest g name).spellings.Reached :=
  spellings_load contest g name Spellings.reached_empty Spellings.reached_parse
    fun _ texts ht => ht.addOverrides texts

theorem tidy_load : (load contest g name).spellings.Tidy :=
  spellings_load contest g name Spellings.tidy_empty Spellings.tidy_parse
    fun _ texts ht => ht.addOverrides texts

end Field

namespace Catalogue

variable {c : Catalogue} {name : String} {i : Nat} {f : Field}

/-! ### Where the fields are -/

theorem name_of_id? (h : c.id? name = some i) : ∃ f, c.fields[i]? = some f ∧ f.name = name := by
  have hname := id?_eq_some_iff.1 h
  rwa [names, List.getElem?_map, Option.map_eq_some_iff] at hname

theorem notMem_names_of_id? (h : c.id? name = none) : name ∉ c.names := by
  intro hmem
  obtain ⟨i, hi⟩ := List.mem_iff_getElem?.1 hmem
  rw [id?_eq_some_iff.2 hi] at h
  cases h

theorem update_cases (c : Catalogue) (name : String) {change : Field → Field × Bool}
    (keeps : ∀ f, (change f).1.name = f.name) :
    c.id? name = none ∧ c.update name change keeps = (c, false) ∨
      ∃ i f h, c.id? name = some i ∧ c.fields[i]? = some f ∧
        c.update name change keeps = (c.replace i (change f).1 h, (change f).2) := by
  rw [update]
  split
  · rename_i hnone
    exact .inl ⟨hnone, rfl⟩
  · rename_i i hi
    have hf := List.getElem?_eq_getElem (lt_of_id? hi)
    exact .inr ⟨i, _, (keeps _).symm ▸ id?_of_getElem? hf, hi, hf, rfl⟩

theorem insert_cases (c : Catalogue) (f : Field) :
    (∃ h, (c.insert f).1 = c.push f h) ∨ ∃ i h, (c.insert f).1 = c.replace i f h := by
  rw [insert]
  split
  · rename_i i hi
    exact .inr ⟨i, hi, rfl⟩
  · rename_i hnone
    exact .inl ⟨hnone, rfl⟩

/-! ### What holds of every field -/

/-- The names stay apart, and the property holds of every field. -/
structure Holds (P : Field → Prop) (c : Catalogue) : Prop where
  nodup : c.names.Nodup
  forall_mem : ∀ f ∈ c.fields, P f

variable {P : Field → Prop}

theorem holds_empty : Holds P empty :=
  ⟨List.nodup_nil, fun _ hf => absurd hf List.not_mem_nil⟩

theorem Holds.of_groups (h : c.Holds P) (g : Dictionary String (List Nat)) :
    Holds P { c with groups := g } :=
  ⟨h.nodup, h.forall_mem⟩

theorem Holds.replace (h : c.Holds P) (hi : c.id? f.name = some i) (hf : P f) :
    (c.replace i f hi).Holds P := by
  refine ⟨?_, fun g hg => ?_⟩
  · show ((c.fields.set i f).map Field.name).Nodup
    rw [map_name_set (id?_eq_some_iff.1 hi)]
    exact h.nodup
  · rcases List.mem_or_eq_of_mem_set hg with hg | rfl
    · exact h.forall_mem g hg
    · exact hf

theorem Holds.push (h : c.Holds P) (hnone : c.id? f.name = none) (hf : P f) :
    (c.push f hnone).Holds P := by
  refine ⟨?_, fun g hg => ?_⟩
  · show ((c.fields ++ [f]).map Field.name).Nodup
    rw [List.map_append, List.nodup_append]
    refine ⟨h.nodup, List.nodup_singleton _, ?_⟩
    rintro a ha b hb rfl
    rw [List.map_singleton, List.mem_singleton] at hb
    exact notMem_names_of_id? hnone (hb ▸ ha)
  · rcases List.mem_append.1 hg with hg | hg
    · exact h.forall_mem g hg
    · exact List.mem_singleton.1 hg ▸ hf

theorem Holds.insert (h : c.Holds P) (hf : P f) : (c.insert f).1.Holds P := by
  rcases c.insert_cases f with ⟨hnone, he⟩ | ⟨i, hi, he⟩
  · rw [he]
    exact h.push hnone hf
  · rw [he]
    exact h.replace hi hf

theorem Holds.insertGroup (h : c.Holds P) (members : List String) :
    (c.insertGroup members).1.Holds P := by
  rw [Catalogue.insertGroup]
  split
  · exact h
  · split
    · exact h.of_groups _
    · exact h

theorem Holds.update (h : c.Holds P) {change : Field → Field × Bool}
    (keeps : ∀ f, (change f).1.name = f.name) (hP : ∀ f, P f → P (change f).1) (name : String) :
    (c.update name change keeps).1.Holds P := by
  rcases c.update_cases name keeps with ⟨-, he⟩ | ⟨i, f, hi, -, hf, he⟩
  · rw [he]
    exact h
  · rw [he]
    exact h.replace hi (hP f (h.forall_mem f (List.mem_of_getElem? hf)))

section Contest

variable {contest : Contest} {g : Grammar} (hload : ∀ name, P (Field.load contest g name))
include hload

theorem Holds.ensure (h : c.Holds P) (name : String) : (ensure contest g c name).1.Holds P := by
  rw [Catalogue.ensure]
  split
  · exact h
  · exact h.insert (hload name)

theorem Holds.ensureAll (h : c.Holds P) (l : List String) :
    (ensureAll contest g c l).1.Holds P := by
  induction l generalizing c with
  | nil => exact h
  | cons name r ih => exact ih (h.ensure hload name)

theorem Holds.addSlot (h : c.Holds P) (name : String) : (addSlot contest g c name).Holds P := by
  rw [Catalogue.addSlot]
  split
  · exact (h.ensureAll hload _).of_groups _
  · exact h.ensure hload name

theorem holds_ofContest : (ofContest contest g).Holds P := by
  rw [ofContest]
  generalize contest.slotNames = l
  have h : Holds P empty := holds_empty
  revert h
  generalize empty = c
  intro h
  induction l generalizing c with
  | nil => exact h
  | cons name r ih => exact ih _ (h.addSlot hload name)

end Contest

/-! ### The catalogues that there are -/

/-- The catalogue of a contest or one that was put together by hand, after any changes. -/
inductive Built : Catalogue → Prop
  | empty : Built empty
  | ofContest (contest : Contest) (g : Grammar) : Built (ofContest contest g)
  | insert {c : Catalogue} (h : Built c) {f : Field} (hf : f.spellings.Reached) :
    Built (c.insert f).1
  | insertGroup {c : Catalogue} (h : Built c) (members : List String) :
    Built (c.insertGroup members).1
  | setMult {c : Catalogue} (h : Built c) (name : String) (b : Bool) : Built (c.setMult name b).1
  | learn {c : Catalogue} (h : Built c) (name v : String) : Built (c.learn name v).1
  | addAlternative {c : Catalogue} (h : Built c) (name value alt : String) :
    Built (c.addAlternative name value alt).1

/-- No two fields have one name, and the tables come from additions. -/
abbrev Sound : Catalogue → Prop :=
  Holds fun f => f.spellings.Reached

theorem Sound.learn (h : c.Sound) (name v : String) : (c.learn name v).1.Sound :=
  Holds.update h (fun f => f.name_addCanonical v) (fun f hf => f.reached_addCanonical hf v) name

/-- **Every catalogue is sound.** -/
theorem Built.sound (h : c.Built) : c.Sound := by
  induction h with
  | empty => exact holds_empty
  | ofContest contest g => exact holds_ofContest (Field.reached_load contest g)
  | insert _ hf ih => exact Holds.insert ih hf
  | insertGroup _ members ih => exact Holds.insertGroup ih members
  | setMult _ name b ih => exact Holds.update ih (fun _ => rfl) (fun _ hf => hf) name
  | learn _ name v ih => exact ih.learn name v
  | addAlternative _ name value alt ih =>
    exact Holds.update ih (fun f => f.name_addAlternative value alt)
      (fun f hf => f.reached_addAlternative hf value alt) name

/-! ### Tidy catalogues -/

/-- No table holds a text with a blank at an end. -/
def Tidy (c : Catalogue) : Prop :=
  ∀ f ∈ c.fields, f.spellings.Tidy

/-- **The catalogue of a contest is tidy.** -/
theorem tidy_ofContest (contest : Contest) (g : Grammar) : (ofContest contest g).Tidy :=
  (holds_ofContest (Field.tidy_load contest g)).forall_mem

theorem Built.tidy_insert (h : c.Built) (ht : c.Tidy) (hf : f.spellings.Tidy) :
    (c.insert f).1.Tidy :=
  (Holds.insert (P := fun f => f.spellings.Tidy) ⟨h.sound.nodup, ht⟩ hf).forall_mem

theorem Built.tidy_learn (h : c.Built) (ht : c.Tidy) (name v : String) : (c.learn name v).1.Tidy :=
  (Holds.update (P := fun f => f.spellings.Tidy) ⟨h.sound.nodup, ht⟩
    (fun f => f.name_addCanonical v) (fun f hf => f.tidy_addCanonical hf v) name).forall_mem

theorem Built.tidy_addAlternative (h : c.Built) (ht : c.Tidy) (name value alt : String) :
    (c.addAlternative name value alt).1.Tidy :=
  (Holds.update (P := fun f => f.spellings.Tidy) ⟨h.sound.nodup, ht⟩
    (fun f => f.name_addAlternative value alt)
    (fun f hf => f.tidy_addAlternative hf value alt) name).forall_mem

end Catalogue

end ContestExchange
