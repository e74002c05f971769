import ContestExchange.Guess.Rule
import ContestExchange.Proofs.Field.Contest

/-!
# What rules give

A rule follows clues one after another (`GuessRule.clues`): what is written about the station, and
the zones that its callsign tells.  It gives what the first of them tells
(`GuessRule.evaluate_eq_findSome?`), and no clue tells a blank text.

The rule of a group asks its members in their order, except for two kinds of groups
(`gives_group`).  Where the name is `ITUZONE+SOCIETY`, letter for letter, the society is asked
first; and where it starts as a place does, nothing but the place is asked, whatever members
follow.  So `ITUZONE + SOCIETY` and `QTHX[HA]+NAME` are not answered as the groups of the same
members should be (`not_society_first_of_blanks`).
-/

namespace ContestExchange

open Text

/-! ### Clues -/

/-- What a rule goes by. -/
inductive Clue where
  | recorded (a : Attribute)
  | zone (k : ZoneKind)
deriving DecidableEq, Repr

/-- What a clue tells about a station. -/
def Clue.tells? (record? : Option StationRecord) (zone? : ZoneKind → Option UInt32) :
    Clue → Option String
  | recorded a => record?.bind (·.get? a)
  | zone k => (zone? k).map toString

/-- Nothing is known there, or nothing but blanks. -/
def Clue.IsSilent (record? : Option StationRecord) (zone? : ZoneKind → Option UInt32) :
    Clue → Prop
  | recorded a => ∀ r, record? = some r → ∀ v, r.written.get? a = some v → trim v = ""
  | zone k => zone? k = none

theorem Clue.tells?_eq_none_iff {record? : Option StationRecord}
    {zone? : ZoneKind → Option UInt32} {q : Clue} :
    q.tells? record? zone? = none ↔ q.IsSilent record? zone? := by
  cases q with
  | recorded a =>
    rw [tells?, IsSilent, Option.bind_eq_none_iff]
    refine forall₂_congr fun r _ => ?_
    rw [StationRecord.get?, Option.filter_eq_none_iff]
    simp
  | zone k => rw [tells?, IsSilent, Option.map_eq_none_iff]

/-- Whatever a clue tells is no blank text, and there are no blanks around it. -/
theorem Clue.trim_of_tells? {record? : Option StationRecord} {zone? : ZoneKind → Option UInt32}
    {q : Clue} {v : String} (h : q.tells? record? zone? = some v) : trim v = v ∧ v ≠ "" := by
  cases q with
  | recorded a =>
    obtain ⟨r, -, hv⟩ := Option.bind_eq_some_iff.1 h
    exact ⟨StationRecord.trim_of_get? hv, StationRecord.ne_empty_of_get? hv⟩
  | zone k =>
    obtain ⟨n, -, rfl⟩ := Option.map_eq_some_iff.1 h
    exact ⟨(unbroken_repr n.toNat).trim_eq, Nat.repr_ne_empty⟩

namespace GuessRule

variable {record? : Option StationRecord} {zone? : ZoneKind → Option UInt32} {g m name v : String}
  {rule : GuessRule}

mutual

/-- What a rule goes by, in order. -/
def clues : GuessRule → List Clue
  | known a => [.recorded a]
  | knownOrZone a k => [.recorded a, .zone k]
  | firstOf rules => cluesOfAll rules

def cluesOfAll : List GuessRule → List Clue
  | [] => []
  | r :: rs => clues r ++ cluesOfAll rs

end

mutual

/-- **A rule gives what the first of its clues tells.** -/
theorem evaluate_eq_findSome? (record? : Option StationRecord) (zone? : ZoneKind → Option UInt32)
    (rule : GuessRule) :
    rule.evaluate record? zone? = rule.clues.findSome? (·.tells? record? zone?) := by
  cases rule with
  | known a =>
    rw [evaluate, clues, List.findSome?_cons, List.findSome?_nil, Clue.tells?]
    cases record?.bind (·.get? a) <;> rfl
  | knownOrZone a k =>
    rw [evaluate, clues, List.findSome?_cons, List.findSome?_cons, List.findSome?_nil,
      Clue.tells?, Clue.tells?]
    cases record?.bind (·.get? a) with
    | some v => rfl
    | none => cases (zone? k).map toString <;> rfl
  | firstOf rules => exact evaluateFirst_eq_findSome?_clues record? zone? rules

theorem evaluateFirst_eq_findSome?_clues (record? : Option StationRecord)
    (zone? : ZoneKind → Option UInt32) (rules : List GuessRule) :
    evaluateFirst record? zone? rules =
      (cluesOfAll rules).findSome? (·.tells? record? zone?) := by
  cases rules with
  | nil => rfl
  | cons r rs =>
    rw [evaluateFirst, cluesOfAll, List.findSome?_append, evaluate_eq_findSome? record? zone? r,
      evaluateFirst_eq_findSome?_clues record? zone? rs]
    cases r.clues.findSome? (·.tells? record? zone?) <;> rfl

end

theorem trim_of_evaluate (h : rule.evaluate record? zone? = some v) : trim v = v ∧ v ≠ "" := by
  rw [evaluate_eq_findSome?] at h
  obtain ⟨q, -, hq⟩ := List.exists_of_findSome?_eq_some h
  exact Clue.trim_of_tells? hq

/-! ### The rules of names -/

/-- What the rule of a name gives for a station. -/
def gives (record? : Option StationRecord) (zone? : ZoneKind → Option UInt32) (name : String) :
    Option String :=
  (of? name).bind (·.evaluate record? zone?)

theorem ofName?_of_isGroup (hg : Group.isGroup g = true) : ofName? g = none := by
  unfold ofName?
  split <;> first | rfl | exact absurd hg (by decide +kernel)

theorem ofName?_of_isPlace (h : isPlace name = true) : ofName? name = none := by
  unfold ofName?
  split <;> first | rfl | exact absurd h (by decide)

theorem ofField?_of_isPlace (h : isPlace name = true) : ofField? name = some (known .qth) := by
  rw [ofField?, ofName?_of_isPlace h]
  exact if_pos h

theorem of?_of_isPlace (h : isPlace name = true) : of? name = some (known .qth) := by
  rw [of?, ofField?_of_isPlace h]

theorem ofField?_of_isGroup (hg : Group.isGroup g = true) (h : isPlace g = false) :
    ofField? g = none := by
  rw [ofField?, ofName?_of_isGroup hg, h]
  rfl

theorem of?_of_mem_members (h : m ∈ Group.members name) : of? m = ofField? m := by
  have hpair : Group.isGroup "ITUZONE+SOCIETY" = true := by decide +kernel
  have hm := Group.isGroup_of_mem_members h
  have hne : m ≠ "ITUZONE+SOCIETY" := fun he => by simp [he, hpair] at hm
  rw [of?, if_neg hne, hm]
  cases ofField? m <;> rfl

/-- A group that starts as a place does has a place as its first member. -/
theorem exists_members_of_isPlace (h : isPlace g = true) :
    ∃ m rest, Group.members g = m :: rest ∧ isPlace m = true := by
  obtain ⟨r, hr⟩ := List.isPrefixOf_iff_prefix.1 h
  have hg : g = String.ofList ('Q' :: ['T', 'H', 'X', '['] ++ r) := by
    rw [← String.ofList_toList (s := g), ← hr]
  have hblank : ∀ e ∈ 'Q' :: ['T', 'H', 'X', '['], isBlank e = false := by
    simp only [List.forall_mem_cons, List.not_mem_nil, false_imp_iff, implies_true]
    decide
  have hplus : '+' ∉ 'Q' :: ['T', 'H', 'X', '['] := by decide
  obtain ⟨v, rest, hv⟩ := trimmedParts_append hblank hplus r
  refine ⟨_, rest, (congrArg Group.members hg).trans hv, ?_⟩
  rw [isPlace, String.toList_ofList]
  exact List.isPrefixOf_iff_prefix.2 (List.prefix_append _ v)

/-! ### The rules of groups -/

theorem ofGroup?_eq_none_iff : ofGroup? g = none ↔ ∀ m ∈ Group.members g, ofField? m = none := by
  rw [ofGroup?, ← List.filterMap_eq_nil_iff]
  split
  · rename_i hnil
    simp [hnil]
  · rename_i hnil
    simpa using hnil

theorem evaluate_ofGroup? (record? : Option StationRecord) (zone? : ZoneKind → Option UInt32)
    (g : String) : (ofGroup? g).bind (·.evaluate record? zone?) =
      (Group.members g).findSome? (gives record? zone?) := by
  have hfirst : (ofGroup? g).bind (·.evaluate record? zone?) =
      ((Group.members g).filterMap ofField?).findSome? (evaluate record? zone?) := by
    rw [ofGroup?]
    split
    · rename_i hnil
      rw [hnil]
      rfl
    · rw [Option.bind_some, evaluate, evaluateFirst_eq_findSome?]
  have hmembers : ∀ m ∈ Group.members g,
      (ofField? m).bind (evaluate record? zone?) = gives record? zone? m := by
    intro m hm
    rw [gives, of?_of_mem_members hm]
  calc (ofGroup? g).bind (·.evaluate record? zone?)
      = (((Group.members g).filterMap ofField?).filterMap (evaluate record? zone?)).head? := by
        rw [hfirst, List.head?_filterMap]
    _ = ((Group.members g).filterMap (gives record? zone?)).head? := by
        rw [List.filterMap_filterMap, List.filterMap_congr hmembers]
    _ = (Group.members g).findSome? (gives record? zone?) := List.head?_filterMap

theorem of?_society : of? "ITUZONE+SOCIETY" =
    some (firstOf [known .society, knownOrZone .ituZone .itu]) := rfl

theorem of?_of_isGroup (hg : Group.isGroup g = true) (hsociety : g ≠ "ITUZONE+SOCIETY")
    (hplace : isPlace g = false) : of? g = ofGroup? g := by
  rw [of?, ofField?_of_isGroup hg hplace, if_neg hsociety, if_pos hg]

/-- A group has a rule just if a member has one. -/
theorem of?_eq_none_iff (hg : Group.isGroup g = true) :
    of? g = none ↔ ∀ m ∈ Group.members g, of? m = none := by
  by_cases hplace : isPlace g = true
  · obtain ⟨m, rest, hmembers, hm⟩ := exists_members_of_isPlace hplace
    rw [of?_of_isPlace hplace, hmembers]
    refine ⟨fun h => absurd h (by simp), fun h => ?_⟩
    exact absurd ((of?_of_isPlace hm).symm.trans (h m List.mem_cons_self)) (by simp)
  by_cases hsociety : g = "ITUZONE+SOCIETY"
  · subst hsociety
    refine ⟨fun h => absurd (of?_society.symm.trans h) (by simp), fun h => ?_⟩
    exact absurd (h "ITUZONE" (by decide +kernel)) (by decide +kernel)
  · rw [of?_of_isGroup hg hsociety (by simpa using hplace), ofGroup?_eq_none_iff]
    exact forall₂_congr fun m hm => by rw [of?_of_mem_members hm]

theorem gives_society (record? : Option StationRecord) (zone? : ZoneKind → Option UInt32) :
    gives record? zone? "ITUZONE+SOCIETY" =
      (record?.bind (·.get? .society)).or (gives record? zone? "ITUZONE") := by
  have hzone : gives record? zone? "ITUZONE" =
      (knownOrZone .ituZone .itu).evaluate record? zone? := rfl
  have hfirst : gives record? zone? "ITUZONE+SOCIETY" =
      evaluateFirst record? zone? [known .society, knownOrZone .ituZone .itu] := rfl
  rw [hzone, hfirst, evaluateFirst_eq_findSome?, List.findSome?_cons, List.findSome?_cons,
    List.findSome?_nil, evaluate]
  cases record?.bind (·.get? .society) with
  | some v => rfl
  | none => cases (knownOrZone .ituZone .itu).evaluate record? zone? <;> rfl

/-- **What the rule of a group gives.**  In `ITUZONE+SOCIETY` the society comes first, then
whatever the zone's rule gives.  A name that starts as a place does is answered as its first
member, which is a place too, whatever the other members are.  Any other group gives what the first
of its members gives that gives anything, in the order of the members.  A group has a rule just if
one of its members has one, and nothing that a rule gives is blank. -/
theorem gives_group (hg : Group.isGroup g = true) (record? : Option StationRecord)
    (zone? : ZoneKind → Option UInt32) :
    (g = "ITUZONE+SOCIETY" → gives record? zone? g =
      (record?.bind (·.get? .society)).or (gives record? zone? "ITUZONE")) ∧
    (isPlace g = true → gives record? zone? g = record?.bind (·.get? .qth) ∧
      ∃ m rest, Group.members g = m :: rest ∧ gives record? zone? g = gives record? zone? m) ∧
    (g ≠ "ITUZONE+SOCIETY" → isPlace g = false →
      gives record? zone? g = (Group.members g).findSome? (gives record? zone?)) ∧
    (of? g = none ↔ ∀ m ∈ Group.members g, of? m = none) ∧
    ∀ name v, gives record? zone? name = some v → trim v = v ∧ v ≠ "" := by
  refine ⟨?_, fun h => ?_, fun hsociety hplace => ?_, ?_, ?_⟩
  · rintro rfl
    exact gives_society record? zone?
  · obtain ⟨m, rest, hmembers, hm⟩ := exists_members_of_isPlace h
    have hqth : ∀ {name}, isPlace name = true →
        gives record? zone? name = record?.bind (·.get? .qth) := by
      intro name h
      rw [gives, of?_of_isPlace h, Option.bind_some, evaluate]
    exact ⟨hqth h, m, rest, hmembers, (hqth h).trans (hqth hm).symm⟩
  · rw [gives, of?_of_isGroup hg hsociety hplace, evaluate_ofGroup?]
  · exact of?_eq_none_iff hg
  · intro name v h
    obtain ⟨rule, -, hv⟩ := Option.bind_eq_some_iff.1 h
    exact trim_of_evaluate hv

/-- A blank check is passed over for the name, though the members stand apart. -/
theorem gives_group_name :
    let r : StationRecord := ⟨"VE3ABC", .ofList [(.check, " "), (.name, "JOHN")]⟩
    Group.isGroup "CHECK + NAME" = true ∧
      gives (some r) (fun _ => none) "CHECK + NAME" = some "JOHN" ∧ of? "RST+SERNO" = none := by
  intro r
  have hg : Group.isGroup "CHECK + NAME" = true := by decide +kernel
  have hother : Group.isGroup "RST+SERNO" = true := by decide +kernel
  obtain ⟨-, -, horder, -⟩ := gives_group hg (some r) fun _ => none
  obtain ⟨-, -, -, hnone, -⟩ := gives_group hother (some r) fun _ => none
  refine ⟨hg, ?_, hnone.2 (by decide +kernel)⟩
  rw [horder (by decide) (by decide)]
  decide +kernel

/-- Blanks around the plus sign let the zone come before the society, and a place hides the members
behind it. -/
theorem not_society_first_of_blanks :
    let r : StationRecord := ⟨"K1AR", .ofList [(.ituZone, "9"), (.name, "JOHN"), (.society, "RAC")]⟩
    let given := gives (some r) fun _ => none
    (Group.members "ITUZONE + SOCIETY" = ["ITUZONE", "SOCIETY"] ∧
      (r.get? .society).or (given "ITUZONE") = some "RAC" ∧
      given "ITUZONE + SOCIETY" = some "9") ∧
    (Group.members "QTHX[HA]+NAME" = ["QTHX[HA]", "NAME"] ∧
      ["QTHX[HA]", "NAME"].findSome? given = some "JOHN" ∧ given "QTHX[HA]+NAME" = none) := by
  decide +kernel

end GuessRule

end ContestExchange
