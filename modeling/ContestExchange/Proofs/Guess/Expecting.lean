import ContestExchange.Guess.Prefill
import ContestExchange.Proofs.Dictionary
import ContestExchange.Proofs.Text.Cuts

/-!
# What is expected last

Expected values come from sheets and as single values for a station, one after the other
(`Prefill.Source`).  What counts are not the sheets as wholes, but their lines: a `Remark` is a
line or a single value, and of the remarks that tell something about a station's field the last one
decides (`get?_takeAll`), whichever source it is in and however the callsign is spelled.  The
lines of a sheet are taken as they stand: their columns are the parts between commas and
blanks (`Row`).
-/

namespace ContestExchange

open Text

namespace Prefill

variable {line call value : String}

/-! ### Rows of sheets -/

def isSeparator (c : Char) : Bool :=
  c == ',' || isBlank c

/-- The line has a callsign and a value in its first two columns. -/
structure Row (line call value : String) : Prop where
  not_comment : ¬ Sheet.IsComment line
  columns : ∃ more, Cut isSeparator line.toList (call :: value :: more)

theorem entry?_eq_some_iff : entry? line = some (call, value) ↔
    ∃ more, Cut isSeparator line.toList (call :: value :: more) := by
  have hseparator : (fun c => c == ',' || isBlank c) = isSeparator := rfl
  unfold entry?
  rw [hseparator]
  simp only [← parts_eq_iff]
  split
  · rename_i c u more hparts
    rw [Option.some.injEq, Prod.mk.injEq, hparts]
    constructor
    · rintro ⟨rfl, rfl⟩
      exact ⟨more, rfl⟩
    · rintro ⟨r, hr⟩
      exact ⟨(List.cons.inj hr).1, (List.cons.inj (List.cons.inj hr).2).1⟩
  · rename_i hshort
    exact iff_of_false nofun fun ⟨more, hmore⟩ => hshort call value more hmore

theorem saying?_eq_some_iff_row :
    Sheet.saying? entry? line = some (call, value) ↔ Row line call value := by
  have hblank : ∀ c, isBlank c = true → isSeparator c = true := fun c hc => by
    rw [isSeparator, hc, Bool.or_true]
  have hempty : entry? "" = none := by
    unfold entry?
    rw [parts_empty]
  rw [Sheet.saying?_eq_some_iff hempty, entry?_eq_some_iff]
  simp only [← parts_eq_iff, parts_trim hblank]
  simp only [parts_eq_iff]
  exact ⟨fun h => ⟨h.1, h.2⟩, fun h => ⟨h.1, h.2⟩⟩

/-- The line has at least two columns. -/
def IsUsable (line : String) : Prop :=
  ∃ call value, Row line call value

theorem isSome_saying?_iff :
    (Sheet.saying? entry? line).isSome = true ↔ IsUsable line := by
  rw [Option.isSome_iff_exists, Prod.exists]
  exact exists_congr fun call => exists_congr fun value => saying?_eq_some_iff_row

instance (line : String) : Decidable (IsUsable line) :=
  decidable_of_iff _ isSome_saying?_iff

theorem rows_eq (text : String) : rows text = (Sheet.lines text).filterMap (Sheet.saying? entry?) :=
  Sheet.filterMap_entries entry? text

theorem addSheet_snd (p : Prefill) (field text : String) :
    (p.addSheet field text).2 = (Sheet.lines text).countP fun line => IsUsable line := by
  rw [addSheet, rows_eq, List.length_filterMap_eq_countP]
  refine List.countP_congr fun line _ => ?_
  rw [decide_eq_true_eq, isSome_saying?_iff]

/-! ### Remarks -/

/-- Where expected values come from: a sheet for a field, or a single value for a station. -/
inductive Source where
  | sheet (field text : String)
  | single (field call value : String)

/-- A line of a sheet, with the field that the sheet is for, or a single value. -/
inductive Remark where
  | line (field line : String)
  | single (field call value : String)

def Source.field : Source → String
  | .sheet field _ => field
  | .single field _ _ => field

def Source.remarks : Source → List Remark
  | .sheet field text => (Sheet.lines text).map (.line field)
  | .single field call value => [.single field call value]

variable {field station v : String}

namespace Remark

variable {r : Remark}

/-- The remark is about the field of the station, whose callsign is in normal form here. -/
def Tells (r : Remark) (field station value : String) : Prop :=
  match r with
  | .line f l => f = field ∧ ∃ call, Row l call value ∧ Callsign.normalize call = station
  | .single f call v => f = field ∧ v = value ∧ Callsign.normalize call = station

/-- What is bound by a remark. -/
def binding? : Remark → Option ((String × String) × String)
  | .line field l => (Sheet.saying? entry? l).map fun row =>
      ((field, Callsign.normalize row.1), upper (trim row.2))
  | .single field call value => some ((field, Callsign.normalize call), upper (trim value))

/-- **A remark binds what it tells**, trimmed and in upper case. -/
theorem binding?_eq_some_iff : r.binding? = some ((field, station), v) ↔
    ∃ value, r.Tells field station value ∧ upper (trim value) = v := by
  cases r with
  | line f l =>
    rw [binding?, Option.map_eq_some_iff, Prod.exists]
    simp only [saying?_eq_some_iff_row, Prod.mk.injEq, Tells]
    constructor
    · rintro ⟨call, value, hrow, ⟨hfield, hcall⟩, hv⟩
      exact ⟨value, ⟨hfield, call, hrow, hcall⟩, hv⟩
    · rintro ⟨value, ⟨hfield, call, hrow, hcall⟩, hv⟩
      exact ⟨call, value, hrow, ⟨hfield, hcall⟩, hv⟩
  | single f call w =>
    simp only [binding?, Option.some.injEq, Prod.mk.injEq, Tells]
    constructor
    · rintro ⟨⟨hfield, hcall⟩, hv⟩
      exact ⟨w, ⟨hfield, rfl, hcall⟩, hv⟩
    · rintro ⟨value, ⟨hfield, rfl, hcall⟩, hv⟩
      exact ⟨⟨hfield, hcall⟩, hv⟩

end Remark

theorem Source.field_of_tells {s : Source} {r : Remark} (hr : r ∈ s.remarks)
    (h : r.Tells field station value) : s.field = field := by
  cases s with
  | sheet f text =>
    obtain ⟨l, -, rfl⟩ := List.mem_map.1 hr
    exact h.1
  | single f call w =>
    obtain rfl := List.mem_singleton.1 hr
    exact h.1

/-- The last remark that tells something about the field of the station tells this value. -/
def LastTells (remarks : List Remark) (field station value : String) : Prop :=
  ∃ before r after, remarks = before ++ r :: after ∧ r.Tells field station value ∧
    ∀ q ∈ after, ∀ v, ¬ q.Tells field station v

/-! ### Source after source -/

def take (p : Prefill) : Source → Prefill
  | .sheet field text => (p.addSheet field text).1
  | .single field call value => p.insert field call value

def takeAll (p : Prefill) (sources : List Source) : Prefill :=
  sources.foldl take p

/-- **A source is taken remark by remark.** -/
theorem values_take (p : Prefill) (s : Source) : (p.take s).values =
    (s.remarks.filterMap Remark.binding?).foldl (fun d e => d.put e.1 e.2) p.values := by
  cases s with
  | single field call value => rfl
  | sheet field text =>
    have hbindings : (Sheet.lines text).filterMap (Remark.binding? ∘ Remark.line field) =
        (rows text).map fun row => ((field, Callsign.normalize row.1), upper (trim row.2)) := by
      rw [rows_eq, List.map_filterMap]
      rfl
    rw [Source.remarks, List.filterMap_map, hbindings, List.foldl_map]
    exact (List.foldl_hom values fun _ _ => rfl).symm

theorem values_takeAll (p : Prefill) (sources : List Source) : (p.takeAll sources).values =
    ((sources.flatMap Source.remarks).filterMap Remark.binding?).foldl
      (fun d e => d.put e.1 e.2) p.values := by
  induction sources generalizing p with
  | nil => rfl
  | cons s sources ih =>
    rw [takeAll, List.foldl_cons, ← takeAll, ih, values_take, List.flatMap_cons,
      List.filterMap_append, List.foldl_append]

/-- **What is expected is told by the last remark.** -/
theorem get?_takeAll_eq_some_iff {sources : List Source} :
    (empty.takeAll sources).get? field station = some v ↔
      ∃ value, LastTells (sources.flatMap Source.remarks) field station value ∧
        upper (trim value) = v := by
  rw [get?, values_takeAll]
  refine Dictionary.get?_foldl_put_filterMap_eq_some_iff.trans ?_
  simp only [Ne, Remark.binding?_eq_some_iff]
  constructor
  · rintro ⟨before, r, after, hsplit, ⟨value, htells, hv⟩, hafter⟩
    exact ⟨value, ⟨before, r, after, hsplit, htells,
      fun q hq w hw => hafter q hq _ ⟨w, hw, rfl⟩⟩, hv⟩
  · rintro ⟨value, ⟨before, r, after, hsplit, htells, hafter⟩, hv⟩
    exact ⟨before, r, after, hsplit, ⟨value, htells, hv⟩,
      fun q hq _ ⟨w, hw, _⟩ => hafter q hq w hw⟩

theorem get?_take_of_ne (p : Prefill) {s : Source} (h : field ≠ s.field) (station : String) :
    (p.take s).get? field station = p.get? field station := by
  rw [get?, values_take]
  refine Dictionary.get?_foldl_put_filterMap_of_ne (fun r hr v hv => ?_) p.values
  obtain ⟨value, htells, -⟩ := Remark.binding?_eq_some_iff.1 hv
  exact h (Source.field_of_tells hr htells).symm

/-- **The last remark about a station's field decides what is expected**: the value that it tells,
trimmed and in upper case, and nothing is expected without such a remark.  A sheet is said to hold
as many values as it has lines to use, and no source touches the fields that it is not for. -/
theorem get?_takeAll (sources : List Source) :
    let p := empty.takeAll sources
    let remarks := sources.flatMap Source.remarks
    (∀ field station value, LastTells remarks field station value →
      p.get? field station = some (upper (trim value))) ∧
      (∀ field station, (∀ value, ¬ LastTells remarks field station value) →
        p.get? field station = none) ∧
      (∀ field text, (p.addSheet field text).2 =
        (Sheet.lines text).countP fun line => IsUsable line) ∧
      ∀ (s : Source) (field station : String), field ≠ s.field →
        (p.take s).get? field station = p.get? field station := by
  intro p remarks
  refine ⟨fun field station value h => ?_, fun field station h => ?_, p.addSheet_snd,
    fun s field station hne => p.get?_take_of_ne hne station⟩
  · exact get?_takeAll_eq_some_iff.2 ⟨value, h, rfl⟩
  · rw [Option.eq_none_iff_forall_ne_some]
    intro v hv
    obtain ⟨value, hvalue, -⟩ := get?_takeAll_eq_some_iff.1 hv
    exact h value hvalue

/-- A comment, a line with one column, and one callsign in three spellings. -/
example : ((empty.takeAll [.sheet "NAME" "; K1AR,joe\nk1ar,\t tom,NH\n\nW1AW\n K1ar bob",
      .single "NAME" " k1AR " " al ", .single "QTH" "K1AR" "nh"]).values.entries) =
    [(("NAME", "K1AR"), "AL"), (("QTH", "K1AR"), "NH")] := by
  decide +kernel

end Prefill

end ContestExchange
