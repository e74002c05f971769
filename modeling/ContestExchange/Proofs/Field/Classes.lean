import Mathlib.Data.List.Basic
import Mathlib.Logic.Relation
import ContestExchange.Field.Sheets

/-!
# Classes of spellings

A table of spellings only grows, and it grows by one spelling at a time (`Grows`):
a spelling that was not accepted before founds a class of its own or joins a class
that is there.  Every addition comes to none, one or two such steps, and it tells
truly whether there were any (`adds_addCanonical`, `adds_addAlternative`).

A table is kept twice, and what makes one table of the two is that a spelling is in
the class of its canonical value and in no other (`Coherent`).  One step keeps this,
so it holds of every table that additions lead to (`Reached`), and the classes part
the spellings there, as `Classifies` says in full.
-/

namespace ContestExchange.Spellings

variable {t u : Spellings} {v c value alt : String}

/-! ### The view -/

theorem canonical?_put (t : Spellings) (v c w : String) (m : List String) :
    (t.put v c m).canonical? w = if w = v then some c else t.canonical? w :=
  t.canonical.get?_put v w c

theorem class?_put (t : Spellings) (v c d : String) (m : List String) :
    (t.put v c m).class? d = if d = c then some m else t.class? d :=
  t.members.get?_put c d m

theorem contains_iff : t.contains v = true ↔ ∃ c, t.canonical? v = some c :=
  Option.isSome_iff_exists

theorem mem_canonicalValues_iff : c ∈ t.canonicalValues ↔ ∃ m, t.class? c = some m := by
  rw [canonicalValues, Text.mem_sort, Dictionary.mem_keys_iff]
  exact Option.isSome_iff_exists

/-! ### One more spelling -/

/-- One more spelling is accepted, in a class of its own or in one that is there. -/
inductive Grows (t : Spellings) : Spellings → Prop
  | found {v : String} (hne : v ≠ "") (hnew : t.canonical? v = none) : Grows t (t.put v v [v])
  | join {v w c : String} (hne : v ≠ "") (hnew : t.canonical? v = none)
    (hw : t.canonical? w = some c) :
    Grows t (t.put v c (Text.sortedInsert v ((t.class? c).getD [])))

theorem Grows.exists_put (h : Grows t u) :
    ∃ v c m, v ≠ "" ∧ t.canonical? v = none ∧ u = t.put v c m := by
  cases h with
  | @found v hne hnew => exact ⟨v, v, _, hne, hnew, rfl⟩
  | @join v w c hne hnew hw => exact ⟨v, c, _, hne, hnew, rfl⟩

/-- **What is accepted stays accepted**, with the same canonical value. -/
theorem Grows.stays (h : Grows t u) (hv : t.canonical? v = some c) : u.canonical? v = some c := by
  obtain ⟨w, d, m, -, hnew, rfl⟩ := h.exists_put
  rw [canonical?_put, if_neg]
  · exact hv
  · rintro rfl
    rw [hnew] at hv
    cases hv

theorem Grows.exists_new (h : Grows t u) :
    ∃ v c, t.canonical? v = none ∧ u.canonical? v = some c := by
  obtain ⟨v, c, m, -, hnew, rfl⟩ := h.exists_put
  exact ⟨v, c, hnew, by rw [canonical?_put, if_pos rfl]⟩

/-- Any number of steps. -/
abbrev Later : Spellings → Spellings → Prop :=
  Relation.ReflTransGen Grows

theorem Later.stays (h : Later t u) (hv : t.canonical? v = some c) : u.canonical? v = some c := by
  induction h with
  | refl => exact hv
  | tail _ hg ih => exact hg.stays ih

/-! ### Additions -/

/-- What an addition comes to: the table as it was, or more spellings and the word that
there are more. -/
inductive Adds (t : Spellings) : Spellings × Bool → Prop
  | nothing : Adds t (t, false)
  | some {u u' : Spellings} (h : Grows t u) (h' : Later u u') : Adds t (u', true)

theorem Adds.later {r : Spellings × Bool} (h : Adds t r) : Later t r.1 := by
  cases h with
  | nothing => exact .refl
  | some h h' => exact .head h h'

/-- **An addition tells truly whether it changed anything**: it did if and only if some spelling
is accepted now and was not before. -/
theorem Adds.changed_iff {r : Spellings × Bool} (h : Adds t r) :
    r.2 = true ↔ ∃ v, t.canonical? v = none ∧ r.1.canonical? v ≠ none := by
  cases h with
  | nothing =>
    constructor
    · intro he
      cases he
    · rintro ⟨v, hnone, hne⟩
      exact absurd hnone hne
  | @some u u' h h' =>
    refine ⟨fun _ => ?_, fun _ => rfl⟩
    obtain ⟨v, c, hnone, hsome⟩ := h.exists_new
    refine ⟨v, hnone, ?_⟩
    rw [h'.stays hsome]
    exact Option.some_ne_none c

theorem Adds.unchanged {r : Spellings × Bool} (h : Adds t r) (hr : r.2 = false) : r.1 = t := by
  cases h with
  | nothing => rfl
  | some h h' => cases hr

/-- A value is added unless it is empty or accepted already. -/
theorem addCanonical_cases (t : Spellings) (v : String) :
    (v = "" ∨ t.contains v = true) ∧ t.addCanonical v = (t, false) ∨
      v ≠ "" ∧ t.canonical? v = none ∧ t.addCanonical v = (t.put v v [v], true) := by
  rw [addCanonical]
  by_cases h : v = "" ∨ t.contains v = true
  · exact .inl ⟨h, if_pos (by simpa using h)⟩
  · rw [not_or, Bool.not_eq_true, contains, Option.isSome_eq_false_iff,
      Option.isNone_iff_eq_none] at h
    exact .inr ⟨h.1, h.2, if_neg (by simp [contains, h])⟩

theorem adds_addCanonical (t : Spellings) (v : String) : Adds t (t.addCanonical v) := by
  rcases t.addCanonical_cases v with ⟨-, he⟩ | ⟨hne, hnew, he⟩
  · rw [he]
    exact .nothing
  · rw [he]
    exact .some (.found hne hnew) .refl

theorem exists_canonical?_addCanonical (t : Spellings) (hne : v ≠ "") :
    ∃ c, (t.addCanonical v).1.canonical? v = some c := by
  rcases t.addCanonical_cases v with ⟨hv, he⟩ | ⟨-, -, he⟩
  · rw [he]
    exact contains_iff.1 (hv.resolve_left hne)
  · rw [he]
    exact ⟨v, by rw [canonical?_put, if_pos rfl]⟩

/-- Another spelling of a value first adds the value; then it joins the value's class, unless
it is empty or accepted already. -/
theorem addAlternative_cases (t : Spellings) (value alt : String) :
    value = "" ∧ t.addAlternative value alt = (t, false) ∨
      value ≠ "" ∧ ∃ c, (t.addCanonical value).1.canonical? value = some c ∧
        ((alt = "" ∨ (t.addCanonical value).1.contains alt = true) ∧
            t.addAlternative value alt = t.addCanonical value ∨
          alt ≠ "" ∧ (t.addCanonical value).1.canonical? alt = none ∧
            t.addAlternative value alt = ((t.addCanonical value).1.put alt c (Text.sortedInsert alt
              (((t.addCanonical value).1.class? c).getD [])), true)) := by
  by_cases hv : value = ""
  · exact .inl ⟨hv, by rw [addAlternative, if_pos hv]⟩
  · obtain ⟨c, hc⟩ := t.exists_canonical?_addCanonical hv
    refine .inr ⟨hv, c, hc, ?_⟩
    rw [addAlternative, if_neg hv]
    simp only [hc]
    by_cases h : alt = "" ∨ (t.addCanonical value).1.contains alt = true
    · exact .inl ⟨h, if_pos (by simpa using h)⟩
    · rw [not_or, Bool.not_eq_true, contains, Option.isSome_eq_false_iff,
        Option.isNone_iff_eq_none] at h
      exact .inr ⟨h.1, h.2, if_neg (by simp [contains, h])⟩

theorem adds_addAlternative (t : Spellings) (value alt : String) :
    Adds t (t.addAlternative value alt) := by
  rcases t.addAlternative_cases value alt with ⟨-, he⟩ | ⟨-, c, hc, ⟨-, he⟩ | ⟨hne, hnew, he⟩⟩
  · rw [he]
    exact .nothing
  · rw [he]
    exact t.adds_addCanonical value
  · rw [he]
    have hjoin := Grows.join hne hnew hc
    have hadds := t.adds_addCanonical value
    generalize t.addCanonical value = r at hjoin hadds ⊢
    cases hadds with
    | nothing => exact .some hjoin .refl
    | some h h' => exact .some h (h'.tail hjoin)

/-- What a table can be asked to add. -/
inductive Addition where
  | canonical (v : String)
  | alternative (value alt : String)
deriving DecidableEq

/-- Makes an addition; tells whether it changed anything. -/
def add (t : Spellings) : Addition → Spellings × Bool
  | .canonical v => t.addCanonical v
  | .alternative value alt => t.addAlternative value alt

def addAll (t : Spellings) (l : List Addition) : Spellings :=
  l.foldl (fun t a => (t.add a).1) t

theorem adds_add (t : Spellings) (a : Addition) : Adds t (t.add a) := by
  cases a with
  | canonical v => exact t.adds_addCanonical v
  | alternative value alt => exact t.adds_addAlternative value alt

theorem addAll_append (t : Spellings) (l m : List Addition) :
    t.addAll (l ++ m) = (t.addAll l).addAll m :=
  List.foldl_append

theorem later_addAll (t : Spellings) (l : List Addition) : Later t (t.addAll l) := by
  induction l generalizing t with
  | nil => exact .refl
  | cons a r ih => exact (t.adds_add a).later.trans (ih _)

/-! ### The same addition again -/

/-- There is nothing left to add. -/
def Knows (t : Spellings) : Addition → Prop
  | .canonical v => v = "" ∨ t.contains v = true
  | .alternative value alt =>
    value = "" ∨ t.contains value = true ∧ (alt = "" ∨ t.contains alt = true)

theorem Later.contains (h : Later t u) (hv : t.contains v = true) : u.contains v = true := by
  obtain ⟨c, hc⟩ := contains_iff.1 hv
  exact contains_iff.2 ⟨c, h.stays hc⟩

theorem addCanonical_of_knows (h : t.Knows (.canonical v)) : t.addCanonical v = (t, false) := by
  rcases t.addCanonical_cases v with ⟨-, he⟩ | ⟨hne, hnew, -⟩
  · exact he
  · obtain ⟨c, hc⟩ := contains_iff.1 (h.resolve_left hne)
    rw [hnew] at hc
    cases hc

theorem add_of_knows {a : Addition} (h : t.Knows a) : t.add a = (t, false) := by
  cases a with
  | canonical v => exact addCanonical_of_knows h
  | alternative value alt =>
    rcases t.addAlternative_cases value alt with ⟨-, he⟩ | ⟨hv, c, -, hcases⟩
    · exact he
    · obtain ⟨hvalue, halt⟩ := h.resolve_left hv
      rw [addCanonical_of_knows (.inr hvalue)] at hcases
      rcases hcases with ⟨-, he⟩ | ⟨hne, hnew, -⟩
      · exact he
      · obtain ⟨d, hd⟩ := contains_iff.1 (halt.resolve_left hne)
        rw [show t.canonical? alt = none from hnew] at hd
        cases hd

theorem knows_add (t : Spellings) (a : Addition) : (t.add a).1.Knows a := by
  cases a with
  | canonical v =>
    by_cases hv : v = ""
    · exact .inl hv
    · exact .inr (contains_iff.2 (t.exists_canonical?_addCanonical hv))
  | alternative value alt =>
    show Knows (t.addAlternative value alt).1 _
    rcases t.addAlternative_cases value alt with ⟨hv, -⟩ | ⟨hv, c, hc, ⟨halt, he⟩ | ⟨hne, hnew, he⟩⟩
    · exact .inl hv
    · rw [he]
      exact .inr ⟨contains_iff.2 ⟨c, hc⟩, halt⟩
    · rw [he]
      have hjoin := Grows.join hne hnew hc
      exact .inr ⟨contains_iff.2 ⟨c, hjoin.stays hc⟩,
        .inr (contains_iff.2 ⟨c, by rw [canonical?_put, if_pos rfl]⟩)⟩

/-! ### What every table keeps -/

/-- The two halves of a table agree: a spelling is in the class of its canonical value and in no
other, a canonical value is in its own class, and nothing is empty. -/
structure Coherent (t : Spellings) : Prop where
  canonical?_iff : ∀ v c, t.canonical? v = some c ↔ ∃ m, t.class? c = some m ∧ v ∈ m
  key_mem : ∀ {c m}, t.class? c = some m → c ∈ m
  canonical?_empty : t.canonical? "" = none

theorem coherent_empty : empty.Coherent := by
  refine ⟨fun v c => ⟨fun h => ?_, ?_⟩, fun h => ?_, rfl⟩
  · cases h
  · rintro ⟨m, hm, -⟩
    cases hm
  · cases h

namespace Coherent

theorem canonical?_of_mem (h : t.Coherent) {m : List String} (hm : t.class? c = some m)
    (hv : v ∈ m) : t.canonical? v = some c :=
  (h.canonical?_iff v c).2 ⟨m, hm, hv⟩

theorem closed (h : t.Coherent) (hv : t.canonical? v = some c) : t.canonical? c = some c := by
  obtain ⟨m, hm, -⟩ := (h.canonical?_iff v c).1 hv
  exact h.canonical?_of_mem hm (h.key_mem hm)

theorem ne_empty (h : t.Coherent) (hv : t.canonical? v = some c) : v ≠ "" := by
  rintro rfl
  rw [h.canonical?_empty] at hv
  cases hv

/-- One more spelling in a class leaves the halves in agreement, if the class is the one that
was there, with the spelling in it. -/
theorem put (h : t.Coherent) (hne : v ≠ "") (hnew : t.canonical? v = none) {m : List String}
    (hm : ∀ w, w ∈ m ↔ w = v ∨ t.canonical? w = some c) (hc : c ∈ m) :
    (t.put v c m).Coherent := by
  refine ⟨fun w d => ?_, fun {d n} hn => ?_, ?_⟩
  · rw [canonical?_put, class?_put]
    by_cases hd : d = c
    · subst hd
      rw [if_pos rfl]
      have hmem : (∃ n, some m = some n ∧ w ∈ n) ↔ w ∈ m :=
        ⟨fun ⟨n, hn, hw⟩ => Option.some.inj hn ▸ hw, fun hw => ⟨m, rfl, hw⟩⟩
      rw [hmem, hm w]
      by_cases hw : w = v
      · simp [hw]
      · simp [hw]
    · rw [if_neg hd]
      by_cases hw : w = v
      · subst hw
        rw [if_pos rfl, ← h.canonical?_iff w d, hnew]
        simp [Ne.symm hd]
      · rw [if_neg hw, h.canonical?_iff w d]
  · rw [class?_put] at hn
    split at hn
    · rename_i hd
      rw [hd, ← Option.some.inj hn]
      exact hc
    · exact h.key_mem hn
  · rw [canonical?_put, if_neg (Ne.symm hne)]
    exact h.canonical?_empty

end Coherent

/-- **One more spelling leaves the halves of the table in agreement.** -/
theorem Grows.coherent (h : Grows t u) (ht : t.Coherent) : u.Coherent := by
  cases h with
  | @found v hne hnew =>
    refine ht.put hne hnew (fun w => ?_) List.mem_cons_self
    rw [List.mem_singleton, or_iff_left]
    intro hw
    -- a spelling of `v` would make `v` known
    rw [ht.closed hw] at hnew
    cases hnew
  | @join v w c hne hnew hw =>
    obtain ⟨m, hm, -⟩ := (ht.canonical?_iff w c).1 hw
    rw [hm, Option.getD_some]
    refine ht.put hne hnew (fun x => ?_) (Text.mem_sortedInsert.2 (.inr (ht.key_mem hm)))
    rw [Text.mem_sortedInsert, ht.canonical?_iff x c, hm]
    simp

theorem Later.coherent (h : Later t u) (ht : t.Coherent) : u.Coherent := by
  induction h with
  | refl => exact ht
  | tail _ hg ih => exact hg.coherent ih

/-! ### The tables that there are -/

/-- The table comes from additions to the empty one. -/
def Reached (t : Spellings) : Prop :=
  ∃ l, t = empty.addAll l

theorem reached_empty : empty.Reached :=
  ⟨[], rfl⟩

theorem Reached.addAll (h : t.Reached) (l : List Addition) : (t.addAll l).Reached := by
  obtain ⟨m, rfl⟩ := h
  exact ⟨m ++ l, (addAll_append empty m l).symm⟩

theorem Reached.add (h : t.Reached) (a : Addition) : (t.add a).1.Reached :=
  h.addAll [a]

theorem Reached.coherent (h : t.Reached) : t.Coherent := by
  obtain ⟨l, rfl⟩ := h
  exact (later_addAll empty l).coherent coherent_empty

theorem foldl_reached {α : Type} {f : Spellings → α → Spellings}
    (hf : ∀ t x, t.Reached → (f t x).Reached) (l : List α) (h : t.Reached) :
    (l.foldl f t).Reached := by
  induction l generalizing t with
  | nil => exact h
  | cons x r ih => exact ih (hf t x h)

theorem Reached.addClass (h : t.Reached) (value : String) (alts : List String) :
    (t.addClass value alts).Reached :=
  foldl_reached (fun _ alt ht => ht.add (.alternative value alt)) alts (h.add (.canonical value))

theorem Reached.addEntry (h : t.Reached) (line : String) : (t.addEntry line).Reached := by
  rw [Spellings.addEntry]
  split
  · exact h.add (.canonical line)
  · exact h.addClass _ _

theorem reached_parse (text : String) : (parse text).Reached :=
  foldl_reached (fun _ line ht => ht.addEntry line) _ reached_empty

theorem Reached.addOverride (h : t.Reached) (text : String) : (t.addOverride text).Reached := by
  rw [Spellings.addOverride]
  split
  · exact h
  · exact h.addClass _ _

theorem Reached.addOverrides (h : t.Reached) (texts : List String) :
    (t.addOverrides texts).Reached :=
  foldl_reached (fun _ text ht => ht.addOverride text) _ h

/-! ### Classification -/

/-- The classes part the spellings, under keys that are spellings of theirs, and additions
neither undo anything nor do it twice. -/
structure Classifies (t : Spellings) : Prop where
  canonical?_iff : ∀ v c, t.canonical? v = some c ↔ ∃ m, t.class? c = some m ∧ v ∈ m
  key_iff : ∀ c, c ∈ t.canonicalValues ↔ ∃ m, t.class? c = some m
  disjoint : ∀ {c d m n}, t.class? c = some m → t.class? d = some n → c ≠ d → m.Disjoint n
  key_mem : ∀ {c m}, t.class? c = some m → c ∈ m
  class_ne : ∀ {c m}, t.class? c = some m → m ≠ []
  key_ne : ∀ {c m}, t.class? c = some m → c ≠ ""
  member_ne : ∀ {c m}, t.class? c = some m → ∀ v ∈ m, v ≠ ""
  stays : ∀ {v c}, t.canonical? v = some c → ∀ l, (t.addAll l).canonical? v = some c
  changed_iff : ∀ a, (t.add a).2 = true ↔
    ∃ v, t.canonical? v = none ∧ (t.add a).1.canonical? v ≠ none
  unchanged : ∀ a, (t.add a).2 = false → (t.add a).1 = t
  again : ∀ a, (t.add a).1.add a = ((t.add a).1, false)

theorem Coherent.classifies (h : t.Coherent) : t.Classifies where
  canonical?_iff := h.canonical?_iff
  key_iff c := mem_canonicalValues_iff
  disjoint := by
    intro c d m n hm hn hne v hv hv'
    have hc := h.canonical?_of_mem hm hv
    rw [h.canonical?_of_mem hn hv'] at hc
    exact hne (Option.some.inj hc).symm
  key_mem := h.key_mem
  class_ne hm := List.ne_nil_of_mem (h.key_mem hm)
  key_ne hm := h.ne_empty (h.canonical?_of_mem hm (h.key_mem hm))
  member_ne hm v hv := h.ne_empty (h.canonical?_of_mem hm hv)
  stays hv l := (t.later_addAll l).stays hv
  changed_iff a := (t.adds_add a).changed_iff
  unchanged a := (t.adds_add a).unchanged
  again a := add_of_knows (t.knows_add a)

/-- **Every table that additions lead to classifies its spellings**, those of sheets and of
contests among them. -/
theorem additions_classify :
    (∀ l, (empty.addAll l).Classifies) ∧ (∀ text, (parse text).Classifies) ∧
      ∀ l texts, ((empty.addAll l).addOverrides texts).Classifies := by
  refine ⟨fun l => ?_, fun text => ?_, fun l texts => ?_⟩
  · exact (reached_empty.addAll l).coherent.classifies
  · exact (reached_parse text).coherent.classifies
  · exact ((reached_empty.addAll l).addOverrides texts).coherent.classifies

/-- An alternative of an alternative joins the class, and an alternative that is taken
elsewhere stays there. -/
example : (empty.addAll [.alternative "BP" "BUDAPEST", .alternative "BUDAPEST" "BPEST",
    .alternative "GY" "BPEST"]).canonical? "BPEST" = some "BP" := by decide

end ContestExchange.Spellings
