import Mathlib.Logic.Function.Iterate
import ContestExchange.Proofs.Field.Canonical
import ContestExchange.Proofs.Field.Catalogue

/-!
# Values of groups

A value of a group is one of the first member that takes it, and its canonical form is
that member's (`exists_canonical?_of_resolve?`).  The canonical form may be a value of
an earlier member too, and stand for something else there, so the canonical form of a
canonical form need not be the form itself.

But every member keeps its own canonical forms, so whenever the form changes, it has
gone to an earlier member (`resolve?_of_canonical?`).  There are only so many of them:
in a group of `k` members it has come to rest after `k` times
(`canonical?_stabilizes`), and it may take that many.
-/

namespace ContestExchange.Catalogue

variable {c : Catalogue} {name v w : String} {k : Kind} {i : Nat} {f : Field}

/-! ### The first member that takes a value -/

theorem takes_iff {id : Nat} :
    c.takes v id = true ↔ ∃ f, c.fields[id]? = some f ∧ f.isLegal v = true := by
  rw [takes, Option.any_eq_true]

theorem resolve?_eq_some_iff {id : Nat} :
    c.resolve? name v = some id ↔ ∃ k before after, c.kind? name = some k ∧
      k.ids = before ++ id :: after ∧ (∀ j ∈ before, c.takes v j = false) ∧ c.takes v id = true := by
  rw [resolve?, Option.bind_eq_some_iff]
  constructor
  · rintro ⟨k, hk, hid⟩
    obtain ⟨htakes, before, after, hids, hnot⟩ := List.find?_eq_some_iff_append.1 hid
    exact ⟨k, before, after, hk, hids, fun j hj => by simpa using hnot j hj, htakes⟩
  · rintro ⟨k, before, after, hk, hids, hnot, htakes⟩
    refine ⟨k, hk, List.find?_eq_some_iff_append.2 ⟨htakes, before, after, hids, fun j hj => ?_⟩⟩
    simp [hnot j hj]

theorem exists_field_of_resolve? {id : Nat} (h : c.resolve? name v = some id) :
    ∃ f, c.fields[id]? = some f ∧ f.isLegal v = true := by
  obtain ⟨k, -, hid⟩ := Option.bind_eq_some_iff.1 h
  exact takes_iff.1 (List.find?_some hid)

theorem resolve?_of_kind? (hk : c.kind? name = some k) (v : String) :
    c.resolve? name v = k.ids.find? (c.takes v) := by
  rw [resolve?, hk, Option.bind_some]

theorem mem_ids_of_resolve? (hk : c.kind? name = some k) (h : c.resolve? name v = some i) :
    i ∈ k.ids := by
  rw [resolve?_of_kind? hk] at h
  exact List.mem_of_find?_eq_some h

/-- The canonical form under a name is that of the member that the value belongs to. -/
theorem exists_canonical?_of_resolve? (h : c.resolve? name v = some i) :
    ∃ f w, c.fields[i]? = some f ∧ f.canonical? v = some w ∧ c.canonical? name v = some w := by
  obtain ⟨f, hf, hlegal⟩ := exists_field_of_resolve? h
  obtain ⟨w, hw⟩ := Option.isSome_iff_exists.1 ((f.isSome_canonical? v).trans hlegal)
  exact ⟨f, w, hf, hw, by rw [canonical?, h, Option.bind_some, hf, Option.bind_some, hw]⟩

theorem idxOf_le_of_find? {l : List Nat} {p : Nat → Bool} {i j : Nat} (h : l.find? p = some i)
    (hj : p j = true) : l.idxOf i ≤ l.idxOf j := by
  induction l with
  | nil => cases h
  | cons a r ih =>
    by_cases ha : p a = true
    · rw [List.find?_cons_of_pos ha, Option.some.injEq] at h
      rw [h, List.idxOf_cons_self]
      exact Nat.zero_le _
    · rw [List.find?_cons_of_neg ha] at h
      have hai : a ≠ i := by
        rintro rfl
        exact ha (List.find?_some h)
      have haj : a ≠ j := by
        rintro rfl
        exact ha hj
      rw [List.idxOf_cons_ne r hai, List.idxOf_cons_ne r haj]
      exact Nat.succ_le_succ (ih h)

/-! ### Canonical forms of canonical forms -/

theorem Built.coherent (hc : c.Built) (hf : c.fields[i]? = some f) : f.spellings.Coherent :=
  (hc.sound.forall_mem f (List.mem_of_getElem? hf)).coherent

/-- **A canonical form belongs to the member that gave it, and stays, or to an earlier one.** -/
theorem resolve?_of_canonical? (hc : c.Built) (hk : c.kind? name = some k)
    (hi : c.resolve? name v = some i) (hw : c.canonical? name v = some w) :
    ∃ j x, c.resolve? name w = some j ∧ c.canonical? name w = some x ∧
      k.ids.idxOf j ≤ k.ids.idxOf i ∧ (j = i → x = w) := by
  obtain ⟨f, w', hf, hfw, hw'⟩ := exists_canonical?_of_resolve? hi
  obtain rfl : w' = w := Option.some.inj (hw'.symm.trans hw)
  have hcoherent := hc.coherent hf
  -- the member takes its own canonical form, so the first that takes it comes no later
  have htakes : c.takes w' i = true := takes_iff.2 ⟨f, hf, Field.isLegal_of_canonical? hcoherent hfw⟩
  have hsome : (k.ids.find? (c.takes w')).isSome = true := by
    rw [List.isSome_find?, List.any_eq_true]
    exact ⟨i, mem_ids_of_resolve? hk hi, htakes⟩
  obtain ⟨j, hj⟩ := Option.isSome_iff_exists.1 hsome
  have hresolve : c.resolve? name w' = some j := (resolve?_of_kind? hk w').trans hj
  obtain ⟨g, x, hg, hgx, hx⟩ := exists_canonical?_of_resolve? hresolve
  refine ⟨j, x, hresolve, hx, idxOf_le_of_find? hj htakes, ?_⟩
  rintro rfl
  obtain rfl : f = g := Option.some.inj (hf.symm.trans hg)
  exact Option.some.inj (hgx.symm.trans (Field.canonical?_self hcoherent hfw))

theorem canonical?_self (hc : c.Built) (hk : c.kind? name = some (.single i))
    (hw : c.canonical? name v = some w) : c.canonical? name w = some w := by
  obtain ⟨j, hj, -⟩ := Option.bind_eq_some_iff.1 hw
  obtain ⟨m, x, hm, hx, -, hsame⟩ := resolve?_of_canonical? hc hk hj hw
  have hmj : m = j :=
    (List.mem_singleton.1 (mem_ids_of_resolve? hk hm)).trans
      (List.mem_singleton.1 (mem_ids_of_resolve? hk hj)).symm
  rw [hx, hsame hmj]

theorem canonical?_eq_empty_iff (hc : c.Built) (hw : c.canonical? name v = some w) :
    w = "" ↔ v = "" := by
  obtain ⟨j, hj, -⟩ := Option.bind_eq_some_iff.1 hw
  obtain ⟨f, w', hf, hfw, hw'⟩ := exists_canonical?_of_resolve? hj
  obtain rfl : w' = w := Option.some.inj (hw'.symm.trans hw)
  exact Field.canonical?_eq_empty_iff (hc.coherent hf) hfw

/-- After `n` times the form has come to rest, or it has come `n` members nearer to the first. -/
theorem canonical?_iterate (hc : c.Built) (hk : c.kind? name = some k)
    (hi : c.resolve? name v = some i) (n : Nat) :
    ∃ u j, (Option.bind · (c.canonical? name))^[n] (some v) = some u ∧
      c.resolve? name u = some j ∧
      (c.canonical? name u = some u ∨ k.ids.idxOf j + n < k.ids.length) := by
  induction n with
  | zero =>
    have hlt := List.idxOf_lt_length_of_mem (mem_ids_of_resolve? hk hi)
    exact ⟨v, i, rfl, hi, .inr hlt⟩
  | succ n ih =>
    obtain ⟨u, j, hu, hj, hrest⟩ := ih
    obtain ⟨-, w, -, -, hw⟩ := exists_canonical?_of_resolve? hj
    obtain ⟨m, x, hm, hx, hle, hsame⟩ := resolve?_of_canonical? hc hk hj hw
    refine ⟨w, m, ?_, hm, ?_⟩
    · rw [Function.iterate_succ_apply', hu, Option.bind_some, hw]
    · rcases hrest with hself | hlt
      · obtain rfl : u = w := Option.some.inj (hself.symm.trans hw)
        exact .inl hself
      · -- by the same member the form is left alone; otherwise the place of the member falls
        by_cases hmj : m = j
        · rw [hx, hsame hmj]
          exact .inl rfl
        · have hne : k.ids.idxOf m ≠ k.ids.idxOf j := by
            intro he
            exact hmj ((List.idxOf_inj (mem_ids_of_resolve? hk hm)).1 he)
          exact .inr (by omega)

/-- **Canonical forms under a name come to rest.**  The canonical form of a value is that of the
first member that takes the value.  It has a canonical form in turn, belongs to the same member or
to an earlier one, and is left as it is by the same member.  So it has come to rest after as many
times as there are members, and under the name of a field after one. -/
theorem canonical?_stabilizes (hc : c.Built) (hk : c.kind? name = some k)
    (hv : c.isLegal name v = true) :
    ∃ i f w, i ∈ k.ids ∧ c.resolve? name v = some i ∧ c.fields[i]? = some f ∧
      f.canonical? v = some w ∧ c.canonical? name v = some w ∧
      (∃ j x, c.resolve? name w = some j ∧ c.canonical? name w = some x ∧
        k.ids.idxOf j ≤ k.ids.idxOf i ∧ (j = i → x = w)) ∧
      (∃ u, (Option.bind · (c.canonical? name))^[k.ids.length] (some v) = some u ∧
        c.canonical? name u = some u) ∧
      ∀ id, k = .single id → c.canonical? name w = some w := by
  obtain ⟨i, hi⟩ := Option.isSome_iff_exists.1 hv
  obtain ⟨f, w, hf, hfw, hw⟩ := exists_canonical?_of_resolve? hi
  have hmem : i ∈ k.ids := mem_ids_of_resolve? hk hi
  refine ⟨i, f, w, hmem, hi, hf, hfw, hw, resolve?_of_canonical? hc hk hi hw, ?_, ?_⟩
  · obtain ⟨u, j, hu, -, hself | hlt⟩ := canonical?_iterate hc hk hi k.ids.length
    · exact ⟨u, hu, hself⟩
    · omega
  · rintro id rfl
    obtain ⟨j, x, hj, hx, -, hsame⟩ := resolve?_of_canonical? hc hk hi hw
    have hji : j = i :=
      (List.mem_singleton.1 (mem_ids_of_resolve? hk hj)).trans (List.mem_singleton.1 hmem).symm
    rw [hx, hsame hji]

/-- A field with one value and another spelling of it. -/
def twoNames (name value alt : String) : Field :=
  { Field.ofName name with spellings := Spellings.empty.addAll [.alternative value alt] }

theorem reached_twoNames (name value alt : String) : (twoNames name value alt).spellings.Reached :=
  ⟨[.alternative value alt], rfl⟩

/-- Countries, states and cities, each of which knows the one before by another name. -/
def places : Catalogue :=
  ((((empty.insert (twoNames "COUNTRY" "K" "US-NY")).1.insert
    (twoNames "STATE" "US-NY" "NY")).1.insert (twoNames "CITY" "NY" "NYC")).1.insertGroup
      ["COUNTRY", "STATE", "CITY"]).1

/-- Of three members all three are asked, and two times are not enough; a city comes to rest at
once. -/
theorem canonical?_stabilizes_places :
    let again := (Option.bind · (places.canonical? "COUNTRY+STATE+CITY"))
    again^[2] (some "NYC") = some "US-NY" ∧ again (some "US-NY") = some "K" ∧
      (∃ u, again^[3] (some "NYC") = some u ∧ again (some u) = some u) ∧
      ∃ w, places.canonical? "CITY" "NYC" = some w ∧ places.canonical? "CITY" w = some w := by
  intro again
  have hbuilt : places.Built :=
    (((Built.empty.insert (reached_twoNames _ _ _)).insert (reached_twoNames _ _ _)).insert
      (reached_twoNames _ _ _)).insertGroup _
  have hgroup : places.kind? "COUNTRY+STATE+CITY" = some (.group [0, 1, 2]) := by decide +kernel
  have hcity : places.kind? "CITY" = some (.single 2) := by decide +kernel
  obtain ⟨-, -, -, -, -, -, -, -, -, hrest, -⟩ :=
    canonical?_stabilizes (v := "NYC") hbuilt hgroup (by decide +kernel)
  obtain ⟨-, -, w, -, -, -, -, hw, -, -, honce⟩ :=
    canonical?_stabilizes (v := "NYC") hbuilt hcity (by decide +kernel)
  exact ⟨by decide +kernel, by decide +kernel, hrest, w, hw, honce 2 rfl⟩

end ContestExchange.Catalogue
