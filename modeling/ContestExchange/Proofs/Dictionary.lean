import ContestExchange.Dictionary

/-!
# Bindings one after the other

Of the bindings of one key in a list the first counts if each is bound with `putNew`
(`get?_foldl_putNew`), and the last if each is bound with `put` (`get?_foldl_put`).  Where the
bindings are what some things say, these are the first and the last thing that binds the key
(`lookup_filterMap_eq_some_iff`, `get?_foldl_put_filterMap_eq_some_iff`).
-/

namespace ContestExchange.Dictionary

variable {α κ ν : Type} [DecidableEq κ]

/-- **The first binding of a key counts**, unless the key is bound before. -/
theorem get?_foldl_putNew (l : List (κ × ν)) (d : Dictionary κ ν) (k : κ) :
    (l.foldl (fun d e => d.putNew e.1 e.2) d).get? k = (d.get? k).or (l.lookup k) := by
  induction l generalizing d with
  | nil => rw [List.foldl_nil, List.lookup_nil, Option.or_none]
  | cons e l ih =>
    obtain ⟨k', v⟩ := e
    rw [List.foldl_cons, ih, get?_putNew, lookup_cons_eq_ite]
    by_cases h : k = k'
    · subst h
      cases d.get? k <;> simp
    · rw [if_neg h, if_neg h]

/-- **The last binding of a key counts**, over one from before. -/
theorem get?_foldl_put (l : List (κ × ν)) (d : Dictionary κ ν) (k : κ) :
    (l.foldl (fun d e => d.put e.1 e.2) d).get? k = (l.reverse.lookup k).or (d.get? k) := by
  induction l generalizing d with
  | nil => rfl
  | cons e l ih =>
    obtain ⟨k', v⟩ := e
    rw [List.foldl_cons, ih, get?_put, List.reverse_cons, List.lookup_append, Option.or_assoc,
      lookup_cons_eq_ite]
    by_cases h : k = k'
    · rw [if_pos h, if_pos h, Option.some_or]
    · rw [if_neg h, if_neg h, List.lookup_nil, Option.none_or]

theorem putNew_of_get? {d : Dictionary κ ν} {k : κ} {v : ν} (h : d.get? k = some v) (w : ν) :
    d.putNew k w = d := by
  rw [putNew, contains, h, Option.isSome_some, if_pos rfl]

variable {g : α → Option (κ × ν)} {l : List α} {k : κ} {v : ν}

theorem lookup_filterMap_eq_some_iff : (l.filterMap g).lookup k = some v ↔
    ∃ before a after, l = before ++ a :: after ∧ g a = some (k, v) ∧
      ∀ b ∈ before, ∀ w, g b ≠ some (k, w) := by
  have hfind : (l.filterMap g).lookup k =
      l.findSome? fun a => (g a).bind fun e => if k = e.1 then some e.2 else none := by
    induction l with
    | nil => rfl
    | cons a l ih =>
      rw [List.filterMap_cons, List.findSome?_cons]
      cases g a with
      | none => exact ih
      | some e =>
        obtain ⟨k', w⟩ := e
        rw [lookup_cons_eq_ite, Option.bind_some, ih]
        split <;> rfl
  have hbinds : ∀ a w, ((g a).bind fun e => if k = e.1 then some e.2 else none) = some w ↔
      g a = some (k, w) := by
    intro a w
    rw [Option.bind_eq_some_iff]
    constructor
    · rintro ⟨e, he, hw⟩
      split at hw
      · rename_i hk
        rw [he, hk, ← Option.some.inj hw]
      · cases hw
    · intro h
      exact ⟨(k, w), h, if_pos rfl⟩
  simp only [hfind, List.findSome?_eq_some_iff, hbinds, Option.eq_none_iff_forall_ne_some, Ne]

theorem lookup_reverse_filterMap_eq_some_iff : (l.filterMap g).reverse.lookup k = some v ↔
    ∃ before a after, l = before ++ a :: after ∧ g a = some (k, v) ∧
      ∀ b ∈ after, ∀ w, g b ≠ some (k, w) := by
  rw [← List.filterMap_reverse, lookup_filterMap_eq_some_iff]
  constructor
  · rintro ⟨after, a, before, hl, ha, hafter⟩
    refine ⟨before.reverse, a, after.reverse, ?_, ha, fun b hb => hafter b (List.mem_reverse.1 hb)⟩
    rw [← List.reverse_reverse l, hl, List.reverse_append, List.reverse_cons, List.append_assoc,
      List.singleton_append]
  · rintro ⟨before, a, after, rfl, ha, hafter⟩
    refine ⟨after.reverse, a, before.reverse, ?_, ha, fun b hb => hafter b (List.mem_reverse.1 hb)⟩
    rw [List.reverse_append, List.reverse_cons, List.append_assoc, List.singleton_append]

/-- **The last thing that binds a key decides** what it is bound to. -/
theorem get?_foldl_put_filterMap_eq_some_iff :
    ((l.filterMap g).foldl (fun d e => d.put e.1 e.2) empty).get? k = some v ↔
      ∃ before a after, l = before ++ a :: after ∧ g a = some (k, v) ∧
        ∀ b ∈ after, ∀ w, g b ≠ some (k, w) := by
  rw [get?_foldl_put, get?_empty, Option.or_none, lookup_reverse_filterMap_eq_some_iff]

theorem get?_foldl_put_filterMap_of_ne (h : ∀ a ∈ l, ∀ v, g a ≠ some (k, v))
    (d : Dictionary κ ν) :
    ((l.filterMap g).foldl (fun d e => d.put e.1 e.2) d).get? k = d.get? k := by
  have hnone : (l.filterMap g).reverse.lookup k = none := by
    rw [Option.eq_none_iff_forall_ne_some]
    intro v hv
    obtain ⟨before, a, after, rfl, ha, -⟩ := lookup_reverse_filterMap_eq_some_iff.1 hv
    exact h a (List.mem_append_right before List.mem_cons_self) v ha
  rw [get?_foldl_put, hnone, Option.none_or]

theorem exists_keys (d : Dictionary κ ν) : ∃ keys : List κ, keys.Nodup ∧
    (∀ k, k ∈ keys ↔ d.get? k ≠ none) ∧ d.size = keys.length := by
  refine ⟨d.keys, d.nodup, fun k => ?_, ?_⟩
  · rw [mem_keys_iff, Option.isSome_iff_ne_none]
  · rw [size, keys, List.length_map]

end ContestExchange.Dictionary
