/-!
# Dictionaries

A dictionary binds keys to values and remembers in which order the keys came
first.  `put` binds a key anew where it stands, `putNew` binds only a key that
is not bound yet; the two differ in whether the last or the first word counts.

Everything is said through the view `get?`: `get?_put` and `get?_putNew` give
the view after each operation, `get?_restrict` after some keys are dropped, and
`mem_keys_iff` ties the keys to it.  That no
key stands twice is part of the type.
-/

namespace ContestExchange

/-- Bindings in the order in which their keys came first. -/
structure Dictionary (κ ν : Type) where
  entries : List (κ × ν)
  nodup : (entries.map Prod.fst).Nodup

namespace Dictionary

variable {κ ν : Type}

def empty : Dictionary κ ν :=
  ⟨[], List.nodup_nil⟩

instance : Inhabited (Dictionary κ ν) :=
  ⟨empty⟩

def keys (d : Dictionary κ ν) : List κ :=
  d.entries.map Prod.fst

def size (d : Dictionary κ ν) : Nat :=
  d.entries.length

def isEmpty (d : Dictionary κ ν) : Bool :=
  d.entries.isEmpty

theorem ext {d e : Dictionary κ ν} (h : d.entries = e.entries) : d = e := by
  cases d; cases e; simp_all

variable [DecidableEq κ]

def get? (d : Dictionary κ ν) (k : κ) : Option ν :=
  d.entries.lookup k

def contains (d : Dictionary κ ν) (k : κ) : Bool :=
  (d.get? k).isSome

/-- Binds `k` where it stands in the list, or at the end. -/
def putEntry (k : κ) (v : ν) : List (κ × ν) → List (κ × ν)
  | [] => [(k, v)]
  | (k', v') :: r => if k' = k then (k, v) :: r else (k', v') :: putEntry k v r

theorem map_fst_putEntry (k : κ) (v : ν) (l : List (κ × ν)) :
    (putEntry k v l).map Prod.fst =
      if k ∈ l.map Prod.fst then l.map Prod.fst else l.map Prod.fst ++ [k] := by
  induction l with
  | nil => rfl
  | cons e r ih =>
    obtain ⟨k', v'⟩ := e
    by_cases h : k' = k
    · subst h; simp [putEntry]
    · have h' : k ≠ k' := fun he => h he.symm
      by_cases hm : k ∈ r.map Prod.fst
      · rw [if_pos hm] at ih; simp [putEntry, h, ih]; simp_all
      · rw [if_neg hm] at ih; simp [putEntry, h, ih]; simp_all

theorem nodup_putEntry (k : κ) (v : ν) {l : List (κ × ν)} (h : (l.map Prod.fst).Nodup) :
    ((putEntry k v l).map Prod.fst).Nodup := by
  rw [map_fst_putEntry]
  split
  · exact h
  · rename_i hk
    rw [List.nodup_append]
    exact ⟨h, by simp, by rintro a ha b hb rfl; simp_all⟩

theorem putEntry_of_notMem {k : κ} (v : ν) {l : List (κ × ν)} (h : k ∉ l.map Prod.fst) :
    putEntry k v l = l ++ [(k, v)] := by
  induction l with
  | nil => rfl
  | cons e r ih =>
    rw [List.map_cons, List.mem_cons, not_or] at h
    rw [putEntry, if_neg (Ne.symm h.1), ih h.2, List.cons_append]

/-- Binds `k` to `v`, whatever it was bound to. -/
def put (d : Dictionary κ ν) (k : κ) (v : ν) : Dictionary κ ν :=
  ⟨putEntry k v d.entries, nodup_putEntry k v d.nodup⟩

/-- Binds `k` to `v` unless `k` is bound. -/
def putNew (d : Dictionary κ ν) (k : κ) (v : ν) : Dictionary κ ν :=
  if d.contains k then d else d.put k v

/-- The bindings of the keys that `p` names. -/
def restrict (d : Dictionary κ ν) (p : κ → Bool) : Dictionary κ ν :=
  ⟨d.entries.filter fun e => p e.1, d.nodup.sublist (List.filter_sublist.map Prod.fst)⟩

/-- The bindings of a list, a later one over an earlier one of the same key. -/
def ofList (l : List (κ × ν)) : Dictionary κ ν :=
  l.foldl (fun d e => d.put e.1 e.2) empty

/-! ### The view -/

@[simp] theorem get?_empty (k : κ) : (empty : Dictionary κ ν).get? k = none := rfl

theorem lookup_cons_eq_ite (k k' : κ) (v : ν) (l : List (κ × ν)) :
    ((k', v) :: l).lookup k = if k = k' then some v else l.lookup k := by
  rw [List.lookup_cons]
  by_cases h : k = k'
  · subst h; simp
  · have hb : (k == k') = false := by simpa using h
    simp [hb, h]

theorem lookup_putEntry (k k' : κ) (v : ν) (l : List (κ × ν)) :
    (putEntry k v l).lookup k' = if k' = k then some v else l.lookup k' := by
  induction l with
  | nil => rw [putEntry, lookup_cons_eq_ite]
  | cons e r ih =>
    obtain ⟨j, w⟩ := e
    by_cases hj : j = k
    · subst hj
      rw [putEntry, if_pos rfl, lookup_cons_eq_ite, lookup_cons_eq_ite]
      split <;> rfl
    · rw [putEntry, if_neg hj, lookup_cons_eq_ite, lookup_cons_eq_ite, ih]
      by_cases h : k' = j
      · subst h; simp [hj]
      · simp [h]

/-- **What a dictionary says after `put`.** -/
theorem get?_put (d : Dictionary κ ν) (k k' : κ) (v : ν) :
    (d.put k v).get? k' = if k' = k then some v else d.get? k' :=
  lookup_putEntry k k' v d.entries

@[simp] theorem get?_put_self (d : Dictionary κ ν) (k : κ) (v : ν) :
    (d.put k v).get? k = some v := by
  simp [get?_put]

theorem get?_put_of_ne (d : Dictionary κ ν) {k k' : κ} (h : k' ≠ k) (v : ν) :
    (d.put k v).get? k' = d.get? k' := by
  simp [get?_put, h]

/-- **What a dictionary says after `putNew`**: the first word on a key counts. -/
theorem get?_putNew (d : Dictionary κ ν) (k k' : κ) (v : ν) :
    (d.putNew k v).get? k' = if k' = k then some ((d.get? k).getD v) else d.get? k' := by
  rw [putNew, contains]
  by_cases h : k' = k
  · subst h
    cases hd : d.get? k' <;> simp [hd]
  · cases d.get? k <;> simp [h, get?_put_of_ne d h v]

theorem lookup_filter (p : κ → Bool) (k : κ) (l : List (κ × ν)) :
    (l.filter fun e => p e.1).lookup k = if p k then l.lookup k else none := by
  induction l with
  | nil => simp
  | cons e r ih =>
    obtain ⟨j, w⟩ := e
    by_cases hj : p j
    · rw [List.filter_cons_of_pos (by simpa using hj), lookup_cons_eq_ite, lookup_cons_eq_ite, ih]
      by_cases h : k = j
      · subst h; simp [hj]
      · simp [h]
    · rw [List.filter_cons_of_neg (by simpa using hj), lookup_cons_eq_ite, ih]
      by_cases h : k = j
      · subst h; simp [hj]
      · simp [h]

theorem get?_restrict (d : Dictionary κ ν) (p : κ → Bool) (k : κ) :
    (d.restrict p).get? k = if p k then d.get? k else none :=
  lookup_filter p k d.entries

theorem lookup_isSome_iff (k : κ) (l : List (κ × ν)) :
    (l.lookup k).isSome = true ↔ k ∈ l.map Prod.fst := by
  induction l with
  | nil => simp
  | cons e r ih =>
    obtain ⟨j, w⟩ := e
    rw [lookup_cons_eq_ite]
    by_cases h : k = j
    · simp [h]
    · simp [h, ih]

theorem mem_keys_iff (d : Dictionary κ ν) (k : κ) : k ∈ d.keys ↔ (d.get? k).isSome = true :=
  (lookup_isSome_iff k d.entries).symm

theorem mem_iff_lookup {l : List (κ × ν)} (h : (l.map Prod.fst).Nodup) (k : κ) (v : ν) :
    (k, v) ∈ l ↔ l.lookup k = some v := by
  induction l with
  | nil => simp
  | cons e r ih =>
    obtain ⟨j, w⟩ := e
    rw [List.map_cons, List.nodup_cons] at h
    rw [lookup_cons_eq_ite, List.mem_cons, ih h.2]
    by_cases hk : k = j
    · subst hk
      have hr : r.lookup k ≠ some v := fun hl =>
        h.1 ((lookup_isSome_iff k r).1 (by rw [hl]; rfl))
      simp [hr, eq_comm]
    · simp [hk]

theorem mem_entries_iff (d : Dictionary κ ν) (k : κ) (v : ν) :
    (k, v) ∈ d.entries ↔ d.get? k = some v :=
  mem_iff_lookup d.nodup k v

theorem keys_put (d : Dictionary κ ν) (k : κ) (v : ν) :
    (d.put k v).keys = if k ∈ d.keys then d.keys else d.keys ++ [k] :=
  map_fst_putEntry k v d.entries

theorem entries_put_of_notMem {d : Dictionary κ ν} {k : κ} (v : ν) (h : k ∉ d.keys) :
    (d.put k v).entries = d.entries ++ [(k, v)] :=
  putEntry_of_notMem v h

end Dictionary

end ContestExchange
