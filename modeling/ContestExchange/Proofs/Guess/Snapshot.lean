import ContestExchange.Proofs.Guess.Heard
import ContestExchange.Proofs.Guess.Remembering

/-!
# What a snapshot lists

Guesses and heard values stand in one book, and a heard value replaces a guess.
What a use of the book tells is a list of observations (`Book.Use.observations`),
empty for a guess, and the heard values are those of a book into which these lists
were written one after another (`Book.heard?_uses`).  So a snapshot lists, in the
order of the keys, the last observation of every key that was told, whatever was
guessed in between (`Book.snapshot_uses`).
-/

namespace ContestExchange

namespace Observation

variable {o p : Observation}

/-- The order of the keys, the callsigns compared first. -/
def KeyBefore (o p : Observation) : Prop :=
  o.call < p.call ∨ o.call = p.call ∧ o.field < p.field

theorem eq_of_key_eq (hk : o.key = p.key) (hv : o.value = p.value) : o = p := by
  cases o; cases p
  simp_all [key]

theorem KeyBefore.of_precedes (h : o.precedes p = true) (hk : o.key ≠ p.key) : o.KeyBefore p := by
  rw [precedes_iff] at h
  by_cases hc : o.call = p.call
  · exact .inr ⟨hc, Std.lt_of_le_of_ne (h.2 hc).1 fun hf => hk (Prod.ext hc hf)⟩
  · exact .inl (Std.lt_of_le_of_ne h.1 hc)

end Observation

namespace Book

/-- The observations that a use tells, in order; a guess tells nothing. -/
def Use.observations : Use → List Observation
  | guess _ _ _ => []
  | set call field value => [.of call field value]
  | restore l => l
  | recordLogged call x => x.observations call

def Use.isGuess : Use → Bool
  | guess _ _ _ => true
  | _ => false

/-! ### What was heard after several uses -/

theorem heard?_guess (b : Book) (c : Catalogue) (call field : String) :
    (b.guess c call field).1.heard? = b.heard? := by
  rw [guess]
  cases hn : b.notes.get? (Callsign.normalize call, field) with
  | some n => rfl
  | none =>
    -- The guess stands under a key that was free, and is not heard.
    funext key
    rw [heard?, heard?, Dictionary.get?_put]
    by_cases hkey : key = (Callsign.normalize call, field)
    · rw [if_pos hkey, hkey, hn]
      rfl
    · rw [if_neg hkey]

theorem heard?_use (b : Book) (u : Use) : (b.use u).heard? = (b.restore u.observations).heard? := by
  cases u with
  | guess c call field => exact b.heard?_guess c call field
  | set call field value => rfl
  | restore l => rfl
  | recordLogged call x => rfl

theorem heard?_uses (b : Book) (l : List Use) :
    (b.uses l).heard? = (b.restore (l.flatMap Use.observations)).heard? := by
  induction l generalizing b with
  | nil => rfl
  | cons u r ih =>
    rw [List.flatMap_cons, restore_append]
    exact (ih (b.use u)).trans (heard?_restore_congr (b.heard?_use u) _)

theorem flatMap_observations_filter (l : List Use) :
    (l.filter fun u => !u.isGuess).flatMap Use.observations = l.flatMap Use.observations := by
  induction l with
  | nil => rfl
  | cons u r ih =>
    cases u with
    | guess c call field => exact ih
    | _ => exact congrArg (_ ++ ·) ih

theorem cached?_of_heard? {b : Book} {key : String × String} {v : String}
    (hc : Callsign.normalize key.1 = key.1) (h : b.heard? key = some v) :
    b.cached? key.1 key.2 = some v := by
  rw [cached?, hc, get?_of_heard? h]
  rfl

/-! ### The snapshot -/

theorem pairwise_snapshot (b : Book) : b.snapshot.Pairwise Observation.KeyBefore :=
  ((Observation.pairwise_sort _).and (List.pairwise_map.1 b.nodup_keys_snapshot)).imp
    fun h => .of_precedes h.1 h.2

/-- **A snapshot lists the last observation of every key.** -/
theorem mem_snapshot_uses_iff (s : Sources) (l : List Use) (o : Observation) :
    o ∈ ((ofSources s).uses l).snapshot ↔
      ((l.flatMap Use.observations).filter fun p => p.key = o.key).getLast? = some o := by
  rw [mem_snapshot_iff, heard?_uses, heard?_restore, heard?_ofSources, Option.or_none,
    Option.map_eq_some_iff]
  constructor
  · rintro ⟨p, hp, hv⟩
    have hk : p.key = o.key := (mem_of_getLast?_filter hp).2
    rwa [Observation.eq_of_key_eq hk hv] at hp
  · exact fun h => ⟨o, h, rfl⟩

theorem mem_keys_snapshot_uses_iff (s : Sources) (l : List Use) (key : String × String) :
    key ∈ ((ofSources s).uses l).snapshot.map Observation.key ↔
      key ∈ (l.flatMap Use.observations).map Observation.key := by
  simp only [List.mem_map, mem_snapshot_uses_iff]
  constructor
  · rintro ⟨o, ho, rfl⟩
    exact ⟨o, (mem_of_getLast?_filter ho).1, rfl⟩
  · rintro ⟨o, ho, rfl⟩
    obtain ⟨p, hp⟩ := exists_getLast?_filter ho
    have hk : p.key = o.key := (mem_of_getLast?_filter hp).2
    exact ⟨p, by rwa [hk], hk⟩

/-- **The snapshot is the last-write-wins map of what was heard.**  After any uses of a fresh book
it lists in strict order of the keys, for every key of an observation that was told, the last one
told; it is the same if the guesses are left out.  Written into a fresh book it gives the same
snapshot back, and the same value for every key told whose callsign is in normal form. -/
theorem snapshot_uses (s : Sources) (l : List Use) :
    let told := l.flatMap Use.observations
    let b := (ofSources s).uses l
    b.snapshot.Pairwise Observation.KeyBefore ∧
      (∀ o, o ∈ b.snapshot ↔ (told.filter fun p => p.key = o.key).getLast? = some o) ∧
      (∀ key, key ∈ b.snapshot.map Observation.key ↔ key ∈ told.map Observation.key) ∧
      (∀ s', ((ofSources s').uses (l.filter fun u => !u.isGuess)).snapshot = b.snapshot) ∧
      ∀ s', ((ofSources s').restore b.snapshot).snapshot = b.snapshot ∧
        ∀ key ∈ told.map Observation.key, Callsign.normalize key.1 = key.1 →
          ∃ v, b.cached? key.1 key.2 = some v ∧
            ((ofSources s').restore b.snapshot).cached? key.1 key.2 = some v := by
  intro told b
  refine ⟨b.pairwise_snapshot, mem_snapshot_uses_iff s l, mem_keys_snapshot_uses_iff s l,
    fun s' => snapshot_eq_of_heard? ?_, fun s' => ?_⟩
  · funext key
    rw [heard?_uses, heard?_uses, flatMap_observations_filter, heard?_restore, heard?_restore,
      heard?_ofSources, heard?_ofSources]
  · have hr := heard?_restore_snapshot s' b
    refine ⟨snapshot_eq_of_heard? hr, fun key hkey hc => ?_⟩
    rw [← mem_keys_snapshot_uses_iff s] at hkey
    obtain ⟨o, ho, rfl⟩ := List.mem_map.1 hkey
    have hv : b.heard? o.key = some o.value := (mem_snapshot_iff b o).1 ho
    exact ⟨o.value, cached?_of_heard? hc hv, cached?_of_heard? hc ((congrFun hr _).trans hv)⟩

/-- A zone is guessed and then heard, with small letters; the snapshot restores what was heard. -/
theorem snapshot_uses_zone :
    let l : List Use := [.guess .empty "K1AR" "ITUZONE", .set "k1ar" "ITUZONE" "8"]
    let b := (ofSources .empty).uses l
    let key := ("K1AR", "ITUZONE")
    key ∈ (l.flatMap Use.observations).map Observation.key ∧ Callsign.normalize key.1 = key.1 ∧
      b.snapshot = [⟨"K1AR", "ITUZONE", "8"⟩] ∧
      ∃ v, b.cached? key.1 key.2 = some v ∧
        ((ofSources .empty).restore b.snapshot).cached? key.1 key.2 = some v := by
  intro l b key
  have hkey : key ∈ (l.flatMap Use.observations).map Observation.key := by decide +kernel
  have hnormal : Callsign.normalize key.1 = key.1 := by decide +kernel
  obtain ⟨-, -, -, -, hrestored⟩ := snapshot_uses .empty l
  exact ⟨hkey, hnormal, by decide +kernel, (hrestored .empty).2 key hkey hnormal⟩

end Book

end ContestExchange
