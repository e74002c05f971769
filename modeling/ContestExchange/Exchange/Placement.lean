/-!
# Placing tokens in slots

Each token of an exchange may fit several slots.  A placement says for each
token either where it has been placed or which slots it may still go to; a slot
that is given to a token is taken off the list of every other token.

`solve` first gives every token with a single slot left that slot, over and over
in the order of the tokens, until there is no such token (`propagate`).  Then the
first token that still has a choice takes the first of its slots, and so on.
Each step places one more token (`waiting_assign`), so this ends.
-/

namespace ContestExchange

/-- What is known about a token. -/
inductive Progress where
  /-- The token has been given the slot. -/
  | placed (slot : Nat)
  /-- The token may go to one of these slots. -/
  | undecided (slots : List Nat)
deriving DecidableEq

/-- What is known about each token. -/
abbrev Placement :=
  List Progress

namespace Progress

def isWaiting : Progress → Bool
  | placed _ => false
  | undecided _ => true

def slot? : Progress → Option Nat
  | placed s => some s
  | undecided _ => none

/-- The token's state once another one has been given the slot. -/
def without (s : Nat) : Progress → Progress
  | placed t => placed t
  | undecided l => undecided (l.filter (· != s))

@[simp] theorem isWaiting_without (s : Nat) (p : Progress) :
    (p.without s).isWaiting = p.isWaiting := by
  cases p <;> rfl

end Progress

namespace Placement

def waiting (ps : Placement) : Nat :=
  ps.countP Progress.isWaiting

def assign (ps : Placement) (token slot : Nat) : Placement :=
  ps.mapIdx fun i p => if i = token then .placed slot else p.without slot

/-- The only slot that a token may go to. -/
def forced? (ps : Placement) (token : Nat) : Option Nat :=
  match ps[token]? with
  | some (.undecided [s]) => some s
  | _ => none

/-- Gives a token its only slot, if it has only one. -/
def confirm (ps : Placement) (token : Nat) : Placement :=
  match ps.forced? token with
  | some s => ps.assign token s
  | none => ps

/-- Gives every token that has only one slot that slot, in the order of the
tokens. -/
def confirmAll (ps : Placement) : Placement :=
  (List.range ps.length).foldl confirm ps

/-- The first token that may still go somewhere, and the first of its slots. -/
def choice? (ps : Placement) : Option (Nat × Nat) :=
  match ps.findIdx? fun p => match p with
      | .undecided (_ :: _) => true
      | _ => false with
  | none => none
  | some t =>
    match ps[t]? with
    | some (.undecided (s :: _)) => some (t, s)
    | _ => none

/-! ### Each step places a token -/

theorem waiting_mapIdx (ps : Placement) (f : Nat → Progress → Progress)
    (h : ∀ i p, (f i p).isWaiting = p.isWaiting) :
    (ps.mapIdx f).countP Progress.isWaiting = ps.countP Progress.isWaiting := by
  induction ps generalizing f with
  | nil => rfl
  | cons p r ih =>
    rw [List.mapIdx_cons, List.countP_cons, List.countP_cons, h, ih _ fun i q => h (i + 1) q]

/-- **Giving a waiting token a slot leaves one token less waiting.** -/
theorem waiting_assign {ps : Placement} {token : Nat} {p : Progress} (hp : ps[token]? = some p)
    (hw : p.isWaiting = true) (slot : Nat) : (ps.assign token slot).waiting + 1 = ps.waiting := by
  unfold assign waiting
  induction ps generalizing token with
  | nil => simp at hp
  | cons q r ih =>
    rw [List.mapIdx_cons, List.countP_cons, List.countP_cons]
    cases token with
    | zero =>
      simp only [List.getElem?_cons_zero, Option.some.injEq] at hp
      subst hp
      rw [waiting_mapIdx r _ fun i p => by simp, if_pos hw, if_pos rfl]
      rfl
    | succ t =>
      have h := ih (by simpa using hp)
      simp only [Nat.add_right_cancel_iff, Nat.zero_ne_add_one, ↓reduceIte,
        Progress.isWaiting_without] at h ⊢
      omega

theorem waiting_confirm_le (ps : Placement) (token : Nat) :
    (ps.confirm token).waiting ≤ ps.waiting := by
  rw [confirm]
  cases h : ps.forced? token with
  | none => exact Nat.le_refl _
  | some s =>
    rw [forced?] at h
    split at h
    · rename_i s' hp
      have := waiting_assign hp rfl s
      simp only; omega
    · simp at h

theorem waiting_foldl_confirm_le (l : List Nat) (ps : Placement) :
    (l.foldl confirm ps).waiting ≤ ps.waiting := by
  induction l generalizing ps with
  | nil => exact Nat.le_refl _
  | cons t r ih => exact Nat.le_trans (ih _) (waiting_confirm_le ps t)

theorem waiting_choice {ps : Placement} {t s : Nat} (h : ps.choice? = some (t, s)) :
    (ps.assign t s).waiting + 1 = ps.waiting := by
  unfold choice? at h
  split at h
  · simp at h
  · rename_i t' _
    split at h
    · rename_i s' _ hp
      simp only [Option.some.injEq, Prod.mk.injEq] at h
      rw [← h.1, ← h.2]
      exact waiting_assign hp rfl s'
    · simp at h

/-- Gives tokens with only one slot that slot until there is no such token. -/
def propagate (ps : Placement) : Placement :=
  if ps.confirmAll.waiting < ps.waiting then propagate ps.confirmAll else ps
termination_by ps.waiting

theorem waiting_propagate_le (ps : Placement) : ps.propagate.waiting ≤ ps.waiting := by
  fun_induction propagate ps with
  | case1 ps h ih => exact Nat.le_trans ih (Nat.le_of_lt h)
  | case2 ps _ => exact Nat.le_refl _

/-- Gives out slots until no token may go anywhere. -/
def solve (ps : Placement) : Placement :=
  match _h : ps.propagate.choice? with
  | none => ps.propagate
  | some (t, s) => solve (ps.propagate.assign t s)
termination_by ps.waiting
decreasing_by
  have h1 := waiting_choice _h
  have h2 := waiting_propagate_le ps
  omega

/-! ### Reading the result off -/

def leftovers (ps : Placement) : List Nat :=
  (List.range ps.length).filter fun t => (ps[t]?).any Progress.isWaiting

/-- The token that was given the slot. -/
def token? (ps : Placement) (slot : Nat) : Option Nat :=
  ps.findIdx? fun p => p.slot? == some slot

end Placement

end ContestExchange
