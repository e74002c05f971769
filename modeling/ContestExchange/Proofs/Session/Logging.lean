import ContestExchange.Proofs.Journal.Keeping
import ContestExchange.Session.Basic

/-!
# What logging brings

An exchange that is logged writes its observations into the guess book, numbers
them from the last number on, and hands them over as one batch
(`Session.log_ok`).
-/

namespace ContestExchange

theorem Stored.follows_number (time n : UInt64) (l : List Observation) :
    Follows n (number time n l) := by
  induction l generalizing n with
  | nil => trivial
  | cons o r ih => exact ⟨rfl, ih (n + 1)⟩

theorem Stored.Follows.getLast?_seq {n : UInt64} {l : List Stored} (h : Follows n l) :
    (l.getLast?.map Stored.seq).getD n = n + l.length.toUInt64 := by
  induction l generalizing n with
  | nil => exact (UInt64.add_zero n).symm
  | cons s r ih =>
    obtain ⟨hs, hr⟩ := h
    rw [add_length_cons, ← ih hr, List.getLast?_cons, Option.map_some, Option.getD_some, ← hs]
    cases r.getLast? <;> rfl

namespace Session

theorem learnEntries_frame (s : Session) (l : List Entry) :
    (s.learnEntries l).1.book = s.book ∧ (s.learnEntries l).1.lastSeq = s.lastSeq ∧
      (s.learnEntries l).1.sinceSnapshot = s.sinceSnapshot := by
  induction l generalizing s with
  | nil => exact ⟨rfl, rfl, rfl⟩
  | cons e r ih => exact ih _

/-- **What an accepted exchange does to a session** is told by the batch that it brings. -/
theorem log_ok {s : Session} {settings : Settings} {outlet : Outlet} {call : String}
    {x : Exchange} {time : UInt64} {g : Logged} (h : s.log settings outlet call x time = .ok g) :
    outlet.refusal? = none ∧
      g.session.book = s.book.restore (g.batch.map Stored.observation) ∧
      g.session.lastSeq = s.lastSeq + g.batch.length.toUInt64 ∧
      Stored.Follows s.lastSeq g.batch := by
  rw [log] at h
  split at h
  · cases h
  · rename_i x' _
    split at h
    · cases h
    · rename_i ho
      obtain rfl := Except.ok.inj h
      have hl : ∀ b : Bool, (if b then s.learnEntries x'.mults else (s, [])).1.book = s.book ∧
          (if b then s.learnEntries x'.mults else (s, [])).1.lastSeq = s.lastSeq := by
        intro b
        cases b with
        | false => exact ⟨rfl, rfl⟩
        | true =>
          obtain ⟨hbook, hseq, -⟩ := s.learnEntries_frame x'.mults
          exact ⟨hbook, hseq⟩
      obtain ⟨hb, hs⟩ := hl settings.learnMultValues
      refine ⟨ho, ?_, ?_, Stored.follows_number _ _ _⟩
      · simp only [observe, hb, Stored.map_observation_number]; rfl
      · simp only [observe, hs, Stored.length_number]

end Session

end ContestExchange
