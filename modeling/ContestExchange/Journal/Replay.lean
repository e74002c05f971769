import ContestExchange.Guess.Book
import ContestExchange.Journal.Basic

/-!
# Replaying a journal

At the start of a session the guess book is filled from the journal: with the
newest snapshot first, and then with the rows that it does not cover.  If the
snapshot cannot be read nothing is written into the book; if one of the rows
cannot, none of the rows is.
-/

namespace ContestExchange.Journal

/-- Fills a book from the journal; tells the number from which the session's own
observations go on. -/
def replay (j : Journal) (b : Book) : Book × Except JournalError UInt64 :=
  match j.latestSnapshot? with
  | .error e => (b, .error e)
  | .ok snapshot? =>
    let s := snapshot?.getD ⟨0, []⟩
    let b' := b.restore s.observations
    match j.loadAfter s.lastSeq with
    | .error e => (b', .error e)
    | .ok tail =>
      let last := (tail.getLast?.map Stored.seq).getD s.lastSeq
      (b'.restore (tail.map Stored.observation),
        .ok (if last ≤ j.latestSeq then j.latestSeq else last))

end ContestExchange.Journal
