/-!
# Texts in order

Lists of texts are shown in the order of their code points.
-/

namespace ContestExchange.Text

def sort (l : List String) : List String :=
  l.mergeSort fun s t => decide (s ≤ t)

/-- Puts one more text among those in ascending order, unless it is there. -/
def sortedInsert (s : String) (l : List String) : List String :=
  sort (l.insert s)

/-- The texts in ascending order, each of them once. -/
def sortUnique (l : List String) : List String :=
  sort l.eraseDups

theorem mem_sort {s : String} {l : List String} : s ∈ sort l ↔ s ∈ l :=
  List.mem_mergeSort

theorem mem_sortedInsert {s t : String} {l : List String} :
    s ∈ sortedInsert t l ↔ s = t ∨ s ∈ l := by
  rw [sortedInsert, mem_sort, List.mem_insert_iff]

end ContestExchange.Text
