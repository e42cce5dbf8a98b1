/-! # Ascending lists of texts

A finite set of texts as the list of its members in code point order, each once.
-/
namespace FieldFormats.Text

def insertSorted (s : String) : List String → List String
  | [] => [s]
  | t :: ts =>
    if s < t then s :: t :: ts
    else if s = t then t :: ts
    else t :: insertSorted s ts

def sortedSet (ss : List String) : List String :=
  ss.foldr insertSorted []

theorem mem_insertSorted {s t : String} {ts : List String} :
    s ∈ insertSorted t ts ↔ s = t ∨ s ∈ ts := by
  induction ts with
  | nil => simp [insertSorted]
  | cons u us ih =>
    simp only [insertSorted]
    split
    · simp
    · split
      · next h => simp [h]
      · simp only [List.mem_cons, ih]
        constructor
        · rintro (h | h | h) <;> simp [h]
        · rintro (h | h | h) <;> simp [h]

theorem mem_sortedSet {s : String} {ss : List String} : s ∈ sortedSet ss ↔ s ∈ ss := by
  induction ss with
  | nil => simp [sortedSet]
  | cons t ts ih =>
    rw [sortedSet, List.foldr_cons, ← sortedSet, mem_insertSorted, List.mem_cons, ih]

end FieldFormats.Text
