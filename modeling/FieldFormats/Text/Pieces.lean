/-! # Separated texts

Cutting a text at every occurrence of one character, and putting the pieces together again.
-/
namespace FieldFormats.Text

/-- The pieces between separators. There is one more piece than there are separators. -/
def pieces (sep : Char) : List Char → List (List Char)
  | [] => [[]]
  | c :: cs =>
    if c = sep then [] :: pieces sep cs
    else match pieces sep cs with
      | [] => [[c]]
      | p :: ps => (c :: p) :: ps

/-- Pieces with a separator between each two. -/
def joined (sep : Char) : List (List Char) → List Char
  | [] => []
  | [p] => p
  | p :: q :: ps => p ++ sep :: joined sep (q :: ps)

theorem pieces_ne_nil (sep : Char) (cs : List Char) : pieces sep cs ≠ [] := by
  cases cs with
  | nil => simp [pieces]
  | cons c cs =>
    simp only [pieces]
    split
    · simp
    · split <;> simp

theorem joined_cons {sep : Char} (p : List Char) {ps : List (List Char)} (h : ps ≠ []) :
    joined sep (p :: ps) = p ++ sep :: joined sep ps := by
  cases ps with
  | nil => exact absurd rfl h
  | cons q ps => rfl

theorem joined_pieces (sep : Char) (cs : List Char) : joined sep (pieces sep cs) = cs := by
  induction cs with
  | nil => rfl
  | cons c cs ih =>
    simp only [pieces]
    split
    · next h => rw [joined_cons _ (pieces_ne_nil sep cs), ih, h]; rfl
    · split
      · next h => exact absurd h (pieces_ne_nil sep cs)
      · next p ps h =>
        rw [h] at ih
        cases ps with
        | nil => simpa [joined] using ih
        | cons q ps => simpa [joined] using ih

theorem pieces_of_not_mem {sep : Char} {p : List Char} (h : sep ∉ p) : pieces sep p = [p] := by
  induction p with
  | nil => rfl
  | cons c p ih =>
    rw [List.mem_cons, not_or] at h
    rw [pieces, if_neg (Ne.symm h.1), ih h.2]

theorem pieces_append {sep : Char} {p : List Char} (h : sep ∉ p) (cs : List Char) :
    pieces sep (p ++ sep :: cs) = p :: pieces sep cs := by
  induction p with
  | nil => simp [pieces]
  | cons c p ih =>
    rw [List.mem_cons, not_or] at h
    rw [List.cons_append, pieces, if_neg (Ne.symm h.1), ih h.2]

theorem pieces_joined {sep : Char} {ps : List (List Char)} (hne : ps ≠ [])
    (h : ∀ p ∈ ps, sep ∉ p) : pieces sep (joined sep ps) = ps := by
  induction ps with
  | nil => exact absurd rfl hne
  | cons p ps ih =>
    obtain ⟨hp, hps⟩ := List.forall_mem_cons.1 h
    cases ps with
    | nil => exact pieces_of_not_mem hp
    | cons q ps => rw [joined, pieces_append hp, ih (List.cons_ne_nil q ps) hps]

theorem mem_joined {sep c : Char} {ps : List (List Char)} (h : c ∈ joined sep ps) :
    c = sep ∨ ∃ p ∈ ps, c ∈ p := by
  induction ps with
  | nil => cases h
  | cons p ps ih =>
    cases ps with
    | nil => exact Or.inr ⟨p, by simp, h⟩
    | cons q ps =>
      rw [joined, List.mem_append, List.mem_cons] at h
      rcases h with h | rfl | h
      · exact Or.inr ⟨p, by simp, h⟩
      · exact Or.inl rfl
      · rcases ih h with rfl | ⟨r, hr, hc⟩
        · exact Or.inl rfl
        · exact Or.inr ⟨r, List.mem_cons_of_mem p hr, hc⟩

end FieldFormats.Text
