import FieldFormats.Text.Blank
import FieldFormats.Text.Numeral
import Mathlib.Data.List.TakeWhile
/-! # Numbers in fields

Which fields are read as numbers: digits with blanks around them, and perhaps a plus sign. -/
namespace FieldFormats.Text

/-- One or more digits, a plus sign in front of them or none, and blanks on both sides. -/
def Denotes (field : List Char) (n : ℕ) : Prop :=
  ∃ before sign digits after, field = before ++ (sign ++ digits) ++ after ∧
    (∀ c ∈ before, isBlank c = true) ∧ (∀ c ∈ after, isBlank c = true) ∧
    (sign = [] ∨ sign = ['+']) ∧ digits ≠ [] ∧ (∀ c ∈ digits, c.isDigit = true) ∧
    decimal digits = n

theorem exists_blanks_dropWhile (cs : List Char) :
    ∃ blanks, cs = blanks ++ cs.dropWhile isBlank ∧ ∀ c ∈ blanks, isBlank c = true :=
  ⟨cs.takeWhile isBlank, List.takeWhile_append_dropWhile.symm, fun _ => List.mem_takeWhile_imp⟩

theorem exists_blanks_trim (cs : List Char) :
    ∃ before after, cs = before ++ trim cs ++ after ∧ (∀ c ∈ before, isBlank c = true) ∧
      ∀ c ∈ after, isBlank c = true := by
  obtain ⟨before, hbefore, hblank⟩ := exists_blanks_dropWhile cs
  obtain ⟨after, hafter, hend⟩ := exists_blanks_dropWhile (cs.dropWhile isBlank).reverse
  refine ⟨before, after.reverse, ?_, hblank, fun c hc => hend c (List.mem_reverse.1 hc)⟩
  rw [List.append_assoc]
  rw [List.reverse_eq_iff, List.reverse_append] at hafter
  rw [trim, ← hafter]
  exact hbefore

theorem dropWhile_blanks {blanks cs : List Char} {c : Char}
    (hblanks : ∀ d ∈ blanks, isBlank d = true) (hc : isBlank c = false) :
    (blanks ++ c :: cs).dropWhile isBlank = c :: cs := by
  rw [List.dropWhile_append_of_pos hblanks, List.dropWhile_cons_of_neg (by simp [hc])]

theorem trim_eq_of_blanks {before cs after : List Char}
    (hbefore : ∀ c ∈ before, isBlank c = true) (hafter : ∀ c ∈ after, isBlank c = true)
    (hcs : ∀ c ∈ cs, isBlank c = false) (hne : cs ≠ []) : trim (before ++ cs ++ after) = cs := by
  obtain ⟨first, rest, rfl⟩ := List.exists_cons_of_ne_nil hne
  obtain ⟨last, front, hlast⟩ :=
    List.exists_cons_of_ne_nil (List.reverse_ne_nil_iff.2 hne)
  have hfront : (before ++ (first :: rest) ++ after).dropWhile isBlank = first :: rest ++ after := by
    rw [List.append_assoc]
    exact dropWhile_blanks hbefore (hcs first List.mem_cons_self)
  have hmem : last ∈ first :: rest := by
    rw [← List.mem_reverse, hlast]
    exact List.mem_cons_self
  rw [trim, hfront, List.reverse_append, hlast,
    dropWhile_blanks (fun c hc => hafter c (List.mem_reverse.1 hc)) (hcs last hmem), ← hlast,
    List.reverse_reverse]

theorem readNumber?_eq_some_iff {bound n : ℕ} {cs : List Char} :
    readNumber? bound cs = some n ↔
      ∃ sign digits, cs = sign ++ digits ∧ (sign = [] ∨ sign = ['+']) ∧ digits ≠ [] ∧
        (∀ c ∈ digits, c.isDigit = true) ∧ decimal digits = n ∧ n < bound := by
  have hread : ∀ digits : List Char,
      ((if digits ≠ [] ∧ digits.all Char.isDigit ∧ decimal digits < bound
        then some (decimal digits) else none) = some n) ↔
      digits ≠ [] ∧ (∀ c ∈ digits, c.isDigit = true) ∧ decimal digits = n ∧ n < bound := by
    intro digits
    rw [Option.ite_none_right_eq_some, List.all_eq_true, Option.some.injEq]
    constructor
    · rintro ⟨⟨hne, hdigits, hlt⟩, rfl⟩
      exact ⟨hne, hdigits, rfl, hlt⟩
    · rintro ⟨hne, hdigits, rfl, hlt⟩
      exact ⟨⟨hne, hdigits, hlt⟩, rfl⟩
  constructor
  · intro h
    unfold readNumber? at h
    dsimp only at h
    split at h
    · next digits => exact ⟨['+'], digits, rfl, Or.inr rfl, (hread digits).1 h⟩
    · exact ⟨[], cs, rfl, Or.inl rfl, (hread cs).1 h⟩
  · rintro ⟨sign, digits, rfl, rfl | rfl, h⟩
    · rw [List.nil_append]
      unfold readNumber?
      dsimp only
      split
      · -- A plus sign is no digit.
        next rest => exact absurd (h.2.1 '+' List.mem_cons_self) (by decide)
      · exact (hread digits).2 h
    · exact (hread digits).2 h

theorem isBlank_eq_false_of_signed {sign digits : List Char} (hsign : sign = [] ∨ sign = ['+'])
    (hdigits : ∀ c ∈ digits, c.isDigit = true) : ∀ c ∈ sign ++ digits, isBlank c = false := by
  rw [List.forall_mem_append]
  constructor
  · rcases hsign with rfl | rfl
    · simp
    · intro c hc
      rw [List.mem_singleton.1 hc]
      decide
  · intro c hc
    exact isBlank_eq_false_of_isDigit (hdigits c hc)

/-- Trimming a field and reading what is left finds the number that the field denotes. -/
theorem readNumber?_trim_eq_some_iff {bound n : ℕ} {field : List Char} :
    readNumber? bound (trim field) = some n ↔ Denotes field n ∧ n < bound := by
  rw [readNumber?_eq_some_iff]
  constructor
  · rintro ⟨sign, digits, htrim, hsign, hne, hdigits, hn, hlt⟩
    obtain ⟨before, after, hfield, hbefore, hafter⟩ := exists_blanks_trim field
    rw [htrim] at hfield
    exact ⟨⟨before, sign, digits, after, hfield, hbefore, hafter, hsign, hne, hdigits, hn⟩, hlt⟩
  · rintro ⟨⟨before, sign, digits, after, rfl, hbefore, hafter, hsign, hne, hdigits, hn⟩, hlt⟩
    refine ⟨sign, digits, ?_, hsign, hne, hdigits, hn, hlt⟩
    exact trim_eq_of_blanks hbefore hafter (isBlank_eq_false_of_signed hsign hdigits)
      (List.append_ne_nil_of_right_ne_nil sign hne)

theorem Denotes.unique {field : List Char} {m n : ℕ} (hm : Denotes field m)
    (hn : Denotes field n) : m = n := by
  have hleft := readNumber?_trim_eq_some_iff.2 ⟨hm, Nat.lt_succ_of_le (Nat.le_max_left m n)⟩
  have hright := readNumber?_trim_eq_some_iff.2 ⟨hn, Nat.lt_succ_of_le (Nat.le_max_right m n)⟩
  exact Option.some.inj (hleft.symm.trans hright)

end FieldFormats.Text
