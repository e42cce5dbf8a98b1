import FieldFormats.Iban.WordRemainder
import FieldFormats.Proofs.CheckNumeral
/-! # The remainder without bounds

The remainder of a text is that of one natural number, as long as the text makes it, and the texts
that have none are those with another character or, for the rotated one, too few bytes. Words of 32
bits are wide enough for all that is computed on the way, and no cut falls inside a character. -/
namespace FieldFormats.Iban

open FieldFormats.Text

/-- A text written in digits: each digit as it is, and each capital letter as the two digits of its
number, 10 for the first one. -/
inductive InDigits : List Char → List Char → Prop where
  | nil : InDigits [] []
  | digit {c cs ds} (isDigit : c.isDigit = true) (rest : InDigits cs ds) : InDigits (c :: cs) (c :: ds)
  | letter {n cs ds} (isLetter : n < 26) (rest : InDigits cs ds) :
      InDigits (Char.ofNat ('A'.toNat + n) :: cs) (numeral (10 + n) ++ ds)

theorem isUpper_ofNat {n : ℕ} (h : n < 26) :
    (Char.ofNat ('A'.toNat + n)).isUpper = true := by
  have hall : ∀ n < 26, (Char.ofNat ('A'.toNat + n)).isUpper = true := by
    decide
  exact hall n h

theorem toNat_ofNat_letter {n : ℕ} (h : n < 26) :
    (Char.ofNat ('A'.toNat + n)).toNat = 65 + n := by
  have hall : ∀ n < 26, (Char.ofNat ('A'.toNat + n)).toNat = 65 + n := by
    decide
  exact hall n h

/-- Every plain text can be written in digits, in one way only. -/
theorem inDigits_iff {cs ds : List Char} :
    InDigits cs ds ↔ (∀ c ∈ cs, IsPlain c) ∧ ds = digitsOf cs := by
  constructor
  · intro h
    induction h with
    | nil => exact ⟨by simp, rfl⟩
    | digit hdigit _ ih =>
      obtain ⟨hcs, rfl⟩ := ih
      refine ⟨List.forall_mem_cons.2 ⟨Or.inr hdigit, hcs⟩, ?_⟩
      rw [digitsOf_cons, numeral_valueOf_of_isDigit hdigit]
      rfl
    | @letter n cs ds hletter _ ih =>
      obtain ⟨hcs, rfl⟩ := ih
      have hupper := isUpper_ofNat hletter
      refine ⟨List.forall_mem_cons.2 ⟨Or.inl hupper, hcs⟩, ?_⟩
      have hvalue : 65 + n - 65 + 10 = 10 + n := by omega
      rw [digitsOf_cons, valueOf?_of_isUpper hupper, toNat_ofNat_letter hletter, hvalue]
      rfl
  · rintro ⟨h, rfl⟩
    induction cs with
    | nil => exact .nil
    | cons c cs ih =>
      obtain ⟨hc, hcs⟩ := List.forall_mem_cons.1 h
      rw [digitsOf_cons]
      rcases hc with hupper | hdigit
      · have hrange := toNat_of_isUpper hupper
        have hcapital : 'A'.toNat = 65 := rfl
        have hplace : 'A'.toNat + (c.toNat - 65) = c.toNat := by omega
        have hwritten := InDigits.letter (n := c.toNat - 65) (by omega) (ih hcs)
        rw [hplace, Char.ofNat_toNat, Nat.add_comm] at hwritten
        rw [valueOf?_of_isUpper hupper]
        exact hwritten
      · rw [numeral_valueOf_of_isDigit hdigit]
        exact .digit hdigit (ih hcs)

theorem mod97?_eq_none_iff {cs : List Char} : mod97? cs = none ↔ ∃ c ∈ cs, ¬ IsPlain c := by
  by_cases h : ∀ c ∈ cs, IsPlain c
  · rw [mod97?_of_isPlain h]
    simp only [reduceCtorEq, false_iff, not_exists, not_and, not_not]
    exact h
  · rw [mod97?, mod97From_eq_none h]
    simpa using h

theorem mod97?_eq_some_iff {cs : List Char} {r : ℕ} :
    mod97? cs = some r ↔ ∃ ds, InDigits cs ds ∧ r = decimal ds % 97 := by
  simp only [inDigits_iff]
  constructor
  · intro h
    have hplain : ∀ c ∈ cs, IsPlain c := by
      by_contra hnot
      rw [mod97?, mod97From_eq_none hnot] at h
      cases h
    rw [mod97?_of_isPlain hplain, Option.some.injEq] at h
    exact ⟨digitsOf cs, ⟨hplain, rfl⟩, h.symm⟩
  · rintro ⟨ds, ⟨hplain, rfl⟩, rfl⟩
    exact mod97?_of_isPlain hplain

theorem isPlain_of_not_ascii {cs : List Char} (h : ¬ cs.all (·.toNat < 128) = true) :
    ∃ c ∈ cs, ¬ IsPlain c := by
  by_contra hnone
  apply h
  refine List.all_eq_true.2 fun c hc => decide_eq_true ?_
  by_contra hlarge
  exact hnone ⟨c, hc, fun hplain => hlarge hplain.ascii⟩

theorem remainder?_eq_none_iff {cs : List Char} :
    remainder? cs = none ↔ byteLength cs < headLength ∨ ∃ c ∈ cs, ¬ IsPlain c := by
  unfold remainder?
  by_cases h : byteLength cs < headLength ∨ ¬ cs.all (·.toNat < 128) = true
  · rw [if_pos h]
    exact iff_of_true rfl (h.imp_right isPlain_of_not_ascii)
  · obtain ⟨hlong, -⟩ := not_or.1 h
    have hsame : (∃ c ∈ rotated cs, ¬ IsPlain c) ↔ ∃ c ∈ cs, ¬ IsPlain c := by
      simp only [mem_rotated_iff]
    rw [if_neg h, or_iff_right hlong, ← hsame]
    exact mod97?_eq_none_iff

theorem remainder?_eq_some_iff {cs : List Char} {r : ℕ} :
    remainder? cs = some r ↔ headLength ≤ byteLength cs ∧
      ∃ ds, InDigits (rotated cs) ds ∧ r = decimal ds % 97 := by
  rw [← mod97?_eq_some_iff]
  unfold remainder?
  by_cases h : byteLength cs < headLength ∨ ¬ cs.all (·.toNat < 128) = true
  · rw [if_pos h]
    refine iff_of_false (by simp) ?_
    rintro ⟨hlong, hr⟩
    have hshort : ¬ byteLength cs < headLength := by omega
    obtain ⟨c, hc, hplain⟩ := isPlain_of_not_ascii (h.resolve_left hshort)
    rw [mod97?_eq_none_iff.2 ⟨c, mem_rotated_iff.2 hc, hplain⟩] at hr
    cases hr
  · obtain ⟨hlong, -⟩ := not_or.1 h
    rw [if_neg h, and_iff_right (by omega)]
    rfl

namespace Word

theorem sub_of_le {a b : UInt32} (h : b ≤ a) : sub a b = .ok (a - b) :=
  if_pos h

theorem add_ofNat {a b : ℕ} (h : a + b < UInt32.size) :
    add (.ofNat a) (.ofNat b) = .ok (.ofNat (a + b)) := by
  have ha : (UInt32.ofNat a).toNat = a := UInt32.toNat_ofNat_of_lt' (by omega)
  have hb : (UInt32.ofNat b).toNat = b := UInt32.toNat_ofNat_of_lt' (by omega)
  rw [add, ha, hb, if_pos h, UInt32.ofNat_add]

theorem mul_ofNat {a b : ℕ} (ha : a < UInt32.size) (hb : b < UInt32.size)
    (h : a * b < UInt32.size) : mul (.ofNat a) (.ofNat b) = .ok (.ofNat (a * b)) := by
  rw [mul, UInt32.toNat_ofNat_of_lt' ha, UInt32.toNat_ofNat_of_lt' hb, if_pos h, UInt32.ofNat_mul]

theorem sub_val {c d : Char} (h : d.toNat ≤ c.toNat) :
    sub c.val d.val = .ok (.ofNat (c.toNat - d.toNat)) := by
  have hc : UInt32.ofNat c.toNat = c.val := UInt32.ofNat_toNat
  have hd : UInt32.ofNat d.toNat = d.val := UInt32.ofNat_toNat
  rw [sub_of_le (UInt32.le_iff_toNat_le.2 h), UInt32.ofNat_sub h, hc, hd]

theorem valueOf?_eq (c : Char) : valueOf? c = .ok ((Iban.valueOf? c).map UInt32.ofNat) := by
  have hzero : '0'.toNat = 48 := rfl
  have hcapital : 'A'.toNat = 65 := rfl
  unfold valueOf? Iban.valueOf?
  by_cases hdigit : c.isDigit = true
  · have hrange := toNat_of_isDigit hdigit
    rw [if_pos hdigit, if_pos hdigit, sub_val (by omega)]
    rfl
  · rw [if_neg hdigit, if_neg hdigit]
    by_cases hupper : c.isUpper = true
    · have hrange := toNat_of_isUpper hupper
      have hsum : c.toNat - 'A'.toNat + 10 < UInt32.size := by
        have hsize : UInt32.size = 4294967296 := rfl
        omega
      rw [if_pos hupper, if_pos hupper, sub_val (by omega)]
      change (add (.ofNat (c.toNat - 'A'.toNat)) (.ofNat 10)).bind _ = _
      rw [add_ofNat hsum]
      rfl
    · rw [if_neg hupper, if_neg hupper]
      rfl

/-- A factor of 100 at most and a remainder below 97 leave room in a word. -/
theorem shift_and_add {r v : ℕ} (hr : r < modulus) (hv : v < 36) {factor : ℕ}
    (hfactor : factor ≤ 100) :
    (do
      let shifted ← mul (.ofNat r) (.ofNat factor)
      let sum ← add shifted (.ofNat v)
      return sum % UInt32.ofNat modulus) =
    Except.ok (.ofNat ((r * factor + v) % modulus) : UInt32) := by
  have hsize : UInt32.size = 4294967296 := rfl
  have hmodulus : modulus = 97 := rfl
  have hproduct : r * factor ≤ 96 * 100 := Nat.mul_le_mul (by omega) hfactor
  rw [mul_ofNat (by omega) (by omega) (by omega)]
  change (add (.ofNat (r * factor)) (.ofNat v)).bind _ = _
  rw [add_ofNat (by omega)]
  change Except.ok (UInt32.ofNat (r * factor + v) % UInt32.ofNat modulus) = _
  rw [UInt32.ofNat_mod (by omega) (by omega)]

theorem appendValue_eq {r v : ℕ} (hr : r < modulus) (hv : v < 36) :
    appendValue (.ofNat r) (.ofNat v) = .ok (.ofNat (Iban.appendValue r v)) := by
  have hten : (10 : UInt32) ≤ UInt32.ofNat v ↔ 10 ≤ v := by
    have hsize : UInt32.size = 4294967296 := rfl
    rw [UInt32.le_iff_toNat_le, UInt32.toNat_ofNat_of_lt' (by omega)]
    rfl
  unfold appendValue Iban.appendValue
  by_cases h : 10 ≤ v
  · rw [if_pos (hten.2 h), if_pos h]
    exact shift_and_add hr hv (Nat.le_refl 100)
  · rw [if_neg (mt hten.1 h), if_neg h]
    exact shift_and_add hr hv (by omega : 10 ≤ 100)

/-- The remainder stays below 97 from character to character, which is what keeps the words from
overflowing. -/
theorem mod97From_eq {r : ℕ} (hr : r < modulus) (cs : List Char) :
    mod97From (.ofNat r) cs = .ok ((Iban.mod97From r cs).map UInt32.ofNat) := by
  induction cs generalizing r with
  | nil => rfl
  | cons c cs ih =>
    rw [mod97From, valueOf?_eq, Iban.mod97From]
    cases hvalue : Iban.valueOf? c with
    | none => rfl
    | some v =>
      change (appendValue (.ofNat r) (.ofNat v)).bind _ = _
      rw [appendValue_eq hr (valueOf?_lt hvalue)]
      exact ih (appendValue_lt r v)

theorem mod97?_eq (cs : List Char) : mod97? cs = .ok ((Iban.mod97? cs).map UInt32.ofNat) :=
  mod97From_eq (by decide) cs

theorem remainder?_eq (cs : List Char) :
    remainder? cs = .ok ((Iban.remainder? cs).map UInt32.ofNat) := by
  unfold remainder? Iban.remainder?
  by_cases h : byteLength cs < headLength ∨ ¬ cs.all (·.toNat < 128) = true
  · rw [if_pos h, if_pos h]
    rfl
  · obtain ⟨-, hall⟩ := not_or.1 h
    have hascii : ∀ c ∈ cs, c.toNat < 128 := by
      intro c hc
      exact of_decide_eq_true (List.all_eq_true.1 (not_not.1 hall) c hc)
    rw [if_neg h, if_neg h, cut_of_ascii hascii, cutFrom_of_ascii hascii]
    exact mod97?_eq _

end Word

/-- A text has a remainder exactly if it is of digits and capital letters, and then that of the
number it stands for. With the first four characters moved to the end the same holds of the texts
of four bytes or more. Words of 32 bits give the same answers and no error. -/
theorem remainder_exact :
    (∀ cs, (mod97? cs = none ↔ ∃ c ∈ cs, ¬ IsPlain c) ∧
      (∀ r, mod97? cs = some r ↔ ∃ ds, InDigits cs ds ∧ r = decimal ds % 97) ∧
      Word.mod97? cs = .ok ((mod97? cs).map UInt32.ofNat)) ∧
    ∀ s : String, (remainder? s.toList = none ↔ s.utf8ByteSize < 4 ∨ ∃ c ∈ s.toList, ¬ IsPlain c) ∧
      (∀ r, remainder? s.toList = some r ↔ 4 ≤ s.utf8ByteSize ∧
        ∃ ds, InDigits (s.toList.drop 4 ++ s.toList.take 4) ds ∧ r = decimal ds % 97) ∧
      Word.remainder? s.toList = .ok ((remainder? s.toList).map UInt32.ofNat) := by
  constructor
  · intro cs
    exact ⟨mod97?_eq_none_iff, fun r => mod97?_eq_some_iff, Word.mod97?_eq cs⟩
  · intro s
    rw [← byteLength_toList]
    exact ⟨remainder?_eq_none_iff, fun r => remainder?_eq_some_iff, Word.remainder?_eq s.toList⟩

end FieldFormats.Iban
