import FieldFormats.Iban.CheckDigits
import FieldFormats.Proofs.AsciiText
import Mathlib.Data.Nat.ModEq
/-! # The numeral behind the check digits

The check carries a remainder from character to character. Here stands the natural number, as long
as the text makes it, whose remainder that is. -/
namespace FieldFormats.Iban

open FieldFormats.Text

/-- The decimal digits that a text stands for: its digits, and two digits for each letter. -/
def digitsOf (cs : List Char) : List Char :=
  cs.flatMap fun c => numeral ((valueOf? c).getD 0)

def wideNumeral (cs : List Char) : ℕ :=
  decimal (digitsOf cs)

theorem digitsOf_cons (c : Char) (cs : List Char) :
    digitsOf (c :: cs) = numeral ((valueOf? c).getD 0) ++ digitsOf cs :=
  List.flatMap_cons

theorem valueOf?_of_isDigit {c : Char} (h : c.isDigit = true) :
    valueOf? c = some (c.toNat - 48) :=
  if_pos h

theorem valueOf?_of_isUpper {c : Char} (h : c.isUpper = true) :
    valueOf? c = some (c.toNat - 65 + 10) := by
  have hletter := toNat_of_isUpper h
  have hdigit : ¬ c.isDigit = true := by
    intro hdigit
    have := toNat_of_isDigit hdigit
    omega
  rw [valueOf?, if_neg hdigit, if_pos h]
  rfl

theorem valueOf?_of_isPlain {c : Char} (h : IsPlain c) : ∃ v, valueOf? c = some v ∧ v < 36 := by
  rcases h with hupper | hdigit
  · have := toNat_of_isUpper hupper
    exact ⟨_, valueOf?_of_isUpper hupper, by omega⟩
  · have := toNat_of_isDigit hdigit
    exact ⟨_, valueOf?_of_isDigit hdigit, by omega⟩

theorem length_numeral_of_lt_ten {v : ℕ} (h : v < 10) : (numeral v).length = 1 := by
  rw [numeral, Nat.toDigits_of_lt_base h]
  rfl

theorem length_numeral_of_lt_hundred {v : ℕ} (h : 10 ≤ v) (hv : v < 100) :
    (numeral v).length = 2 := by
  have hle : (numeral v).length ≤ 2 := (Nat.length_toDigits_le_iff (by decide) (by decide)).2 hv
  have hgt : ¬ (numeral v).length ≤ 1 := by
    intro hone
    have := (Nat.length_toDigits_le_iff (by decide) (by decide)).1 hone
    omega
  omega

theorem ofDigitChars_numeral (n v : ℕ) :
    Nat.ofDigitChars 10 (numeral v) n = 10 ^ (numeral v).length * n + v := by
  rw [Nat.ofDigitChars_eq_ofDigitChars_zero]
  exact congrArg _ (decimal_numeral v)

theorem appendValue_mod {v : ℕ} (hv : v < 100) (n : ℕ) :
    appendValue (n % modulus) v = Nat.ofDigitChars 10 (numeral v) n % modulus := by
  rw [ofDigitChars_numeral]
  unfold appendValue modulus
  by_cases h : 10 ≤ v
  · rw [if_pos h, length_numeral_of_lt_hundred h hv]
    omega
  · rw [if_neg h, length_numeral_of_lt_ten (by omega)]
    omega

/-- What is carried along is the remainder of the numeral so far. -/
theorem mod97From_mod {cs : List Char} (h : ∀ c ∈ cs, IsPlain c) (n : ℕ) :
    mod97From (n % modulus) cs = some (Nat.ofDigitChars 10 (digitsOf cs) n % modulus) := by
  -- On the text; the remainder carried in is that of any number, not of the empty numeral only.
  induction cs generalizing n with
  | nil => rfl
  | cons c cs ih =>
    obtain ⟨hc, hcs⟩ := List.forall_mem_cons.1 h
    obtain ⟨v, hv, hlt⟩ := valueOf?_of_isPlain hc
    have hd : digitsOf (c :: cs) = numeral v ++ digitsOf cs := by
      rw [digitsOf_cons, hv]
      rfl
    simp only [mod97From, hv]
    rw [appendValue_mod (by omega), ih hcs, hd, Nat.ofDigitChars_append]

theorem mod97?_of_isPlain {cs : List Char} (h : ∀ c ∈ cs, IsPlain c) :
    mod97? cs = some (wideNumeral cs % modulus) :=
  mod97From_mod h 0

theorem isPlain_of_valueOf? {c : Char} {v : ℕ} (h : valueOf? c = some v) : IsPlain c := by
  unfold valueOf? at h
  split at h
  · next hdigit => exact Or.inr hdigit
  · split at h
    · next hupper => exact Or.inl hupper
    · cases h

theorem valueOf?_lt {c : Char} {v : ℕ} (h : valueOf? c = some v) : v < 36 := by
  obtain ⟨w, hw, hlt⟩ := valueOf?_of_isPlain (isPlain_of_valueOf? h)
  rw [h] at hw
  cases hw
  exact hlt

theorem mod97From_eq_none {cs : List Char} (h : ¬ ∀ c ∈ cs, IsPlain c) (r : ℕ) :
    mod97From r cs = none := by
  induction cs generalizing r with
  | nil => simp at h
  | cons c cs ih =>
    simp only [mod97From]
    cases hv : valueOf? c with
    | none => rfl
    | some v => exact ih (fun hcs => h (List.forall_mem_cons.2 ⟨isPlain_of_valueOf? hv, hcs⟩)) _

theorem digitsOf_append (cs ds : List Char) : digitsOf (cs ++ ds) = digitsOf cs ++ digitsOf ds :=
  List.flatMap_append

theorem numeral_valueOf_of_isDigit {c : Char} (h : c.isDigit = true) :
    numeral ((valueOf? c).getD 0) = [c] := by
  have hc := toNat_of_isDigit h
  have hv : (valueOf? c).getD 0 = c.toNat - 48 := by
    rw [valueOf?_of_isDigit h]
    rfl
  have hlt : c.toNat - 48 < 10 := by omega
  rw [hv, numeral, Nat.toDigits_of_lt_base hlt]
  congr 1
  apply Char.toNat_inj.1
  rw [Nat.toNat_digitChar_of_lt_ten hlt]
  omega

/-- Digits stand for themselves. -/
theorem digitsOf_of_isDigit {cs : List Char} (h : ∀ c ∈ cs, c.isDigit = true) :
    digitsOf cs = cs := by
  induction cs with
  | nil => rfl
  | cons c cs ih =>
    obtain ⟨hc, hcs⟩ := List.forall_mem_cons.1 h
    rw [digitsOf_cons, numeral_valueOf_of_isDigit hc, ih hcs]
    rfl

theorem wideNumeral_append (cs ds : List Char) :
    wideNumeral (cs ++ ds) = 10 ^ (digitsOf ds).length * wideNumeral cs + wideNumeral ds := by
  rw [wideNumeral, digitsOf_append, decimal, Nat.ofDigitChars_append,
    Nat.ofDigitChars_eq_ofDigitChars_zero]
  rfl

theorem wideNumeral_append_check (cs : List Char) {check : List Char} (hlength : check.length = 2)
    (hdigits : ∀ c ∈ check, c.isDigit = true) :
    wideNumeral (cs ++ check) = 100 * wideNumeral cs + decimal check := by
  rw [wideNumeral_append, wideNumeral, wideNumeral, digitsOf_of_isDigit hdigits, hlength]
  rfl

/-- A text with its first four characters at the end, as the check reads it. -/
def rotated (cs : List Char) : List Char :=
  cs.drop headLength ++ cs.take headLength

theorem mem_rotated_iff {cs : List Char} {c : Char} : c ∈ rotated cs ↔ c ∈ cs := by
  rw [rotated, List.mem_append, or_comm, ← List.mem_append, List.take_append_drop]

theorem length_rotated (cs : List Char) : (rotated cs).length = cs.length := by
  rw [rotated, List.length_append, Nat.add_comm, ← List.length_append, List.take_append_drop]

theorem remainder?_of_isPlain {cs : List Char} (hl : headLength ≤ cs.length)
    (h : ∀ c ∈ cs, IsPlain c) : remainder? cs = some (wideNumeral (rotated cs) % modulus) := by
  have hascii : ∀ c ∈ cs, c.toNat < 128 := fun c hc => (h c hc).ascii
  have hlong : ¬ byteLength cs < headLength := by
    rw [byteLength_of_ascii hascii]
    omega
  have hall : cs.all (·.toNat < 128) = true :=
    List.all_eq_true.2 fun c hc => decide_eq_true (hascii c hc)
  have hrotated : ∀ c ∈ rotated cs, IsPlain c := fun c hc => h c (mem_rotated_iff.1 hc)
  rw [remainder?, if_neg (not_or.2 ⟨hlong, not_not.2 hall⟩)]
  exact mod97?_of_isPlain hrotated

theorem hasValidChecksum_iff {head tail : List Char} (hl : head.length = headLength)
    (hhead : ∀ c ∈ head, IsPlain c) (htail : ∀ c ∈ tail, IsPlain c) :
    hasValidChecksum (head ++ tail) = true ↔ wideNumeral (tail ++ head) % modulus = 1 := by
  have hlong : headLength ≤ (head ++ tail).length := by
    rw [List.length_append]
    omega
  have hremainder := remainder?_of_isPlain hlong (List.forall_mem_append.2 ⟨hhead, htail⟩)
  rw [rotated, ← hl, List.drop_left, List.take_left] at hremainder
  rw [hasValidChecksum, hremainder, decide_eq_true_eq, Option.some.injEq]
  rfl

end FieldFormats.Iban
