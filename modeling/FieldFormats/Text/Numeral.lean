/-! # Decimal numerals

Natural numbers in ASCII digits: reading with a bound or with a fixed number of digits, writing
with leading zeros. What is written reads back.
-/
namespace FieldFormats.Text

/-- The number that a run of digits denotes; leading zeros count for nothing. -/
def decimal (ds : List Char) : Nat :=
  Nat.ofDigitChars 10 ds 0

/-- A number below `bound`: an optional plus sign, then one or more digits and nothing else. -/
def readNumber? (bound : Nat) (cs : List Char) : Option Nat :=
  let ds := match cs with
    | '+' :: rest => rest
    | rest => rest
  if ds ≠ [] ∧ ds.all Char.isDigit ∧ decimal ds < bound then some (decimal ds) else none

/-- Exactly `n` digits at the front, their value, and what follows them. -/
def takeDigits? (n : Nat) (cs : List Char) : Option (Nat × List Char) :=
  let ds := cs.take n
  if ds.length = n ∧ ds.all Char.isDigit then some (decimal ds, cs.drop n) else none

def numeral (n : Nat) : List Char :=
  Nat.toDigits 10 n

/-- The numeral of `n`, filled up with zeros on the left to at least `width` digits. -/
def padded (width n : Nat) : List Char :=
  List.replicate (width - (numeral n).length) '0' ++ numeral n

theorem numeral_ne_nil (n : Nat) : numeral n ≠ [] :=
  Nat.toDigits_ne_nil

theorem isDigit_of_mem_numeral {n : Nat} {c : Char} (h : c ∈ numeral n) : c.isDigit = true :=
  Nat.isDigit_of_mem_toDigits (by decide) (by decide) h

theorem decimal_numeral (n : Nat) : decimal (numeral n) = n :=
  Nat.ofDigitChars_ten_toDigits

theorem isDigit_of_mem_padded {width n : Nat} {c : Char} (h : c ∈ padded width n) :
    c.isDigit = true := by
  rcases List.mem_append.1 h with h | h
  · rw [(List.mem_replicate.1 h).2]
    rfl
  · exact isDigit_of_mem_numeral h

theorem decimal_padded (width n : Nat) : decimal (padded width n) = n := by
  rw [decimal, padded, Nat.ofDigitChars_append, Nat.ofDigitChars_replicate_zero, Nat.mul_zero]
  exact decimal_numeral n

theorem length_padded {width n : Nat} (hw : 0 < width) (h : n < Nat.pow 10 width) :
    (padded width n).length = width := by
  have : (numeral n).length ≤ width := (Nat.length_toDigits_le_iff (by decide) hw).2 h
  simp only [padded, List.length_append, List.length_replicate]
  omega

end FieldFormats.Text
