import FieldFormats.Iban.Grammar
import FieldFormats.Text.Bytes
/-! # Check digits

ISO 7064 MOD 97-10. Letters stand for two digits, A for 10 to Z for 35; an IBAN is valid if the
numeral that its characters make, with the first four moved to the end, leaves 1 modulo 97. The
remainder is carried along character by character, so numerals may have any length.
-/
namespace FieldFormats.Iban

open FieldFormats.Text

def modulus : Nat := 97

/-- The remainder that a valid IBAN leaves. -/
def validRemainder : Nat := 1

/-- The value of a digit or an upper case letter. -/
def valueOf? (c : Char) : Option Nat :=
  if c.isDigit then some (c.toNat - '0'.toNat)
  else if c.isUpper then some (c.toNat - 'A'.toNat + 10)
  else none

/-- The remainder of a numeral continued by one value: two digits for a letter, else one. -/
def appendValue (remainder value : Nat) : Nat :=
  if 10 ≤ value then (remainder * 100 + value) % modulus else (remainder * 10 + value) % modulus

/-- The remainder of what follows a numeral with remainder `r`. -/
def mod97From (r : Nat) : List Char → Option Nat
  | [] => some r
  | c :: cs =>
    match valueOf? c with
    | some v => mod97From (appendValue r v) cs
    | none => none

/-- The remainder of a text's numeral, if each of its characters has a value. -/
def mod97? (cs : List Char) : Option Nat :=
  mod97From 0 cs

/-- The remainder with the first four characters moved to the end. -/
def remainder? (cs : List Char) : Option Nat :=
  if byteLength cs < headLength ∨ ¬ cs.all (·.toNat < 128) then none
  else mod97? (cs.drop headLength ++ cs.take headLength)

def hasValidChecksum (cs : List Char) : Bool :=
  remainder? cs = some validRemainder

/-- What to write between a country code and a BBAN so that the whole is valid, as a number of
two digits: 98 less the remainder of the BBAN, the code and two zeros. -/
def checkDigits? (country bban : List Char) : Option Nat :=
  if country.length = 2 ∧ country.all Char.isUpper then
    (mod97? (bban ++ country ++ ['0', '0'])).map (98 - ·)
  else none

theorem appendValue_lt (r v : Nat) : appendValue r v < modulus := by
  unfold appendValue
  split <;> exact Nat.mod_lt _ (by decide)

end FieldFormats.Iban
