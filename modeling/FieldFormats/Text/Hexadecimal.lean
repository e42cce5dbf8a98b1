/-! # Hexadecimal numerals

Natural numbers in the digits 0 to 9 and A to F, in either letter case.
-/
namespace FieldFormats.Text

def hexValue? (c : Char) : Option Nat :=
  if c.isDigit then some (c.toNat - '0'.toNat)
  else if 'a' ≤ c ∧ c ≤ 'f' then some (c.toNat - 'a'.toNat + 10)
  else if 'A' ≤ c ∧ c ≤ 'F' then some (c.toNat - 'A'.toNat + 10)
  else none

def hexDigit (n : Nat) : Char :=
  if n < 10 then Char.ofNat ('0'.toNat + n) else Char.ofNat ('a'.toNat + (n - 10))

def hexadecimalFrom (start : Nat) : List Char → Option Nat
  | [] => some start
  | c :: cs =>
    match hexValue? c with
    | some d => hexadecimalFrom (16 * start + d) cs
    | none => none

def hexadecimal? (cs : List Char) : Option Nat :=
  if cs = [] then none else hexadecimalFrom 0 cs

end FieldFormats.Text
