import FieldFormats.Iban.CheckDigits
import FieldFormats.Text.Cut
/-! # The remainder in words of 32 bits

The check once more as a machine can make it: in words, whose sums and products may be too large and
whose differences may be below zero, and on the bytes of a text, where a cut may fall inside a
character. Each of these is an error here and ends the check.
-/
namespace FieldFormats.Iban

open FieldFormats.Text

inductive WordError where
  | tooLarge
  | belowZero
  | badCut (cut : BadCut)
  deriving DecidableEq, Repr

namespace Word

def add (a b : UInt32) : Except WordError UInt32 :=
  if a.toNat + b.toNat < UInt32.size then .ok (a + b) else .error .tooLarge

def mul (a b : UInt32) : Except WordError UInt32 :=
  if a.toNat * b.toNat < UInt32.size then .ok (a * b) else .error .tooLarge

def sub (a b : UInt32) : Except WordError UInt32 :=
  if b ≤ a then .ok (a - b) else .error .belowZero

/-- The value of a digit or an upper case letter. -/
def valueOf? (c : Char) : Except WordError (Option UInt32) :=
  if c.isDigit then do
    let value ← sub c.val '0'.val
    return some value
  else if c.isUpper then do
    let place ← sub c.val 'A'.val
    let value ← add place 10
    return some value
  else
    return none

/-- The remainder of a numeral continued by one value. -/
def appendValue (remainder value : UInt32) : Except WordError UInt32 :=
  if 10 ≤ value then do
    let shifted ← mul remainder 100
    let sum ← add shifted value
    return sum % UInt32.ofNat modulus
  else do
    let shifted ← mul remainder 10
    let sum ← add shifted value
    return sum % UInt32.ofNat modulus

def mod97From (r : UInt32) : List Char → Except WordError (Option UInt32)
  | [] => return some r
  | c :: cs => do
    match ← valueOf? c with
    | some v =>
      let r ← appendValue r v
      mod97From r cs
    | none => return none

def mod97? (cs : List Char) : Except WordError (Option UInt32) :=
  mod97From 0 cs

/-- A part of a text, if it could be cut out. -/
def part (cut : Except BadCut (List Char)) : Except WordError (List Char) :=
  cut.mapError .badCut

/-- The remainder with the first four bytes moved to the end. -/
def remainder? (cs : List Char) : Except WordError (Option UInt32) :=
  if byteLength cs < headLength ∨ ¬ cs.all (·.toNat < 128) then
    return none
  else do
    let head ← part (cut 0 headLength cs)
    let tail ← part (cutFrom headLength cs)
    mod97? (tail ++ head)

end Word

end FieldFormats.Iban
