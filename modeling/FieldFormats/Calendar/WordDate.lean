import FieldFormats.Calendar.Iso8601
import FieldFormats.Text.Pieces
/-! # Dates in words of 32 bits

The reading of a date once more as a machine can make it: first the parts of a text that has the
shape of a date, then their numbers in words. A numeral that is too large for a word is no number; a
sum or product that is too large is an error of its own and ends the reading.
-/
namespace FieldFormats.Calendar

open FieldFormats.Text

/-- The parts of a text that has the shape of a date, none of them read yet. -/
structure DateParts where
  year : List Char
  month : List Char
  day : List Char
  offset : Option (List Char)
  deriving DecidableEq, Repr

/-- Exactly `n` digits at the front, and what follows them. -/
def takeRun? (n : Nat) (cs : List Char) : Option (List Char × List Char) :=
  let ds := cs.take n
  if ds.length = n ∧ ds.all Char.isDigit then some (ds, cs.drop n) else none

/-- Two or three times two digits with colons between them. -/
def isSpanShape (cs : List Char) : Bool :=
  let parts := pieces ':' cs
  (parts.length = 2 || parts.length = 3) && parts.all fun p => p.length = 2 && p.all Char.isDigit

def isOffsetShape : List Char → Bool
  | ['Z'] => true
  | '+' :: cs => isSpanShape cs
  | '-' :: cs => isSpanShape cs
  | _ => false

def offsetPart? (cs : List Char) : Option (Option (List Char)) :=
  if cs = [] then some none
  else if isOffsetShape cs then some (some cs)
  else none

def dateParts? (cs : List Char) : Option DateParts := do
  let (year, cs) ← takeRun? 4 cs
  let cs ← after? '-' cs
  let (month, cs) ← takeRun? 2 cs
  let cs ← after? '-' cs
  let (day, cs) ← takeRun? 2 cs
  let offset ← offsetPart? cs
  pure ⟨year, month, day, offset⟩

/-- A sum or product that is not the value of any word. -/
structure OutOfRange where
  value : Int
  deriving DecidableEq, Repr

/-- The values of signed words. -/
def FitsWord (n : Int) : Prop :=
  -0x80000000 ≤ n ∧ n < 0x80000000

instance (n : Int) : Decidable (FitsWord n) :=
  inferInstanceAs (Decidable (_ ∧ _))

namespace Word

def add (a b : Int32) : Except OutOfRange Int32 :=
  if FitsWord (a.toInt + b.toInt) then .ok (a + b) else .error ⟨a.toInt + b.toInt⟩

def mul (a b : Int32) : Except OutOfRange Int32 :=
  if FitsWord (a.toInt * b.toInt) then .ok (a * b) else .error ⟨a.toInt * b.toInt⟩

def signed? (ds : List Char) : Option Int32 :=
  (readNumber? 0x80000000 ds).map fun n => .ofInt n

def unsigned? (ds : List Char) : Option UInt32 :=
  (readNumber? 0x100000000 ds).map .ofNat

def total (hours minutes seconds : Int32) : Except OutOfRange Int32 := do
  let hours ← mul hours 3600
  let minutes ← mul minutes 60
  let sum ← add hours minutes
  add sum seconds

/-- Hours, minutes and seconds with a sign, in seconds. Only the minutes and the seconds are looked
at before the sum is made, and only the sum before it gets its sign. -/
def offsetOf (sign hours minutes seconds : Int32) : Except OutOfRange (Option Int32) :=
  if 59 < minutes ∨ 59 < seconds then return none
  else do
    let span ← total hours minutes seconds
    if .ofInt maxOffset < span then return none
    else do
      let offset ← mul sign span
      -- An offset of a day or more would be none.
      return if -86400 < offset ∧ offset < 86400 then some offset else none

def readSpan (sign : Int32) (cs : List Char) : Except OutOfRange (Option Int32) :=
  match (pieces ':' cs).map signed? with
  | [some hours, some minutes] => offsetOf sign hours minutes 0
  | some hours :: some minutes :: some seconds :: _ => offsetOf sign hours minutes seconds
  | _ => return none

def readOffset (cs : List Char) : Except OutOfRange (Option Int32) :=
  match cs with
  | ['Z'] => return some 0
  | '+' :: rest => readSpan 1 rest
  | '-' :: rest => readSpan (-1) rest
  | _ => return none

/-- An offset where one is written. The inner `none` says that there is none. -/
def readOptionalOffset : Option (List Char) → Except OutOfRange (Option (Option Int32))
  | none => return some none
  | some cs => do
    let offset ← readOffset cs
    return offset.map some

def readDate? (parts : DateParts) : Option Date := do
  let year ← signed? parts.year
  let month ← unsigned? parts.month
  let day ← unsigned? parts.day
  Date.of? year.toInt.toNat month.toNat day.toNat

def parseDate (value : String) : Except OutOfRange (Option IsoDate) :=
  match dateParts? value.toList with
  | none => return none
  | some parts =>
    match readDate? parts with
    | none => return none
    | some date => do
      let offset ← readOptionalOffset parts.offset
      return offset.map fun o => ⟨date, o.map Int32.toInt⟩

end Word

end FieldFormats.Calendar
