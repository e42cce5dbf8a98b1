import FieldFormats.Text.Hexadecimal
import FieldFormats.Text.Pieces
/-! # Ranges of code points

Sets of characters as ascending ranges of code points, written as hexadecimal numerals: `41-5A B5`
is the range from U+0041 to U+005A and U+00B5.
-/
namespace FieldFormats.Text

structure Ranges where
  bounds : List (Nat × Nat)
  deriving DecidableEq, Repr

namespace Ranges

/-- One range: a numeral alone, or two with a dash between them. -/
def readRange? (cs : List Char) : Option (Nat × Nat) :=
  match pieces '-' cs with
  | [first] => (hexadecimal? first).map fun n => (n, n)
  | [first, last] =>
    match hexadecimal? first, hexadecimal? last with
    | some m, some n => some (m, n)
    | _, _ => none
  | _ => none

/-- The ranges of lines of a table, which spaces keep apart. -/
def ofLines (lines : List String) : Ranges :=
  ⟨lines.flatMap fun line => (pieces ' ' line.toList).filterMap readRange?⟩

/-- Looks for a code point up to the first range that begins after it. -/
def holds (n : Nat) : List (Nat × Nat) → Bool
  | [] => false
  | (first, last) :: rest => if n < first then false else n ≤ last || holds n rest

def contains (r : Ranges) (c : Char) : Bool :=
  holds c.toNat r.bounds

end Ranges

end FieldFormats.Text
