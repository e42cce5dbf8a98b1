/-! # Sizes and cuts in UTF-8 bytes

Lengths of identifiers are counted in bytes; a cut that would fall inside a character fails.
-/
namespace FieldFormats.Text

def byteLength : List Char → Nat
  | [] => 0
  | c :: cs => c.utf8Size + byteLength cs

/-- The first `n` bytes, if there are as many and they end between two characters. -/
def takeBytes? (n : Nat) : List Char → Option (List Char)
  | [] => if n = 0 then some [] else none
  | c :: cs =>
    if n = 0 then some []
    else if c.utf8Size ≤ n then (takeBytes? (n - c.utf8Size) cs).map (c :: ·)
    else none

theorem length_le_byteLength (cs : List Char) : cs.length ≤ byteLength cs := by
  induction cs with
  | nil => simp
  | cons c cs ih =>
    have := Char.utf8Size_pos c
    rw [byteLength, List.length_cons]
    omega

end FieldFormats.Text
