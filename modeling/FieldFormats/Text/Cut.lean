import FieldFormats.Text.Bytes
import FieldFormats.Text.Quoted
/-! # Cuts at byte offsets

Parts of a text between two byte offsets of its UTF-8 form. A cut that would fall inside a character
is an error that names the character.
-/
namespace FieldFormats.Text

/-- The place of a cut inside a character. -/
structure BadCut where
  /-- Whether it is the end of the part that falls inside, and not its start. -/
  atEnd : Bool
  offset : Nat
  character : Char
  first : Nat
  deriving DecidableEq, Repr

def BadCut.message (b : BadCut) : String :=
  let side := if b.atEnd then "end" else "start"
  let shown := String.ofList (escape b.character)
  let last := b.first + b.character.utf8Size
  s!"{side} byte index {b.offset} is not a char boundary; it is inside '{shown}' " ++
    s!"(bytes {b.first}..{last} of string)"

/-- The character that an offset falls inside of, and its own offset. `first` is the offset of the
text. -/
def characterAround? (offset first : Nat) : List Char → Option (Char × Nat)
  | [] => none
  | c :: cs =>
    if offset ≤ first then none
    else if offset < first + c.utf8Size then some (c, first)
    else characterAround? offset (first + c.utf8Size) cs

def before (offset : Nat) : List Char → List Char
  | [] => []
  | c :: cs => if offset = 0 then [] else c :: before (offset - c.utf8Size) cs

def behind (offset : Nat) : List Char → List Char
  | [] => []
  | c :: cs => if offset = 0 then c :: cs else behind (offset - c.utf8Size) cs

/-- The part between two offsets. The start is looked at first. -/
def cut (start stop : Nat) (cs : List Char) : Except BadCut (List Char) :=
  match characterAround? start 0 cs, characterAround? stop 0 cs with
  | some (c, first), _ => .error ⟨false, start, c, first⟩
  | none, some (c, first) => .error ⟨true, stop, c, first⟩
  | none, none => .ok (behind start (before stop cs))

def cutFrom (start : Nat) (cs : List Char) : Except BadCut (List Char) :=
  cut start (byteLength cs) cs

end FieldFormats.Text
