import FieldFormats.LoadError
import FieldFormats.Text.Numeral
import FieldFormats.Text.Pieces
/-! # BBAN grammars

A grammar describes the part of an IBAN after country code and check digits. It is a comma
separated list of tokens, each a count and the letter of a character class, such as `4a,10n`.
-/
namespace FieldFormats.Iban

open FieldFormats.Text

/-- Country code and check digits together. -/
def headLength : Nat := 4

/-- The longest IBAN that ISO 13616 allows. -/
def maxLength : Nat := 34

def maxBbanLength : Nat := maxLength - headLength

inductive CharClass where
  | digit | upper | alphanumeric
  deriving DecidableEq, Repr

namespace CharClass

def letter : CharClass → Char
  | digit => 'n'
  | upper => 'a'
  | alphanumeric => 'c'

def ofLetter? : Char → Option CharClass
  | 'n' => some digit
  | 'a' => some upper
  | 'c' => some alphanumeric
  | _ => none

/-- The characters of a class as ranges, ends included. -/
def ranges : CharClass → List (Char × Char)
  | digit => [('0', '9')]
  | upper => [('A', 'Z')]
  | alphanumeric => [('A', 'Z'), ('0', '9')]

def admits : CharClass → Char → Bool
  | digit, c => c.isDigit
  | upper, c => c.isUpper
  | alphanumeric, c => c.isUpper || c.isDigit

theorem ofLetter?_letter (k : CharClass) : ofLetter? k.letter = some k := by
  cases k <;> rfl

theorem letter_of_ofLetter? {c : Char} {k : CharClass} (h : ofLetter? c = some k) :
    k.letter = c := by
  unfold ofLetter? at h
  split at h <;> cases h <;> rfl

end CharClass

/-- `count` characters of one class. -/
structure Token where
  count : Nat
  charClass : CharClass
  deriving DecidableEq, Repr

def Token.text (t : Token) : List Char :=
  numeral t.count ++ [t.charClass.letter]

structure Grammar where
  /-- The text as it was written. -/
  source : String
  tokens : List Token
  deriving DecidableEq, Repr

namespace Grammar

/-- One token: digits for 1 to 30, then exactly one letter. Counts are checked before letters. -/
def readToken (source : String) (piece : List Char) : Except LoadError Token :=
  let digits := piece.takeWhile Char.isDigit
  match piece.dropWhile Char.isDigit with
  | [letter] =>
    if digits = [] ∨ decimal digits = 0 ∨ maxBbanLength < decimal digits then
      .error (.invalidToken (String.ofList piece) source)
    else match CharClass.ofLetter? letter with
      | some k => .ok ⟨decimal digits, k⟩
      | none => .error (.unknownClass letter source)
  | _ => .error (.invalidToken (String.ofList piece) source)

/-- The tokens of pieces in order, when `used` characters are already described. The piece that
exceeds the longest BBAN is reported like a malformed one. -/
def readTokens (source : String) (used : Nat) : List (List Char) → Except LoadError (List Token)
  | [] => .ok []
  | piece :: rest =>
    match readToken source piece with
    | .error e => .error e
    | .ok t =>
      if maxBbanLength < used + t.count then
        .error (.invalidToken (String.ofList piece) source)
      else match readTokens source (used + t.count) rest with
        | .error e => .error e
        | .ok ts => .ok (t :: ts)

def parse (source : String) : Except LoadError Grammar :=
  match readTokens source 0 (pieces ',' source.toList) with
  | .error e => .error e
  | .ok ts => .ok ⟨source, ts⟩

/-- How many characters tokens describe. -/
def totalCount : List Token → Nat
  | [] => 0
  | t :: ts => t.count + totalCount ts

def width (g : Grammar) : Nat :=
  totalCount g.tokens

def ibanLength (g : Grammar) : Nat :=
  headLength + g.width

/-- The class of each position in turn. -/
def positions (g : Grammar) : List CharClass :=
  g.tokens.flatMap fun t => List.replicate t.count t.charClass

/-- Tokens in the notation that `parse` reads. -/
def render (ts : List Token) : List Char :=
  joined ',' (ts.map Token.text)

theorem count_le_totalCount {ts : List Token} {t : Token} (h : t ∈ ts) :
    t.count ≤ totalCount ts := by
  induction ts with
  | nil => simp at h
  | cons u ts ih =>
    rw [totalCount]
    rcases List.mem_cons.1 h with rfl | h
    · omega
    · have := ih h
      omega

theorem length_positions (g : Grammar) : g.positions.length = g.width := by
  unfold positions width
  induction g.tokens with
  | nil => rfl
  | cons t ts ih => simp [totalCount, ih]

end Grammar

end FieldFormats.Iban
