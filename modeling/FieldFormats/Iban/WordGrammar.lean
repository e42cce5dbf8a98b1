import FieldFormats.Iban.Grammar
/-! # Grammars in words of 64 bits

The reading of a grammar once more as a machine can make it. Counts are words, and so is their sum
so far. A numeral that is too large for a word is no count, as any other that is too large; a sum
that is too large for a word is an error of its own and ends the reading.
-/
namespace FieldFormats.Iban

open FieldFormats.Text

inductive GrammarFault where
  | refused (e : LoadError)
  | sumTooLarge
  deriving DecidableEq, Repr

structure WordToken where
  count : UInt64
  charClass : CharClass
  deriving DecidableEq, Repr

def Token.inWord (t : Token) : WordToken :=
  ⟨.ofNat t.count, t.charClass⟩

namespace Word

def addCount (a b : UInt64) : Except GrammarFault UInt64 :=
  if a.toNat + b.toNat < UInt64.size then .ok (a + b) else .error .sumTooLarge

/-- The numeral of a word continued by digits, as long as a word holds it. -/
def appendDigits? (value : UInt64) : List Char → Option UInt64
  | [] => some value
  | c :: cs =>
    let digit := c.toNat - '0'.toNat
    if value.toNat * 10 + digit < UInt64.size then
      appendDigits? (value * 10 + .ofNat digit) cs
    else none

def readToken (source : String) (piece : List Char) : Except LoadError WordToken :=
  let invalid := .error (.invalidToken (String.ofList piece) source)
  let digits := piece.takeWhile Char.isDigit
  match piece.dropWhile Char.isDigit with
  | [letter] =>
    if digits = [] then invalid
    else match appendDigits? 0 digits with
      | none => invalid
      | some count =>
        if count = 0 ∨ UInt64.ofNat maxBbanLength < count then invalid
        else match CharClass.ofLetter? letter with
          | some k => .ok ⟨count, k⟩
          | none => .error (.unknownClass letter source)
  | _ => invalid

def readTokens (source : String) (used : UInt64) :
    List (List Char) → Except GrammarFault (List WordToken)
  | [] => .ok []
  | piece :: rest => do
    let t ← (readToken source piece).mapError .refused
    let used ← addCount used t.count
    if UInt64.ofNat maxBbanLength < used then
      .error (.refused (.invalidToken (String.ofList piece) source))
    else do
      let ts ← readTokens source used rest
      return t :: ts

/-- The tokens of a grammar. -/
def parse (source : String) : Except GrammarFault (List WordToken) :=
  readTokens source 0 (pieces ',' source.toList)

end Word

end FieldFormats.Iban
