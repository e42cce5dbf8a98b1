import FieldFormats.Iban.CheckDigits
import FieldFormats.Iban.Pattern
import FieldFormats.Text.Bytes
/-! # IBAN formats

What a country's IBANs look like: their length, the grammar of the BBAN and the compiled pattern
of the whole.
-/
namespace FieldFormats.Iban

open FieldFormats.Text

structure Format where
  country : String
  /-- The key under which the format is found, such as `NL`. -/
  countryCode : String
  length : Nat
  grammar : Grammar
  /-- A layout for people to read, such as `NLkk bbbb cccc cccc cc`. -/
  fields : String
  pattern : Pattern
  deriving DecidableEq, Repr

namespace Format

/-- A format whose declared length is the one that its grammar implies. -/
def make (country countryCode : String) (length : Nat) (grammar : Grammar) (fields : String) :
    Except LoadError Format :=
  if grammar.ibanLength ≠ length then
    .error (.lengthMismatch countryCode length grammar.ibanLength)
  else match grammar.compile countryCode with
    | .error e => .error e
    | .ok pattern => .ok ⟨country, countryCode, length, grammar, fields, pattern⟩

def hasLength (f : Format) (candidate : List Char) : Bool :=
  byteLength candidate = f.length

def fitsPattern (f : Format) (candidate : List Char) : Bool :=
  f.pattern.accepts candidate

/-- Length, pattern and checksum of a candidate in upper case without separators. -/
def accepts (f : Format) (candidate : List Char) : Bool :=
  f.hasLength candidate && f.fitsPattern candidate && hasValidChecksum candidate

end Format

end FieldFormats.Iban
