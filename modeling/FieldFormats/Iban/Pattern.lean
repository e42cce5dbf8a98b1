import FieldFormats.Iban.Grammar
import FieldFormats.Pattern.Notation
/-! # Patterns of IBANs

The pattern of a country's IBANs: the whole text is the country code, two check digits, and for each
token of the grammar as many characters of its class as it says.
-/
namespace FieldFormats.Iban

open FieldFormats.Text

namespace CharClass

/-- The class in brackets. -/
def bracketed : CharClass → List Char
  | digit => ['[', '0', '-', '9', ']']
  | upper => ['[', 'A', '-', 'Z', ']']
  | alphanumeric => ['[', 'A', '-', 'Z', '0', '-', '9', ']']

end CharClass

/-- What is in front of it so many times: a count in braces. -/
def repeated (n : Nat) : List Char :=
  '\x7b' :: numeral n ++ ['\x7d']

namespace Grammar

/-- The pattern of a country's IBANs as text. The country code goes in as it is. -/
def pattern (g : Grammar) (country : List Char) : List Char :=
  '^' :: country ++ CharClass.digit.bracketed ++ repeated 2 ++
    g.tokens.flatMap (fun t => t.charClass.bracketed ++ repeated t.count) ++ ['$']

/-- Refuses country codes that make no pattern. -/
def compile (g : Grammar) (country : String) : Except LoadError Pattern :=
  match Pattern.compile? (g.pattern country.toList) with
  | some p => .ok p
  | none => .error (.malformedPattern country)

end Grammar

end FieldFormats.Iban
