import FieldFormats.Files
import FieldFormats.Text.Numeral
/-! # Load errors

What can be wrong with the reference tables. All of it is found while they are loaded, none while
a value is checked.
-/
namespace FieldFormats

/-- The columns whose content is checked. -/
inductive Column where
  | length | countryCode | currencyCode | numericCode
  deriving DecidableEq, Repr

def Column.name : Column → String
  | length => "length"
  | countryCode => "country code"
  | currencyCode => "currency code"
  | numericCode => "numeric code"

/-- A key that two rows of a table share. The numeric code of a currency is reported together
with the currencies that claim it. -/
inductive SharedKey where
  | country (code : String)
  | currency (code : String)
  | numeric (number : Nat) (code existing : String)
  deriving DecidableEq, Repr

def SharedKey.text : SharedKey → String
  | country code => code
  | currency code => code
  | numeric number _ _ => String.ofList (Text.padded 3 number)

inductive LoadError where
  | directoryNotFound (path : String)
  | unreadable (path : String) (fault : FileFault)
  | fieldCount (table : String) (line expected found : Nat)
  | invalidValue (table : String) (line : Nat) (column : Column) (value : String)
  | invalidToken (token grammar : String)
  | unknownClass (letter : Char) (grammar : String)
  | lengthMismatch (country : String) (declared implied : Nat)
  | duplicateKey (table : String) (line : Nat) (key : SharedKey)
  | emptyTable (table : String)
  | malformedPattern (country : String)
  deriving DecidableEq, Repr

/-- The wording of an error. -/
def LoadError.message : LoadError → String
  | directoryNotFound path => s!"Reference data directory not found: {path}"
  | unreadable path fault => s!"Failed to read {path}: {fault.message}"
  | fieldCount table line expected found =>
    s!"{table} line {line}: expected {expected} fields, found {found}"
  | invalidValue table line column value =>
    s!"{table} line {line}: invalid {column.name} value '{value}'"
  | invalidToken token grammar => s!"Invalid BBAN format token '{token}' in '{grammar}'"
  | unknownClass letter grammar => s!"Unknown BBAN character class '{letter}' in '{grammar}'"
  | lengthMismatch country declared implied =>
    s!"IBAN format for {country} declares length {declared}, grammar implies {implied}"
  | duplicateKey table line key => s!"Duplicate key '{key.text}' in {table} (line {line})"
  | emptyTable table => s!"Table {table} contains no definitions"
  | malformedPattern country => s!"Failed to compile IBAN pattern for {country}"

end FieldFormats
