import FieldFormats.Currency.Registry
import FieldFormats.Presence
/-! # Checking currency codes

A value is a currency code if it has three characters and is, in upper case, a code of the registry.
-/
namespace FieldFormats.Currency.Registry

/-- Letter case is ignored; blanks around a code are not. -/
def isKnown (r : Registry) (value : String) : Bool :=
  value.length = codeLength && r.contains (String.ofList (value.toList.map Char.toUpper))

def accepts (r : Registry) (value : String) : Bool :=
  Presence.check r.isKnown value

end FieldFormats.Currency.Registry
