import FieldFormats.Presence
/-! # Phone numbers

Numbers in the notation of ITU E.123, of which only digits and spaces are allowed, and MSISDNs,
which are such numbers with a fixed beginning.
-/
namespace FieldFormats.Phone

/-- The country code and first digit of mobile numbers in the Netherlands. -/
def defaultStart : String := "316"

def isDigitsAndSpaces (value : String) : Bool :=
  value.toList.all fun c => c.isDigit || c = ' '

def isE123 (value : String) : Bool :=
  Presence.check isDigitsAndSpaces value

/-- Whether the value is empty or a number that begins with `start`, read as it is written. -/
def isMsisdn (start value : String) : Bool :=
  value = "" || (isE123 value && start.toList.isPrefixOf value.toList)

end FieldFormats.Phone
