import FieldFormats.Alpha3
import FieldFormats.Calendar.Temporal
import FieldFormats.OneOf
import FieldFormats.Phone
/-! # Checks without tables

The checks whose verdict is a matter of the value alone, or of the value and a clock. None of them
looks at reference tables. The one that goes by the day of its clock fails where the clock shows
none.
-/
namespace FieldFormats

inductive PlainCheck where
  | alpha3
  | e123
  | msisdn (start : String)
  | date
  | dateTime
  | future (clock : Calendar.Clock)
  | past (clock : Calendar.Clock)
  | pastOrPresent (clock : Calendar.Clock)
  | oneOf (permitted : OneOf)
  deriving DecidableEq, Repr

def PlainCheck.verdict (c : PlainCheck) (value : String) : Except Calendar.ClockFault Bool :=
  match c with
  | alpha3 => .ok (Alpha3.accepts value)
  | e123 => .ok (Phone.isE123 value)
  | msisdn start => .ok (Phone.isMsisdn start value)
  | date => .ok (Calendar.isDate value)
  | dateTime => .ok (Calendar.isDateTime value)
  | future clock => .ok (Calendar.isFuture clock value)
  | past clock => .ok (Calendar.isPast clock value)
  | pastOrPresent clock => Calendar.isPastOrPresent clock value
  | oneOf permitted => .ok (permitted.accepts value)

end FieldFormats
