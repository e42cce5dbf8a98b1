import FieldFormats.Calendar.Iso8601
import FieldFormats.Calendar.Moment
/-! # Before and after now

ISO 8601 values compared with a clock. A value without an offset is read at the clock's. Instants
are compared at offset zero; days are those that the clock itself shows, which it may fail to do.
-/
namespace FieldFormats.Calendar

open FieldFormats.Text

/-- A clock that stands: the moment that clocks at offset zero show, and how many seconds east of
UTC this one stands. -/
structure Clock where
  now : Moment
  offset : Int
  deriving DecidableEq, Repr

/-- What keeps a clock from showing a day: its offset leads out of the calendar. -/
inductive ClockFault where
  | localTimeOutOfRange
  deriving DecidableEq, Repr

def ClockFault.message : ClockFault → String
  | localTimeOutOfRange => "Local time out of range for \x60NaiveDateTime\x60"

namespace Clock

/-- The day at the clock's offset, in the calendar or past its ends. -/
def localDay (c : Clock) : Day :=
  (c.now.shift c.offset).day

/-- The day that the clock itself shows. -/
def today (c : Clock) : Except ClockFault Day :=
  if c.localDay.InCalendar then .ok c.localDay else .error .localTimeOutOfRange

/-- A fraction of a second of any length, cut off after the nanoseconds. -/
def takeFraction? (cs : List Char) : Option (Nat × List Char) :=
  match cs with
  | '.' :: rest =>
    let digits := rest.takeWhile Char.isDigit
    if digits = [] then none else some (nanosecondsOf digits, rest.dropWhile Char.isDigit)
  | _ => some (0, cs)

/-- `hh:mm:ss[.fraction]` as a second of the day and a nanosecond. Second 60 is a leap second. -/
def takeTime? (cs : List Char) : Option (Nat × Nat × List Char) := do
  let (hour, cs) ← takeDigits? 2 cs
  let cs ← after? ':' cs
  let (minute, cs) ← takeDigits? 2 cs
  let cs ← after? ':' cs
  let (second, cs) ← takeDigits? 2 cs
  let (nanosecond, cs) ← takeFraction? cs
  if second = 60 then
    let time ← TimeOfDay.of? hour minute 59 nanosecond
    pure (time.seconds, nanosecondsPerSecond + time.nanosecond, cs)
  else
    let time ← TimeOfDay.of? hour minute second nanosecond
    pure (time.seconds, time.nanosecond, cs)

/-- `Z`, or a sign with `hh:mm`, of less than a day. -/
def readOffset? (cs : List Char) : Option Int :=
  match cs with
  | ['z'] => some 0
  | '\u2212' :: rest => if rest.length = 5 then Calendar.readOffset? 86399 ('-' :: rest) else none
  | _ => if cs.length ≤ 6 then Calendar.readOffset? 86399 cs else none

/-- `YYYY-MM-DDThh:mm:ss[.fraction]` and an offset. The `T` may be a small one or a space, the `Z` a
small one, and a minus sign U+2212. -/
def parse? (text : String) : Option Clock := do
  let (date, cs) ← takeDate? text.toList
  let cs ← (after? 'T' cs).or ((after? 't' cs).or (after? ' ' cs))
  let (second, nanosecond, cs) ← takeTime? cs
  let offset ← readOffset? cs
  let shown ← Moment.of? date.toDay second nanosecond
  pure ⟨shown.shift (-offset), offset⟩

end Clock

/-- What clocks at offset zero show at a date-time, or at the midnight of a date. -/
def instant? (value : String) (localOffset : Int) : Option Moment :=
  match parseDateTime? value with
  | some t => some (t.moment.toMoment.shift (-t.offset.getD localOffset))
  | none =>
    (parseDate? value).map fun d =>
      (LocalDateTime.mk d.date .midnight).toMoment.shift (-d.offset.getD localOffset)

/-- Whether the value is empty or names an instant after now. -/
def isFuture (c : Clock) (value : String) : Bool :=
  Presence.check (fun v => (instant? v c.offset).any fun m => decide (c.now.Earlier m)) value

/-- Whether the value is empty or names an instant before now. -/
def isPast (c : Clock) (value : String) : Bool :=
  Presence.check (fun v => (instant? v c.offset).any fun m => decide (m.Earlier c.now)) value

/-- Whether the value is empty or a date without an offset that is not after the day that the clock
shows. Only for such a date the clock is asked for its day, and only then this can fail. -/
def isPastOrPresent (c : Clock) (value : String) : Except ClockFault Bool :=
  match Presence.of value with
  | .empty => .ok true
  | .blank => .ok false
  | .present v =>
    match parseDate? v with
    | some ⟨date, none⟩ => c.today.map fun today => !decide (today.Earlier date.toDay)
    | _ => .ok false

end FieldFormats.Calendar
