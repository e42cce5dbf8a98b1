import FieldFormats.Text.Numeral
/-! # Dates and times of day

The dates of the proleptic Gregorian calendar that four digits can write, of the years 0 to 9999. A
date or time of day carries the proof that it exists; there is no second 60.
-/
namespace FieldFormats.Calendar

open FieldFormats.Text

/-- Every fourth year, of the full centuries only every fourth. Year 0 is one, and the years below
zero go on in front of it. -/
def IsLeap (year : Int) : Prop :=
  year % 4 = 0 ∧ (year % 100 ≠ 0 ∨ year % 400 = 0)

instance (year : Int) : Decidable (IsLeap year) :=
  inferInstanceAs (Decidable (_ ∧ _))

def daysInMonth (year : Int) (month : Nat) : Nat :=
  if month = 2 then (if IsLeap year then 29 else 28)
  else if month = 4 ∨ month = 6 ∨ month = 9 ∨ month = 11 then 30
  else 31

structure Date.Exists (year month day : Nat) : Prop where
  year_le : year ≤ 9999
  month_pos : 1 ≤ month
  month_le : month ≤ 12
  day_pos : 1 ≤ day
  day_le : day ≤ daysInMonth year month

instance (year month day : Nat) : Decidable (Date.Exists year month day) :=
  decidable_of_iff
    (year ≤ 9999 ∧ 1 ≤ month ∧ month ≤ 12 ∧ 1 ≤ day ∧ day ≤ daysInMonth year month)
    ⟨fun ⟨a, b, c, d, e⟩ => ⟨a, b, c, d, e⟩, fun ⟨a, b, c, d, e⟩ => ⟨a, b, c, d, e⟩⟩

structure Date where
  year : Nat
  month : Nat
  day : Nat
  valid : Date.Exists year month day
  deriving DecidableEq, Repr

namespace Date

def of? (year month day : Nat) : Option Date :=
  if h : Exists year month day then some ⟨year, month, day, h⟩ else none

/-- `YYYY-MM-DD` -/
def text (d : Date) : List Char :=
  padded 4 d.year ++ '-' :: padded 2 d.month ++ '-' :: padded 2 d.day

end Date

def nanosecondsPerSecond : Nat := 1000000000

structure TimeOfDay.Exists (hour minute second nanosecond : Nat) : Prop where
  hour_lt : hour < 24
  minute_lt : minute < 60
  second_lt : second < 60
  nanosecond_lt : nanosecond < nanosecondsPerSecond

instance (hour minute second nanosecond : Nat) :
    Decidable (TimeOfDay.Exists hour minute second nanosecond) :=
  decidable_of_iff
    (hour < 24 ∧ minute < 60 ∧ second < 60 ∧ nanosecond < nanosecondsPerSecond)
    ⟨fun ⟨a, b, c, d⟩ => ⟨a, b, c, d⟩, fun ⟨a, b, c, d⟩ => ⟨a, b, c, d⟩⟩

structure TimeOfDay where
  hour : Nat
  minute : Nat
  second : Nat
  nanosecond : Nat
  valid : TimeOfDay.Exists hour minute second nanosecond
  deriving DecidableEq, Repr

namespace TimeOfDay

def of? (hour minute second nanosecond : Nat) : Option TimeOfDay :=
  if h : Exists hour minute second nanosecond then some ⟨hour, minute, second, nanosecond, h⟩
  else none

def midnight : TimeOfDay :=
  ⟨0, 0, 0, 0, ⟨by decide, by decide, by decide, by decide⟩⟩

def seconds (t : TimeOfDay) : Nat :=
  t.hour * 3600 + t.minute * 60 + t.second

/-- The fraction of a second after a point in 3, 6 or 9 digits, the fewest that are exact;
nothing for a full second. -/
def fraction (nanosecond : Nat) : List Char :=
  if nanosecond = 0 then []
  else if nanosecond % 1000000 = 0 then '.' :: padded 3 (nanosecond / 1000000)
  else if nanosecond % 1000 = 0 then '.' :: padded 6 (nanosecond / 1000)
  else '.' :: padded 9 nanosecond

/-- `hh:mm:ss` and the fraction. -/
def text (t : TimeOfDay) : List Char :=
  padded 2 t.hour ++ ':' :: padded 2 t.minute ++ ':' :: padded 2 t.second ++ fraction t.nanosecond

end TimeOfDay

/-- A date and a time of day at some place that is not named. -/
structure LocalDateTime where
  date : Date
  time : TimeOfDay
  deriving DecidableEq, Repr

namespace LocalDateTime

def text (t : LocalDateTime) : List Char :=
  t.date.text ++ ' ' :: t.time.text

end LocalDateTime

end FieldFormats.Calendar
