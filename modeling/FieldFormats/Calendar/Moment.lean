import FieldFormats.Calendar.Date
/-! # Moments

Days of any year, and what a clock can show on them. A moment is carried to another offset field by
field: the seconds of the day run over into the next day or back into the one before, and the days
into months and years. Moments are compared by their fields as well. The calendar of clocks has a
first and a last day, and what is carried past them is no day of it.
-/
namespace FieldFormats.Calendar

theorem one_le_daysInMonth (year : Int) (month : Nat) : 1 ≤ daysInMonth year month := by
  unfold daysInMonth
  split
  · split <;> decide
  · split <;> decide

structure Day.Exists (year : Int) (month day : Nat) : Prop where
  month_pos : 1 ≤ month
  month_le : month ≤ 12
  day_pos : 1 ≤ day
  day_le : day ≤ daysInMonth year month

/-- A day of the proleptic Gregorian calendar. The year before year 1 is year 0, the one before that
is year -1. -/
structure Day where
  year : Int
  month : Nat
  day : Nat
  valid : Day.Exists year month day
  deriving DecidableEq, Repr

def Date.toDay (d : Date) : Day :=
  ⟨d.year, d.month, d.day, ⟨d.valid.month_pos, d.valid.month_le, d.valid.day_pos, d.valid.day_le⟩⟩

namespace Day

def next (d : Day) : Day :=
  if h : d.day < daysInMonth d.year d.month then
    ⟨d.year, d.month, d.day + 1, ⟨d.valid.month_pos, d.valid.month_le, Nat.le_add_left 1 d.day, h⟩⟩
  else if h : d.month < 12 then
    ⟨d.year, d.month + 1, 1,
      ⟨Nat.le_add_left 1 d.month, h, Nat.le_refl 1, one_le_daysInMonth _ _⟩⟩
  else ⟨d.year + 1, 1, 1, ⟨Nat.le_refl 1, by decide, Nat.le_refl 1, one_le_daysInMonth _ _⟩⟩

def previous (d : Day) : Day :=
  if h : 1 < d.day then
    ⟨d.year, d.month, d.day - 1, ⟨d.valid.month_pos, d.valid.month_le, Nat.le_sub_one_of_lt h,
      Nat.le_trans (Nat.sub_le d.day 1) d.valid.day_le⟩⟩
  else if h : 1 < d.month then
    ⟨d.year, d.month - 1, daysInMonth d.year (d.month - 1), ⟨Nat.le_sub_one_of_lt h,
      Nat.le_trans (Nat.sub_le d.month 1) d.valid.month_le, one_le_daysInMonth _ _, Nat.le_refl _⟩⟩
  else ⟨d.year - 1, 12, 31, ⟨by decide, Nat.le_refl 12, by decide, Nat.le_refl 31⟩⟩

/-- So many days later, or earlier below zero. -/
def shift (d : Day) : Int → Day
  | .ofNat days => days.repeat next d
  | .negSucc days => (days + 1).repeat previous d

def Earlier (d e : Day) : Prop :=
  d.year < e.year ∨
    (d.year = e.year ∧ (d.month < e.month ∨ (d.month = e.month ∧ d.day < e.day)))

instance (d e : Day) : Decidable (Earlier d e) :=
  inferInstanceAs (Decidable (_ ∨ (_ ∧ (_ ∨ (_ ∧ _)))))

/-- Where the calendar begins that clocks go by. -/
def first : Day :=
  ⟨-262143, 1, 1, ⟨by decide, by decide, by decide, by decide⟩⟩

/-- Where it ends. -/
def last : Day :=
  ⟨262142, 12, 31, ⟨by decide, by decide, by decide, by decide⟩⟩

def InCalendar (d : Day) : Prop :=
  ¬ d.Earlier first ∧ ¬ last.Earlier d

instance (d : Day) : Decidable d.InCalendar :=
  inferInstanceAs (Decidable (_ ∧ _))

end Day

def secondsPerDay : Nat := 86400

/-- What a clock can show: a day, a second of it and a nanosecond. In a leap second the nanoseconds
of the second before it count on. -/
structure Moment where
  day : Day
  second : Nat
  nanosecond : Nat
  second_lt : second < secondsPerDay
  nanosecond_lt : nanosecond < 2 * nanosecondsPerSecond
  deriving DecidableEq, Repr

namespace Moment

def of? (day : Day) (second nanosecond : Nat) : Option Moment :=
  if h : second < secondsPerDay ∧ nanosecond < 2 * nanosecondsPerSecond then
    some ⟨day, second, nanosecond, h.1, h.2⟩
  else none

/-- What is shown so many seconds later, or earlier below zero. A leap second stays one. -/
def shift (m : Moment) (seconds : Int) : Moment :=
  let total : Int := m.second + seconds
  ⟨m.day.shift (total / secondsPerDay), (total % secondsPerDay).toNat, m.nanosecond,
    by simp only [secondsPerDay]; omega, m.nanosecond_lt⟩

def Earlier (m n : Moment) : Prop :=
  m.day.Earlier n.day ∨ (m.day = n.day ∧
    (m.second < n.second ∨ (m.second = n.second ∧ m.nanosecond < n.nanosecond)))

instance (m n : Moment) : Decidable (Earlier m n) :=
  inferInstanceAs (Decidable (_ ∨ (_ ∧ (_ ∨ (_ ∧ _)))))

end Moment

theorem TimeOfDay.seconds_lt (t : TimeOfDay) : t.seconds < secondsPerDay := by
  have hhour := t.valid.hour_lt
  have hminute := t.valid.minute_lt
  have hsecond := t.valid.second_lt
  simp only [TimeOfDay.seconds, secondsPerDay]
  omega

def LocalDateTime.toMoment (t : LocalDateTime) : Moment :=
  ⟨t.date.toDay, t.time.seconds, t.time.nanosecond, t.time.seconds_lt,
    Nat.lt_of_lt_of_le t.time.valid.nanosecond_lt (Nat.le_mul_of_pos_left _ (by decide))⟩

end FieldFormats.Calendar
