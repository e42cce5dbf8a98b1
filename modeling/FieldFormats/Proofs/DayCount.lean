import FieldFormats.Calendar.Moment
import Mathlib.Data.Int.Order.Basic
import Mathlib.Order.Monotone.Basic
/-! # Counting days

Days are numbered by the lengths of years and months alone; the first of January of year 0 has the
number 0. The calendar keeps to the numbers: a day has one more than the day before it, days come in
the order of their numbers, and what is carried to another offset stays the same second. -/
namespace FieldFormats.Calendar

/-- `f 0 + f 1 + … + f (n - 1)` -/
def sumBelow (f : ℕ → ℕ) : ℕ → ℕ
  | 0 => 0
  | n + 1 => sumBelow f n + f n

theorem sumBelow_mono (f : ℕ → ℕ) {m n : ℕ} (h : m ≤ n) : sumBelow f m ≤ sumBelow f n :=
  monotone_nat_of_le_succ (fun k => Nat.le_add_right (sumBelow f k) (f k)) h

def daysInYear (year : ℤ) : ℕ :=
  if IsLeap year then 366 else 365

/-- The days of the years from 0 on that lie before `year`; those of the years -1, -2, … down to
`year` below zero. -/
def daysBeforeYear (year : ℤ) : ℤ :=
  sumBelow (fun y => daysInYear y) year.toNat -
    sumBelow (fun y => daysInYear (-1 - y)) (-year).toNat

/-- The days of the months from January on that lie before `month`. -/
def daysBeforeMonth (year : ℤ) (month : ℕ) : ℕ :=
  sumBelow (fun m => daysInMonth year (m + 1)) (month - 1)

def Day.number (d : Day) : ℤ :=
  daysBeforeYear d.year + daysBeforeMonth d.year d.month + (d.day - 1)

theorem daysBeforeYear_add_one (year : ℤ) :
    daysBeforeYear (year + 1) = daysBeforeYear year + daysInYear year := by
  unfold daysBeforeYear
  rcases le_or_gt 0 year with h | h
  · obtain ⟨n, rfl⟩ := Int.eq_ofNat_of_zero_le h
    have hnext : ((n : ℤ) + 1).toNat = n + 1 := by omega
    have hbelow : (-((n : ℤ) + 1)).toNat = (-(n : ℤ)).toNat := by omega
    rw [hnext, hbelow, Int.toNat_natCast, sumBelow]
    omega
  · have hnext : (year + 1).toNat = year.toNat := by omega
    have hbelow : (-year).toNat = (-(year + 1)).toNat + 1 := by omega
    have hyear : -1 - ((-(year + 1)).toNat : ℤ) = year := by omega
    rw [hnext, hbelow, sumBelow, hyear]
    omega

theorem daysBeforeYear_mono {y z : ℤ} (h : y ≤ z) : daysBeforeYear y ≤ daysBeforeYear z := by
  apply monotone_int_of_le_succ _ h
  intro n
  rw [daysBeforeYear_add_one]
  omega

theorem daysBeforeMonth_add_one (year : ℤ) {month : ℕ} (h : 1 ≤ month) :
    daysBeforeMonth year (month + 1) = daysBeforeMonth year month + daysInMonth year month := by
  obtain ⟨m, rfl⟩ := Nat.exists_eq_add_of_le' h
  rfl

theorem daysBeforeMonth_mono (year : ℤ) {m n : ℕ} (h : m ≤ n) :
    daysBeforeMonth year m ≤ daysBeforeMonth year n :=
  sumBelow_mono _ (Nat.sub_le_sub_right h 1)

/-- The twelve months make up the year. -/
theorem daysBeforeMonth_thirteen (year : ℤ) : daysBeforeMonth year 13 = daysInYear year := by
  by_cases h : IsLeap year
  · simp [daysBeforeMonth, sumBelow, daysInMonth, daysInYear, h]
  · simp [daysBeforeMonth, sumBelow, daysInMonth, daysInYear, h]

namespace Day

theorem number_next (d : Day) : d.next.number = d.number + 1 := by
  have hmonth := d.valid.month_pos
  have hday := d.valid.day_le
  have hadd := daysBeforeMonth_add_one d.year hmonth
  unfold next
  split
  · simp only [number]
    omega
  · next hend =>
    split
    · simp only [number]
      omega
    · have hlast : d.month = 12 := Nat.le_antisymm d.valid.month_le (by omega)
      have hyear := daysBeforeYear_add_one d.year
      have hfirst : daysBeforeMonth (d.year + 1) 1 = 0 := rfl
      rw [hlast] at hadd hday hend
      rw [daysBeforeMonth_thirteen] at hadd
      simp only [number, hlast, hfirst]
      omega

theorem number_previous (d : Day) : d.previous.number = d.number - 1 := by
  have hday := d.valid.day_pos
  have hmonth := d.valid.month_pos
  unfold previous
  split
  · simp only [number]
    omega
  · split
    · next hlong =>
      have hadd := daysBeforeMonth_add_one d.year (show 1 ≤ d.month - 1 by omega)
      rw [Nat.sub_add_cancel hmonth] at hadd
      simp only [number]
      omega
    · have hfirst : d.month = 1 := by omega
      have hyear := daysBeforeYear_add_one (d.year - 1)
      have hadd := daysBeforeMonth_add_one (d.year - 1) (show 1 ≤ 12 by decide)
      have hdecember : daysInMonth (d.year - 1) 12 = 31 := rfl
      have hzero : daysBeforeMonth d.year 1 = 0 := rfl
      rw [daysBeforeMonth_thirteen] at hadd
      rw [Int.sub_add_cancel] at hyear
      simp only [number, hfirst, hzero]
      omega

theorem number_shift (d : Day) (days : ℤ) : (d.shift days).number = d.number + days := by
  have hnext (n : ℕ) : (n.repeat next d).number = d.number + n := by
    induction n with
    | zero => simp [Nat.repeat]
    | succ n ih =>
      rw [Nat.repeat, number_next, ih]
      omega
  have hprevious (n : ℕ) : (n.repeat previous d).number = d.number - n := by
    induction n with
    | zero => simp [Nat.repeat]
    | succ n ih =>
      rw [Nat.repeat, number_previous, ih]
      omega
  cases days with
  | ofNat n => exact hnext n
  | negSucc n =>
    have h := hprevious (n + 1)
    rw [shift, h]
    omega

/-- A day lies between the beginning of its month and that of the next. -/
theorem number_bounds (d : Day) :
    daysBeforeYear d.year + daysBeforeMonth d.year d.month ≤ d.number ∧
      d.number < daysBeforeYear d.year + daysBeforeMonth d.year (d.month + 1) := by
  have hadd := daysBeforeMonth_add_one d.year d.valid.month_pos
  have hpos := d.valid.day_pos
  have hle := d.valid.day_le
  unfold number
  omega

theorem number_lt_of_earlier {d e : Day} (h : d.Earlier e) : d.number < e.number := by
  obtain ⟨-, hd⟩ := d.number_bounds
  obtain ⟨he, -⟩ := e.number_bounds
  rcases h with hyear | ⟨hyear, hmonth | ⟨hmonth, hday⟩⟩
  · -- The months behind the day are left of its year, and whole years may follow.
    have hyears := daysBeforeYear_mono (y := d.year + 1) (z := e.year) hyear
    have hmonths := daysBeforeMonth_mono d.year (m := d.month + 1) (n := 13)
      (Nat.succ_le_succ d.valid.month_le)
    rw [daysBeforeYear_add_one] at hyears
    rw [daysBeforeMonth_thirteen] at hmonths
    omega
  · have hmonths := daysBeforeMonth_mono d.year (m := d.month + 1) (n := e.month) hmonth
    rw [← hyear] at he
    omega
  · simp only [number, hyear, hmonth]
    omega

theorem earlier_trichotomy (d e : Day) : d.Earlier e ∨ d = e ∨ e.Earlier d := by
  by_cases h : d.year = e.year ∧ d.month = e.month ∧ d.day = e.day
  · obtain ⟨year, month, day, _⟩ := d
    obtain ⟨rfl, rfl, rfl⟩ := h
    exact Or.inr (Or.inl rfl)
  · unfold Earlier
    omega

/-- Days come in the order of their numbers. -/
theorem earlier_iff {d e : Day} : d.Earlier e ↔ d.number < e.number := by
  refine ⟨number_lt_of_earlier, fun h => ?_⟩
  rcases earlier_trichotomy d e with hearlier | rfl | hlater
  · exact hearlier
  · exact absurd h (lt_irrefl _)
  · exact absurd (number_lt_of_earlier hlater) (lt_asymm h)

theorem eq_of_number {d e : Day} (h : d.number = e.number) : d = e := by
  rcases earlier_trichotomy d e with hearlier | heq | hlater
  · exact absurd (number_lt_of_earlier hearlier) (by omega)
  · exact heq
  · exact absurd (number_lt_of_earlier hlater) (by omega)

theorem inCalendar_iff {d : Day} :
    d.InCalendar ↔ first.number ≤ d.number ∧ d.number ≤ last.number := by
  rw [InCalendar, earlier_iff, earlier_iff, not_lt, not_lt]

end Day

/-- Years of four digits are well within the calendar. -/
theorem Date.inCalendar_toDay (d : Date) : d.toDay.InCalendar := by
  have hyear := d.valid.year_le
  simp only [Day.InCalendar, Day.Earlier, Day.first, Day.last, Date.toDay]
  omega

namespace Moment

/-- The seconds from the first midnight of year 0 on. -/
def seconds (m : Moment) : ℤ :=
  m.day.number * 86400 + m.second

theorem seconds_shift (m : Moment) (s : ℤ) : (m.shift s).seconds = m.seconds + s := by
  simp only [seconds, shift, Day.number_shift, secondsPerDay]
  omega

/-- A moment comes before another in an earlier second, or in the same by its nanoseconds. -/
theorem earlier_iff {m n : Moment} :
    m.Earlier n ↔ m.seconds < n.seconds ∨ (m.seconds = n.seconds ∧ m.nanosecond < n.nanosecond) := by
  have hm : m.second < 86400 := m.second_lt
  have hn : n.second < 86400 := n.second_lt
  have hday : m.day = n.day ↔ m.day.number = n.day.number :=
    ⟨congrArg Day.number, Day.eq_of_number⟩
  rw [Earlier, Day.earlier_iff, hday]
  unfold seconds
  omega

end Moment

end FieldFormats.Calendar
