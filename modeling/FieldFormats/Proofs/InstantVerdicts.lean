import FieldFormats.Calendar.Temporal
import FieldFormats.Proofs.DateReading
import FieldFormats.Proofs.DateTimeReading
import FieldFormats.Proofs.DayCount
/-! # Instants and the verdicts on them

The instant that a value names, as a number of nanoseconds: days counted by the lengths of years and
months, the time of day, and the offset taken off. The checks against a clock, which carry fields
over from day to day and compare field by field, give the verdicts of these numbers. The check by
days gives them as well, as long as the clock shows a day. -/
namespace FieldFormats.Calendar

open FieldFormats.Text

/-- The nanoseconds from the first midnight of year 0 on, as the clocks of the place show them. -/
def localNanoseconds (d : Date) (t : TimeOfDay) : ℤ :=
  (d.toDay.number * 86400 + t.seconds) * 1000000000 + t.nanosecond

/-- A value is a date-time or else a date, which stands for its midnight: what it shows, and the
offset that is written with it. -/
inductive Shows (value : String) : ℤ → Option ℤ → Prop where
  | dateTime {t : IsoDateTime} : parseDateTime? value = some t →
      Shows value (localNanoseconds t.moment.date t.moment.time) t.offset
  | date {d : IsoDate} : parseDate? value = some d →
      Shows value (localNanoseconds d.date .midnight) d.offset

/-- The instant of a value counts from the first midnight at offset zero. `localOffset` is for values
without an offset of their own. -/
def Names (value : String) (localOffset instant : ℤ) : Prop :=
  ∃ n offset, Shows value n offset ∧ instant = n - offset.getD localOffset * 1000000000

/-- A moment outside of leap seconds as a number of nanoseconds. -/
structure Moment.Counts (m : Moment) (n : ℤ) : Prop where
  nanosecond_lt : m.nanosecond < 1000000000
  sum : m.seconds * 1000000000 + m.nanosecond = n

theorem Moment.Counts.unique {m : Moment} {n k : ℤ} (h : m.Counts n) (h' : m.Counts k) : n = k :=
  h.sum.symm.trans h'.sum

namespace Clock

/-- Now is earlier than the instant. A leap second lies behind all nanoseconds of the second that it
follows and in front of the next second. -/
def Before (c : Clock) (instant : ℤ) : Prop :=
  if c.now.nanosecond < 1000000000 then
    c.now.seconds * 1000000000 + c.now.nanosecond < instant
  else (c.now.seconds + 1) * 1000000000 ≤ instant

/-- Now is later than the instant. -/
def After (c : Clock) (instant : ℤ) : Prop :=
  if c.now.nanosecond < 1000000000 then
    instant < c.now.seconds * 1000000000 + c.now.nanosecond
  else instant < (c.now.seconds + 1) * 1000000000

variable {c : Clock} {m : Moment} {n : ℤ}

theorem before_iff (h : m.Counts n) : c.Before n ↔ c.now.Earlier m := by
  obtain ⟨hlt, rfl⟩ := h
  rw [Moment.earlier_iff]
  unfold Before
  split
  · omega
  · omega

theorem after_iff (h : m.Counts n) : c.After n ↔ m.Earlier c.now := by
  obtain ⟨hlt, rfl⟩ := h
  rw [Moment.earlier_iff]
  unfold After
  split
  · omega
  · omega

theorem not_before_and_after : ¬ (c.Before n ∧ c.After n) := by
  unfold Before After
  split
  · omega
  · omega

end Clock

section Values

variable {value : String} {localOffset n : ℤ} {offset : Option ℤ}

/-- Carried to offset zero, a time of day has run the offset's seconds back and kept the rest. -/
theorem counts_shift (t : LocalDateTime) (o : ℤ) :
    (t.toMoment.shift (-o)).Counts (localNanoseconds t.date t.time - o * 1000000000) := by
  have hseconds : t.toMoment.seconds = t.date.toDay.number * 86400 + t.time.seconds := rfl
  have hnanosecond : (t.toMoment.shift (-o)).nanosecond = t.time.nanosecond := rfl
  refine ⟨t.time.valid.nanosecond_lt, ?_⟩
  rw [Moment.seconds_shift, hseconds, hnanosecond, localNanoseconds]
  omega

theorem exists_moment (h : Names value localOffset n) :
    ∃ m, instant? value localOffset = some m ∧ m.Counts n := by
  obtain ⟨_, _, hshows, rfl⟩ := h
  cases hshows with
  | @dateTime t h =>
    refine ⟨_, ?_, counts_shift t.moment (t.offset.getD localOffset)⟩
    simp only [instant?, h]
  | @date d h =>
    refine ⟨_, ?_, counts_shift ⟨d.date, .midnight⟩ (d.offset.getD localOffset)⟩
    simp only [instant?, parseDateTime?_eq_none_of_parseDate? h, h, Option.map_some]

theorem exists_names {m : Moment} (h : instant? value localOffset = some m) :
    ∃ n, Names value localOffset n ∧ m.Counts n := by
  unfold instant? at h
  split at h
  · next t ht =>
    cases h
    exact ⟨_, ⟨_, _, .dateTime ht, rfl⟩, counts_shift _ _⟩
  · obtain ⟨d, hd, rfl⟩ := Option.map_eq_some_iff.1 h
    exact ⟨_, ⟨_, _, .date hd, rfl⟩, counts_shift ⟨d.date, .midnight⟩ _⟩

theorem Names.unique {k : ℤ} (h : Names value localOffset n) (h' : Names value localOffset k) :
    n = k := by
  obtain ⟨m, hm, hn⟩ := exists_moment h
  obtain ⟨m', hm', hk⟩ := exists_moment h'
  obtain rfl := Option.some.inj (hm.symm.trans hm')
  exact hn.unique hk

theorem isBlankText_eq_false_of_writesDate {cs ds : List Char} {d : Date} (h : WritesDate ds d)
    (hvalue : value.toList = ds ++ cs) : isBlankText value = false := by
  obtain ⟨year, month, day, hyear, -, -, rfl⟩ := h
  obtain ⟨c, rest, rfl⟩ := List.exists_cons_of_length_eq_add_one hyear.length
  have hdigit := hyear.isDigit c (by simp)
  rw [isBlankText, hvalue, List.all_eq_false]
  exact ⟨c, by simp, by simp [isBlank_eq_false_of_isDigit hdigit]⟩

theorem Shows.isBlankText_eq_false (h : Shows value n offset) : isBlankText value = false := by
  cases h with
  | dateTime h =>
    obtain ⟨date, time, rest, hdate, -, -, hvalue⟩ := parseDateTime?_eq_some_iff.1 h
    rw [List.append_assoc] at hvalue
    exact isBlankText_eq_false_of_writesDate hdate hvalue
  | date h =>
    obtain ⟨date, rest, hdate, -, hvalue⟩ := parseDate?_eq_some_iff.1 h
    exact isBlankText_eq_false_of_writesDate hdate hvalue

/-- A comparison of fields that agrees with one of numbers decides on the number of the value. -/
theorem check_iff {accepts : Moment → Bool} {p : ℤ → Prop}
    (haccepts : ∀ m n, m.Counts n → (accepts m = true ↔ p n)) (hvalue : value ≠ "") :
    Presence.check (fun v => (instant? v localOffset).any accepts) value = true ↔
      ∃ n, Names value localOffset n ∧ p n := by
  by_cases hblank : isBlankText value = true
  · rw [Presence.check_blank _ hvalue hblank]
    refine iff_of_false Bool.false_ne_true ?_
    rintro ⟨n, ⟨_, _, hshows, -⟩, -⟩
    exact Bool.false_ne_true (hshows.isBlankText_eq_false.symm.trans hblank)
  · rw [Presence.check_present _ (eq_false_of_ne_true hblank), Option.any_eq_true]
    constructor
    · rintro ⟨m, hm, hpasses⟩
      obtain ⟨n, hn, hcounts⟩ := exists_names hm
      exact ⟨n, hn, (haccepts m n hcounts).1 hpasses⟩
    · rintro ⟨n, hn, hp⟩
      obtain ⟨m, hm, hcounts⟩ := exists_moment hn
      exact ⟨m, hm, (haccepts m n hcounts).2 hp⟩

/-- An offset written behind a value that has none leaves what the value shows as it is. -/
theorem Shows.append {o : ℤ} {cs : List Char} (h : Shows value n none)
    (hcs : WritesOffset 64800 cs o) : Shows (String.ofList (value.toList ++ cs)) n (some o) := by
  generalize hoffset : none = offset at h
  cases h with
  | @dateTime t h =>
    obtain ⟨⟨date, time⟩, _, zone⟩ := t
    cases hoffset
    obtain ⟨ds, ts, rest, hdate, htime, hend, hvalue⟩ := parseDateTime?_eq_some_iff.1 h
    cases hend with
    | unnamed hrest =>
      cases hrest
      refine Shows.dateTime (t := ⟨⟨date, time⟩, some o, none⟩) (parseDateTime?_eq_some_iff.2 ?_)
      refine ⟨ds, ts, cs, hdate, htime, .unnamed (.present hcs), ?_⟩
      rw [String.toList_ofList, hvalue, List.append_nil]
  | @date d h =>
    obtain ⟨date, _⟩ := d
    cases hoffset
    obtain ⟨ds, rest, hdate, hrest, hvalue⟩ := parseDate?_eq_some_iff.1 h
    cases hrest
    refine Shows.date (d := ⟨date, some o⟩) (parseDate?_eq_some_iff.2 ?_)
    refine ⟨ds, cs, hdate, .present hcs, ?_⟩
    rw [String.toList_ofList, hvalue, List.append_nil]

end Values

namespace Clock

variable {c : Clock} {v w : String} {n : ℤ}

theorem isFuture_iff (hv : v ≠ "") :
    isFuture c v = true ↔ ∃ n, Names v c.offset n ∧ c.Before n := by
  apply check_iff _ hv
  intro m n hcounts
  rw [decide_eq_true_eq, before_iff hcounts]

theorem isPast_iff (hv : v ≠ "") :
    isPast c v = true ↔ ∃ n, Names v c.offset n ∧ c.After n := by
  apply check_iff _ hv
  intro m n hcounts
  rw [decide_eq_true_eq, after_iff hcounts]

theorem ne_empty_of_names {o : ℤ} (h : Names v o n) : v ≠ "" := by
  obtain ⟨_, _, hshows, -⟩ := h
  rintro rfl
  exact Bool.false_ne_true (hshows.isBlankText_eq_false.symm.trans rfl)

theorem isFuture_of_names (h : Names v c.offset n) : isFuture c v = true ↔ c.Before n := by
  rw [isFuture_iff (ne_empty_of_names h)]
  constructor
  · rintro ⟨k, hk, hbefore⟩
    rwa [h.unique hk]
  · intro hbefore
    exact ⟨n, h, hbefore⟩

theorem isPast_of_names (h : Names v c.offset n) : isPast c v = true ↔ c.After n := by
  rw [isPast_iff (ne_empty_of_names h)]
  constructor
  · rintro ⟨k, hk, hafter⟩
    rwa [h.unique hk]
  · intro hafter
    exact ⟨n, h, hafter⟩

theorem verdicts_eq_of_names (hv : Names v c.offset n) (hw : Names w c.offset n) :
    isFuture c v = isFuture c w ∧ isPast c v = isPast c w := by
  constructor
  · rw [Bool.eq_iff_iff, isFuture_of_names hv, isFuture_of_names hw]
  · rw [Bool.eq_iff_iff, isPast_of_names hv, isPast_of_names hw]

/-- How a clock's verdicts on the future and the past go by the instants of the values. -/
structure ComparesInstants (c : Clock) : Prop where
  future : ∀ v, v ≠ "" → (isFuture c v = true ↔ ∃ n, Names v c.offset n ∧ c.Before n)
  past : ∀ v, v ≠ "" → (isPast c v = true ↔ ∃ n, Names v c.offset n ∧ c.After n)
  not_both : ∀ v, v ≠ "" → ¬ (isFuture c v = true ∧ isPast c v = true)
  same_instant : ∀ v w m n (o p : ℤ), Shows v m (some o) → Shows w n (some p) →
    m - o * 1000000000 = n - p * 1000000000 →
    isFuture c v = isFuture c w ∧ isPast c v = isPast c w
  own_offset : c.offset.natAbs ≤ 64800 → ∀ v n, Shows v n none →
    WritesOffset 64800 (offsetText c.offset) c.offset ∧
    ∀ cs, WritesOffset 64800 cs c.offset →
      isFuture c (String.ofList (v.toList ++ cs)) = isFuture c v ∧
      isPast c (String.ofList (v.toList ++ cs)) = isPast c v

theorem comparesInstants (c : Clock) : c.ComparesInstants := by
  refine ⟨fun v => isFuture_iff, fun v => isPast_iff, ?_, ?_, ?_⟩
  · rintro v hv ⟨hfuture, hpast⟩
    obtain ⟨n, hn, hbefore⟩ := (isFuture_iff hv).1 hfuture
    obtain ⟨k, hk, hafter⟩ := (isPast_iff hv).1 hpast
    obtain rfl := hn.unique hk
    exact not_before_and_after ⟨hbefore, hafter⟩
  · intro v w m n o p hv hw hinstant
    exact verdicts_eq_of_names ⟨m, some o, hv, rfl⟩ ⟨n, some p, hw, hinstant⟩
  · intro hoffset v n hv
    refine ⟨writesOffset_offsetText (by decide) hoffset, ?_⟩
    intro cs hcs
    exact verdicts_eq_of_names ⟨n, some c.offset, hv.append hcs, rfl⟩ ⟨n, none, hv, rfl⟩

-- Now is 23:30 on the last of February two hours west of Greenwich, and already March in the east.
example : (Clock.parse? "2020-03-01T03:30:00+02:00").map (fun c =>
    (isFuture c "2020-02-29T23:30:00.000000001-02:00", isPast c "2020-03-01T01:29:59.999999999Z",
      isFuture c "2020-03-01T03:30", isPast c "2020-03-01T03:30")) =
    some (true, true, false, false) := by
  decide +kernel

/-- The clock's own time lies in the calendar, from the first midnight of it to the one that ends
its last day. -/
def ShowsDay (c : Clock) : Prop :=
  Day.first.number * 86400 ≤ c.now.seconds + c.offset ∧
    c.now.seconds + c.offset < (Day.last.number + 1) * 86400

/-- The seconds of the clock's own time are those of its day and less than another day's. -/
theorem localDay_bounds (c : Clock) :
    c.localDay.number * 86400 ≤ c.now.seconds + c.offset ∧
      c.now.seconds + c.offset < (c.localDay.number + 1) * 86400 := by
  have hlocal := c.now.seconds_shift c.offset
  have hsecond : (c.now.shift c.offset).second < 86400 := (c.now.shift c.offset).second_lt
  rw [Moment.seconds] at hlocal
  unfold localDay
  omega

theorem inCalendar_localDay_iff : c.localDay.InCalendar ↔ c.ShowsDay := by
  have hbounds := c.localDay_bounds
  rw [Day.inCalendar_iff, ShowsDay]
  omega

theorem today_of_showsDay (h : c.ShowsDay) : c.today = .ok c.localDay :=
  if_pos (inCalendar_localDay_iff.2 h)

theorem today_of_not_showsDay (h : ¬ c.ShowsDay) : c.today = .error .localTimeOutOfRange :=
  if_neg fun hday => h (inCalendar_localDay_iff.1 hday)

theorem showsDay_of_inner (hfirst : Day.first.Earlier c.now.day)
    (hlast : c.now.day.Earlier Day.last) (hoffset : c.offset.natAbs ≤ 86400) : c.ShowsDay := by
  have hsecond : c.now.second < 86400 := c.now.second_lt
  rw [Day.earlier_iff] at hfirst hlast
  rw [ShowsDay, Moment.seconds]
  omega

/-- The offset that is taken off when a clock is read is put on again for its day. -/
theorem showsDay_of_parse? {text : String} (h : parse? text = some c) : c.ShowsDay := by
  simp only [parse?, Option.bind_eq_bind, Option.bind_eq_some_iff, Option.pure_def,
    Option.some.injEq] at h
  obtain ⟨⟨date, _⟩, -, _, -, ⟨second, nanosecond, _⟩, -, offset, -, shown, hshown, rfl⟩ := h
  unfold Moment.of? at hshown
  split at hshown
  · next hlt =>
    cases hshown
    obtain ⟨hfirst, hlast⟩ := Day.inCalendar_iff.1 date.inCalendar_toDay
    have hsecond : second < 86400 := hlt.1
    rw [ShowsDay, Moment.seconds_shift, Moment.seconds]
    dsimp only
    omega
  · cases hshown

/-- A day is after the clock's own exactly if its midnight on the clock is after now. -/
theorem localDay_earlier_iff_before (c : Clock) (d : Date) :
    c.localDay.Earlier d.toDay ↔
      c.Before (localNanoseconds d .midnight - c.offset * 1000000000) := by
  have hbounds := c.localDay_bounds
  have hmidnight : TimeOfDay.midnight.seconds = 0 := rfl
  have hfull : TimeOfDay.midnight.nanosecond = 0 := rfl
  rw [Day.earlier_iff, Before, localNanoseconds, hmidnight, hfull]
  split
  · omega
  · omega

/-- For a date alone the clock is asked for its day. -/
theorem isPastOrPresent_of_writesDate {d : Date} (hd : WritesDate v.toList d) :
    isPastOrPresent c v = c.today.map fun today => !decide (today.Earlier d.toDay) := by
  have hblank := isBlankText_eq_false_of_writesDate hd (List.append_nil _).symm
  rw [isPastOrPresent, Presence.of_present hblank]
  simp only [parseDate?_without_offset_iff.2 hd]

theorem isPastOrPresent_of_not_writesDate (hv : v ≠ "") (hnone : ∀ d, ¬ WritesDate v.toList d) :
    isPastOrPresent c v = .ok false := by
  by_cases hblank : isBlankText v = true
  · rw [isPastOrPresent, Presence.of_blank hv hblank]
  · rw [isPastOrPresent, Presence.of_present (eq_false_of_ne_true hblank)]
    dsimp only
    split
    · next d hparse => exact absurd (parseDate?_without_offset_iff.1 hparse) (hnone d)
    · rfl

/-- How a clock's verdicts by days go with those by instants. -/
structure AgreesByDays (c : Clock) : Prop where
  /-- A date alone is accepted exactly if the check by instants does not find it in the future. -/
  agrees : c.ShowsDay → ∀ v d, WritesDate v.toList d → isPastOrPresent c v = .ok (!isFuture c v)
  /-- Out of the calendar the clock has no day to go by, whatever the date. -/
  fails : ¬ c.ShowsDay → ∀ v d, WritesDate v.toList d →
    isPastOrPresent c v = .error .localTimeOutOfRange
  /-- Nothing but the empty value and dates alone is accepted, and for nothing else the clock's day
  matters. -/
  rejects : ∀ v, v ≠ "" → (∀ d, ¬ WritesDate v.toList d) → isPastOrPresent c v = .ok false
  /-- From within the calendar only its first and its last day can be carried out of it. -/
  inner : Day.first.Earlier c.now.day → c.now.day.Earlier Day.last → c.offset.natAbs ≤ 86400 →
    c.ShowsDay
  /-- A clock that is read from a text shows the day in the text. -/
  read : ∀ text, parse? text = some c → c.ShowsDay

theorem agreesByDays (c : Clock) : c.AgreesByDays := by
  refine ⟨?_, ?_, ?_, showsDay_of_inner, fun _ => showsDay_of_parse?⟩
  · intro hshows v d hd
    have hparse : parseDate? v = some ⟨d, none⟩ := parseDate?_without_offset_iff.2 hd
    have hfuture : isFuture c v = decide (c.localDay.Earlier d.toDay) := by
      rw [Bool.eq_iff_iff, decide_eq_true_eq, localDay_earlier_iff_before]
      exact isFuture_of_names ⟨_, none, .date hparse, rfl⟩
    rw [isPastOrPresent_of_writesDate hd, today_of_showsDay hshows, hfuture, Except.map]
  · intro hshows v d hd
    rw [isPastOrPresent_of_writesDate hd, today_of_not_showsDay hshows]
    rfl
  · exact fun v => isPastOrPresent_of_not_writesDate

example : (Clock.parse? "2016-12-31T23:59:60.5Z").map (fun c =>
    (isPastOrPresent c "2016-12-31", isFuture c "2016-12-31", isPastOrPresent c "2017-01-01",
      isFuture c "2017-01-01")) = some (.ok true, false, .ok false, true) := by
  decide +kernel

/-- The last second of the calendar at offset zero, on a clock so many seconds to the east. -/
def atCalendarEnd (offset : ℤ) : Clock :=
  ⟨⟨.last, 86399, 999999999, by decide, by decide⟩, offset⟩

/-- An hour to the east the calendar is over, and a day long past gets no verdict by days. -/
theorem atCalendarEnd_without_verdict :
    isPastOrPresent (atCalendarEnd 0) "2024-01-01" = .ok true ∧
      isFuture (atCalendarEnd 3600) "2024-01-01" = false ∧
      isPastOrPresent (atCalendarEnd 3600) "2024-01-01" = .error .localTimeOutOfRange ∧
      ¬ ∀ (c : Clock) (v : String) (d : Date), WritesDate v.toList d →
        (isPastOrPresent c v = .ok true ↔ isFuture c v = false) := by
  have hfuture : isFuture (atCalendarEnd 3600) "2024-01-01" = false := by decide +kernel
  have hfails :
      isPastOrPresent (atCalendarEnd 3600) "2024-01-01" = .error .localTimeOutOfRange := by
    decide +kernel
  refine ⟨by decide +kernel, hfuture, hfails, ?_⟩
  intro h
  have hdate : WritesDate "2024-01-01".toList ⟨2024, 1, 1, by decide⟩ := writesDate_text _
  cases hfails.symm.trans ((h _ _ _ hdate).2 hfuture)

end Clock

end FieldFormats.Calendar
