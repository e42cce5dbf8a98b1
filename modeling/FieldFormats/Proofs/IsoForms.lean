import FieldFormats.Calendar.Iso8601
import Mathlib.Data.Int.Notation
import Mathlib.Data.Nat.Notation
/-! # How dates and offsets are written

The extended format of a date, a span of hours and an offset, said without the readers. Each reader
takes exactly the texts that write its value, and leaves what follows them as it is. -/
namespace FieldFormats.Calendar

open FieldFormats.Text

/-- `n` ASCII digits, leading zeros among them, with the value `v`. -/
structure Digits (n : ℕ) (ds : List Char) (v : ℕ) : Prop where
  length : ds.length = n
  isDigit : ∀ c ∈ ds, c.isDigit = true
  value : decimal ds = v

theorem digits_padded {n v : ℕ} (hn : 0 < n) (h : v < Nat.pow 10 n) : Digits n (padded n v) v :=
  ⟨length_padded hn h, fun _ => isDigit_of_mem_padded, decimal_padded n v⟩

theorem Digits.take {n v : ℕ} {ds : List Char} (h : Digits n ds v) (rest : List Char) :
    takeDigits? n (ds ++ rest) = some (v, rest) := by
  have hall : ds.all Char.isDigit = true := List.all_eq_true.2 h.isDigit
  simp [takeDigits?, ← h.length, ← h.value, hall]

theorem Digits.take_all {n v : ℕ} {ds : List Char} (h : Digits n ds v) :
    takeDigits? n ds = some (v, []) := by
  simpa using h.take []

theorem takeDigits?_eq_some_iff {n v : ℕ} {cs rest : List Char} :
    takeDigits? n cs = some (v, rest) ↔ ∃ ds, Digits n ds v ∧ cs = ds ++ rest := by
  constructor
  · intro h
    unfold takeDigits? at h
    dsimp only at h
    split at h
    · next hds =>
      cases h
      exact ⟨cs.take n, ⟨hds.1, List.all_eq_true.1 hds.2, rfl⟩, (List.take_append_drop n cs).symm⟩
    · cases h
  · rintro ⟨ds, hds, rfl⟩
    exact hds.take rest

theorem after?_eq_some_iff {c : Char} {cs rest : List Char} :
    after? c cs = some rest ↔ cs = c :: rest := by
  cases cs with
  | nil => simp [after?]
  | cons d cs =>
    rw [after?]
    split
    · next h => simp [h]
    · next h => simp [h]

theorem daysInMonth_le (year : ℤ) (month : ℕ) : daysInMonth year month ≤ 31 := by
  unfold daysInMonth
  split
  · split <;> decide
  · split <;> decide

theorem Date.of?_eq_some_iff {year month day : ℕ} {d : Date} :
    Date.of? year month day = some d ↔ d.year = year ∧ d.month = month ∧ d.day = day := by
  constructor
  · intro h
    unfold Date.of? at h
    split at h
    · cases h
      exact ⟨rfl, rfl, rfl⟩
    · cases h
  · rintro ⟨rfl, rfl, rfl⟩
    exact dif_pos d.valid

/-- `YYYY-MM-DD` in ASCII digits. That the day exists is in the type of dates. -/
def WritesDate (cs : List Char) (d : Date) : Prop :=
  ∃ year month day, Digits 4 year d.year ∧ Digits 2 month d.month ∧ Digits 2 day d.day ∧
    cs = year ++ '-' :: month ++ '-' :: day

theorem takeDate?_eq_some_iff {cs rest : List Char} {d : Date} :
    takeDate? cs = some (d, rest) ↔ ∃ ds, WritesDate ds d ∧ cs = ds ++ rest := by
  constructor
  · intro h
    simp only [takeDate?, Option.bind_eq_bind, Option.bind_eq_some_iff, Prod.exists,
      takeDigits?_eq_some_iff, after?_eq_some_iff, Date.of?_eq_some_iff, Option.pure_def,
      Option.some.injEq, Prod.mk.injEq] at h
    obtain ⟨_, _, ⟨year, hyear, rfl⟩, _, rfl, _, _, ⟨month, hmonth, rfl⟩, _, rfl, _, _,
      ⟨day, hday, rfl⟩, _, ⟨rfl, rfl, rfl⟩, rfl, rfl⟩ := h
    exact ⟨_, ⟨year, month, day, hyear, hmonth, hday, rfl⟩, by simp⟩
  · rintro ⟨_, ⟨year, month, day, hyear, hmonth, hday, rfl⟩, rfl⟩
    have hdate : Date.of? d.year d.month d.day = some d := Date.of?_eq_some_iff.2 ⟨rfl, rfl, rfl⟩
    simp [takeDate?, hyear.take, hmonth.take, hday.take, after?, hdate]

theorem writesDate_text (d : Date) : WritesDate d.text d := by
  have hyear := d.valid.year_le
  have hmonth := d.valid.month_le
  have hday : d.day ≤ 31 := Nat.le_trans d.valid.day_le (daysInMonth_le d.year d.month)
  refine ⟨_, _, _, digits_padded (by decide) ?_, digits_padded (by decide) ?_,
    digits_padded (by decide) ?_, rfl⟩
  · exact Nat.lt_succ_of_le hyear
  · exact Nat.lt_of_le_of_lt hmonth (by decide)
  · exact Nat.lt_of_le_of_lt hday (by decide)

/-- A number of seconds as `hh:mm` or `hh:mm:ss`, with the minutes and the seconds at most 59. -/
inductive WritesSpan : List Char → ℕ → Prop where
  | minutes {hh mm : List Char} {h m : ℕ} : Digits 2 hh h → Digits 2 mm m → m ≤ 59 →
      WritesSpan (hh ++ ':' :: mm) (h * 3600 + m * 60)
  | seconds {hh mm ss : List Char} {h m s : ℕ} : Digits 2 hh h → Digits 2 mm m → Digits 2 ss s →
      m ≤ 59 → s ≤ 59 → WritesSpan (hh ++ ':' :: mm ++ ':' :: ss) (h * 3600 + m * 60 + s)

theorem readSpan?_eq_some_iff {cs : List Char} {span : ℕ} :
    readSpan? cs = some span ↔ WritesSpan cs span := by
  constructor
  · intro h
    simp only [readSpan?, Option.bind_eq_bind, Option.bind_eq_some_iff, Prod.exists,
      takeDigits?_eq_some_iff, after?_eq_some_iff] at h
    obtain ⟨_, _, ⟨hh, hhours, rfl⟩, _, rfl, _, rest, ⟨mm, hminutes, rfl⟩, h⟩ := h
    -- After the minutes the text ends, or a colon and the seconds are all the rest of it.
    cases rest with
    | nil =>
      simp only [Option.bind_some, Option.ite_none_right_eq_some, Option.some.injEq] at h
      obtain ⟨⟨hle, -⟩, rfl⟩ := h
      rw [List.append_nil, Nat.add_zero]
      exact .minutes hhours hminutes (by omega)
    | cons c rest =>
      simp only [Option.bind_eq_some_iff, Prod.exists, takeDigits?_eq_some_iff,
        after?_eq_some_iff] at h
      obtain ⟨_, hc, _, tail, ⟨ss, hseconds, rfl⟩, h⟩ := h
      rw [hc]
      cases tail with
      | nil =>
        simp only [if_true, Option.bind_some, Option.ite_none_right_eq_some,
          Option.some.injEq] at h
        obtain ⟨⟨hle, hlt⟩, rfl⟩ := h
        rw [List.append_nil]
        have hwrites := WritesSpan.seconds hhours hminutes hseconds (by omega) (by omega)
        simpa using hwrites
      | cons d tail => simp at h
  · intro h
    cases h with
    | minutes hhours hminutes hle =>
      simp only [readSpan?, hhours.take, hminutes.take_all, after?, if_true, Option.bind_eq_bind,
        Option.bind_some]
      rw [if_pos ⟨by omega, by omega⟩, Nat.add_zero]
    | seconds hhours hminutes hseconds hle hlt =>
      simp only [readSpan?, List.append_assoc, List.cons_append, hhours.take, hminutes.take,
        hseconds.take_all, after?, if_true, Option.bind_eq_bind, Option.bind_some]
      exact if_pos ⟨by omega, by omega⟩

/-- An offset of at most `limit` seconds: `Z`, or its span after a plus sign for the east of
Greenwich and a minus sign for the west. -/
inductive WritesOffset (limit : ℕ) : List Char → ℤ → Prop where
  | zulu : WritesOffset limit ['Z'] 0
  | east {cs : List Char} {span : ℕ} : WritesSpan cs span → span ≤ limit →
      WritesOffset limit ('+' :: cs) span
  | west {cs : List Char} {span : ℕ} : WritesSpan cs span → span ≤ limit →
      WritesOffset limit ('-' :: cs) (-span)

theorem readOffset?_eq_some_iff {limit : ℕ} {cs : List Char} {o : ℤ} :
    readOffset? limit cs = some o ↔ WritesOffset limit cs o := by
  constructor
  · intro h
    unfold readOffset? at h
    split at h
    · cases h
      exact .zulu
    · simp only [Option.bind_eq_bind, Option.bind_eq_some_iff, readSpan?_eq_some_iff,
        Option.ite_none_right_eq_some, Option.some.injEq] at h
      obtain ⟨span, hspan, hle, rfl⟩ := h
      exact .east hspan hle
    · simp only [Option.bind_eq_bind, Option.bind_eq_some_iff, readSpan?_eq_some_iff,
        Option.ite_none_right_eq_some, Option.some.injEq] at h
      obtain ⟨span, hspan, hle, rfl⟩ := h
      exact .west hspan hle
    · cases h
  · intro h
    cases h with
    | zulu => rfl
    | east hspan hle => simp [readOffset?, readSpan?_eq_some_iff.2 hspan, hle]
    | west hspan hle => simp [readOffset?, readSpan?_eq_some_iff.2 hspan, hle]

theorem WritesSpan.characters {cs : List Char} {span : ℕ} (h : WritesSpan cs span) :
    ∀ c ∈ cs, c.isDigit = true ∨ c = ':' := by
  have hdigits {n v : ℕ} {ds : List Char} (hds : Digits n ds v) :
      ∀ c ∈ ds, c.isDigit = true ∨ c = ':' := fun c hc => .inl (hds.isDigit c hc)
  cases h with
  | minutes hhours hminutes =>
    rw [List.forall_mem_append, List.forall_mem_cons]
    exact ⟨hdigits hhours, .inr rfl, hdigits hminutes⟩
  | seconds hhours hminutes hseconds =>
    simp only [List.forall_mem_append, List.forall_mem_cons]
    exact ⟨⟨hdigits hhours, .inr trivial, hdigits hminutes⟩, .inr trivial, hdigits hseconds⟩

/-- An offset is known by its first character. -/
theorem WritesOffset.head {limit : ℕ} {cs : List Char} {o : ℤ} (h : WritesOffset limit cs o) :
    ∃ c rest, cs = c :: rest ∧ c ∈ ['Z', '+', '-'] := by
  cases h with
  | zulu => exact ⟨'Z', [], rfl, by simp⟩
  | east => exact ⟨'+', _, rfl, by simp⟩
  | west => exact ⟨'-', _, rfl, by simp⟩

theorem WritesOffset.natAbs_le {limit : ℕ} {cs : List Char} {o : ℤ}
    (h : WritesOffset limit cs o) : o.natAbs ≤ limit := by
  cases h with
  | zulu => exact Nat.zero_le limit
  | east _ hle => exact hle
  | west _ hle => rwa [Int.natAbs_neg, Int.natAbs_natCast]

/-- What may follow a date or a time of day: nothing or an offset of at most 18 hours. -/
inductive WritesOptionalOffset : List Char → Option ℤ → Prop where
  | absent : WritesOptionalOffset [] none
  | present {cs : List Char} {o : ℤ} : WritesOffset 64800 cs o →
      WritesOptionalOffset cs (some o)

theorem readOptionalOffset?_eq_some_iff {cs : List Char} {offset : Option ℤ} :
    readOptionalOffset? cs = some offset ↔ WritesOptionalOffset cs offset := by
  have hmax : maxOffset = 64800 := rfl
  unfold readOptionalOffset?
  rw [hmax]
  constructor
  · intro h
    split at h
    · next hnil =>
      cases h
      rw [hnil]
      exact .absent
    · obtain ⟨o, ho, rfl⟩ := Option.map_eq_some_iff.1 h
      exact .present (readOffset?_eq_some_iff.1 ho)
  · intro h
    cases h with
    | absent => rfl
    | present ho =>
      obtain ⟨c, rest, rfl, -⟩ := ho.head
      rw [if_neg (List.cons_ne_nil c rest), readOffset?_eq_some_iff.2 ho]
      rfl

/-- Hours and minutes in digits, and the seconds where there are any. -/
def spanText (span : ℕ) : List Char :=
  padded 2 (span / 3600) ++ ':' :: padded 2 (span / 60 % 60) ++
    if span % 60 = 0 then [] else ':' :: padded 2 (span % 60)

/-- An offset in digits with its sign, a plus where it is zero. -/
def offsetText (o : ℤ) : List Char :=
  (if o < 0 then '-' else '+') :: spanText o.natAbs

/-- Two digits are enough for the hours of a span below a hundred of them. -/
theorem writesSpan_spanText {span : ℕ} (h : span < 360000) : WritesSpan (spanText span) span := by
  have htwo {n : ℕ} (hn : n < 100) : Digits 2 (padded 2 n) n := digits_padded (by decide) hn
  have hhours := htwo (n := span / 3600) (by omega)
  have hminutes := htwo (n := span / 60 % 60) (by omega)
  have hseconds := htwo (n := span % 60) (by omega)
  unfold spanText
  split
  · next hzero =>
    have hsum : span / 3600 * 3600 + span / 60 % 60 * 60 = span := by omega
    have hwrites := WritesSpan.minutes hhours hminutes (by omega)
    rwa [hsum, ← List.append_nil (_ ++ _)] at hwrites
  · have hsum : span / 3600 * 3600 + span / 60 % 60 * 60 + span % 60 = span := by omega
    have hwrites := WritesSpan.seconds hhours hminutes hseconds (by omega) (by omega)
    rwa [hsum] at hwrites

theorem writesOffset_offsetText {limit : ℕ} {o : ℤ} (hlimit : limit < 360000)
    (h : o.natAbs ≤ limit) : WritesOffset limit (offsetText o) o := by
  have hspan : WritesSpan (spanText o.natAbs) o.natAbs := writesSpan_spanText (by omega)
  unfold offsetText
  split
  · have hvalue : -(o.natAbs : ℤ) = o := by omega
    have hwrites := WritesOffset.west hspan h
    rwa [hvalue] at hwrites
  · have hvalue : (o.natAbs : ℤ) = o := by omega
    have hwrites := WritesOffset.east hspan h
    rwa [hvalue] at hwrites

end FieldFormats.Calendar
