import FieldFormats.Calendar.WordDate
import FieldFormats.Proofs.AsciiText
import FieldFormats.Proofs.IsoForms
import FieldFormats.Proofs.NumberReading
import Mathlib.Data.List.Basic
/-! # Which texts are dates

A date is read from exactly the texts of its format. Words of 32 bits are enough for it, every day
and every offset of at most 18 hours has its text, and the day of a text is in its first ten
characters. -/
namespace FieldFormats.Calendar

open FieldFormats.Text

/-- `YYYY-MM-DD`, and behind it an offset or nothing. -/
def WritesIsoDate (cs : List Char) (d : IsoDate) : Prop :=
  ∃ date rest, WritesDate date d.date ∧ WritesOptionalOffset rest d.offset ∧ cs = date ++ rest

theorem parseDate?_eq_some_iff {value : String} {d : IsoDate} :
    parseDate? value = some d ↔ WritesIsoDate value.toList d := by
  constructor
  · intro h
    simp only [parseDate?, Option.bind_eq_bind, Option.bind_eq_some_iff, Prod.exists,
      takeDate?_eq_some_iff, readOptionalOffset?_eq_some_iff, Option.pure_def,
      Option.some.injEq] at h
    obtain ⟨_, rest, ⟨date, hdate, hvalue⟩, _, hoffset, rfl⟩ := h
    exact ⟨date, rest, hdate, hoffset, hvalue⟩
  · rintro ⟨date, rest, hdate, hoffset, hvalue⟩
    have htake : takeDate? value.toList = some (d.date, rest) :=
      takeDate?_eq_some_iff.2 ⟨date, hdate, hvalue⟩
    simp [parseDate?, htake, readOptionalOffset?_eq_some_iff.2 hoffset]

/-- What reads as a date without an offset is the date alone. -/
theorem parseDate?_without_offset_iff {value : String} {d : Date} :
    parseDate? value = some ⟨d, none⟩ ↔ WritesDate value.toList d := by
  rw [parseDate?_eq_some_iff]
  constructor
  · rintro ⟨date, rest, hdate, hoffset, hvalue⟩
    cases hoffset
    rwa [hvalue, List.append_nil]
  · intro hdate
    exact ⟨_, [], hdate, .absent, (List.append_nil _).symm⟩

/-- The value of a numeral tells the digits at its end, and what was read in front of them. -/
theorem eq_of_ofDigitChars {cs ds : List Char} {u v : ℕ} (hlength : cs.length = ds.length)
    (hcs : ∀ c ∈ cs, c.isDigit = true) (hds : ∀ c ∈ ds, c.isDigit = true)
    (h : Nat.ofDigitChars 10 cs u = Nat.ofDigitChars 10 ds v) : u = v ∧ cs = ds := by
  induction cs generalizing ds u v with
  | nil =>
    obtain rfl := List.length_eq_zero_iff.1 hlength.symm
    exact ⟨h, rfl⟩
  | cons c cs ih =>
    cases ds with
    | nil => cases hlength
    | cons d ds =>
      obtain ⟨hc, hcs⟩ := List.forall_mem_cons.1 hcs
      obtain ⟨hd, hds⟩ := List.forall_mem_cons.1 hds
      rw [Nat.ofDigitChars_cons, Nat.ofDigitChars_cons] at h
      obtain ⟨hvalue, rfl⟩ := ih (Nat.succ.inj hlength) hcs hds h
      have hzero : '0'.toNat = 48 := rfl
      have hcode := toNat_of_isDigit hc
      have hcode' := toNat_of_isDigit hd
      have hchar : c.toNat = d.toNat := by omega
      exact ⟨by omega, by rw [Char.toNat_inj.1 hchar]⟩

theorem Digits.toDecimal {n v : ℕ} {ds : List Char} (h : Digits n ds v) : Digits n ds (decimal ds) :=
  ⟨h.length, h.isDigit, rfl⟩

theorem Digits.unique {n v : ℕ} {cs ds : List Char} (h : Digits n cs v) (h' : Digits n ds v) :
    cs = ds :=
  (eq_of_ofDigitChars (h.length.trans h'.length.symm) h.isDigit h'.isDigit
    (h.value.trans h'.value.symm)).2

theorem WritesDate.unique {cs ds : List Char} {d : Date} (h : WritesDate cs d)
    (h' : WritesDate ds d) : cs = ds := by
  obtain ⟨year, month, day, hyear, hmonth, hday, rfl⟩ := h
  obtain ⟨year', month', day', hyear', hmonth', hday', rfl⟩ := h'
  rw [hyear.unique hyear', hmonth.unique hmonth', hday.unique hday']

theorem WritesDate.length {cs : List Char} {d : Date} (h : WritesDate cs d) : cs.length = 10 := by
  obtain ⟨year, month, day, hyear, hmonth, hday, rfl⟩ := h
  simp [hyear.length, hmonth.length, hday.length]

theorem WritesIsoDate.take {cs : List Char} {d : IsoDate} (h : WritesIsoDate cs d) :
    WritesDate (cs.take 10) d.date := by
  obtain ⟨date, rest, hdate, -, rfl⟩ := h
  rwa [← hdate.length, List.take_left]

theorem ofDigitChars_lt {cs : List Char} (u : ℕ) (hcs : ∀ c ∈ cs, c.isDigit = true) :
    Nat.ofDigitChars 10 cs u < Nat.pow 10 cs.length * (u + 1) := by
  induction cs generalizing u with
  | nil => simp
  | cons c cs ih =>
    obtain ⟨hc, hcs⟩ := List.forall_mem_cons.1 hcs
    have hcode := toNat_of_isDigit hc
    have hzero : '0'.toNat = 48 := rfl
    have hnext : 10 * u + (c.toNat - '0'.toNat) + 1 ≤ 10 * (u + 1) := by omega
    rw [Nat.ofDigitChars_cons, List.length_cons]
    calc Nat.ofDigitChars 10 cs (10 * u + (c.toNat - '0'.toNat))
        < Nat.pow 10 cs.length * (10 * u + (c.toNat - '0'.toNat) + 1) := ih _ hcs
      _ ≤ Nat.pow 10 cs.length * (10 * (u + 1)) := Nat.mul_le_mul_left _ hnext
      _ = Nat.pow 10 (cs.length + 1) * (u + 1) := (Nat.mul_assoc _ 10 (u + 1)).symm

theorem Digits.value_lt {n v : ℕ} {ds : List Char} (h : Digits n ds v) : v < Nat.pow 10 n := by
  have hlt := ofDigitChars_lt 0 h.isDigit
  rw [← h.value, ← h.length]
  simpa [decimal] using hlt

section Words

theorem takeRun?_eq_some_iff {n : ℕ} {cs ds rest : List Char} :
    takeRun? n cs = some (ds, rest) ↔ Digits n ds (decimal ds) ∧ cs = ds ++ rest := by
  constructor
  · intro h
    unfold takeRun? at h
    dsimp only at h
    split at h
    · next hds =>
      cases h
      exact ⟨⟨hds.1, List.all_eq_true.1 hds.2, rfl⟩, (List.take_append_drop n cs).symm⟩
    · cases h
  · rintro ⟨hds, rfl⟩
    have hall : ds.all Char.isDigit = true := List.all_eq_true.2 hds.isDigit
    simp [takeRun?, ← hds.length, hall]

theorem isSpanShape_iff {cs : List Char} :
    isSpanShape cs = true ↔
      ((pieces ':' cs).length = 2 ∨ (pieces ':' cs).length = 3) ∧
        ∀ p ∈ pieces ':' cs, Digits 2 p (decimal p) := by
  have hpart {p : List Char} : (p.length = 2 ∧ ∀ c ∈ p, c.isDigit = true) ↔
      Digits 2 p (decimal p) := ⟨fun h => ⟨h.1, h.2, rfl⟩, fun h => ⟨h.length, h.isDigit⟩⟩
  simp only [isSpanShape, Bool.and_eq_true, Bool.or_eq_true, decide_eq_true_eq, List.all_eq_true,
    hpart]

/-- Numbers of six digits are values of words, with a sign or without. -/
theorem toInt_ofInt {n : ℤ} (h : n.natAbs < 1000000) : (Int32.ofInt n).toInt = n :=
  Int32.toInt_ofInt_of_le (by omega) (by omega)

theorem ofInt_lt_ofInt {a b : ℤ} (ha : a.natAbs < 1000000) (hb : b.natAbs < 1000000) :
    Int32.ofInt a < .ofInt b ↔ a < b := by
  rw [Int32.lt_iff_toInt_lt, toInt_ofInt ha, toInt_ofInt hb]

theorem fitsWord_of_natAbs {n : ℤ} (h : n.natAbs < 1000000) : FitsWord n := by
  unfold FitsWord
  omega

theorem colon_not_mem {n v : ℕ} {ds : List Char} (h : Digits n ds v) : ':' ∉ ds :=
  fun hmem => absurd (h.isDigit _ hmem) (by decide)

theorem isSpanShape_of_writesSpan {cs : List Char} {span : ℕ} (h : WritesSpan cs span) :
    isSpanShape cs = true := by
  rw [isSpanShape_iff]
  cases h with
  | minutes hhours hminutes =>
    rw [pieces_append (colon_not_mem hhours), pieces_of_not_mem (colon_not_mem hminutes)]
    simp [hhours.toDecimal, hminutes.toDecimal]
  | seconds hhours hminutes hseconds =>
    rw [List.append_assoc, List.cons_append, pieces_append (colon_not_mem hhours),
      pieces_append (colon_not_mem hminutes), pieces_of_not_mem (colon_not_mem hseconds)]
    simp [hhours.toDecimal, hminutes.toDecimal, hseconds.toDecimal]

theorem exists_offsetPart {cs : List Char} {offset : Option ℤ} (h : WritesOptionalOffset cs offset) :
    ∃ part, offsetPart? cs = some part := by
  cases h with
  | absent => exact ⟨none, rfl⟩
  | present ho =>
    have hshape : isOffsetShape cs = true := by
      cases ho with
      | zulu => rfl
      | east hspan => exact isSpanShape_of_writesSpan hspan
      | west hspan => exact isSpanShape_of_writesSpan hspan
    obtain ⟨c, rest, rfl, -⟩ := ho.head
    exact ⟨some (c :: rest), by rw [offsetPart?, if_neg (List.cons_ne_nil c rest), if_pos hshape]⟩

theorem dateParts?_eq_some_iff {cs : List Char} {parts : DateParts} :
    dateParts? cs = some parts ↔ Digits 4 parts.year (decimal parts.year) ∧
      Digits 2 parts.month (decimal parts.month) ∧ Digits 2 parts.day (decimal parts.day) ∧
      ∃ rest, offsetPart? rest = some parts.offset ∧
        cs = parts.year ++ '-' :: parts.month ++ '-' :: parts.day ++ rest := by
  obtain ⟨year, month, day, offset⟩ := parts
  simp only [dateParts?, Option.bind_eq_bind, Option.bind_eq_some_iff, Prod.exists,
    takeRun?_eq_some_iff, after?_eq_some_iff, Option.pure_def, Option.some.injEq,
    DateParts.mk.injEq]
  constructor
  · rintro ⟨_, _, ⟨hyear, rfl⟩, _, rfl, _, _, ⟨hmonth, rfl⟩, _, rfl, _, rest, ⟨hday, rfl⟩, _, hpart,
      rfl, rfl, rfl, rfl⟩
    exact ⟨hyear, hmonth, hday, rest, hpart, by simp⟩
  · rintro ⟨hyear, hmonth, hday, rest, hpart, rfl⟩
    exact ⟨_, _, ⟨hyear, by simp⟩, _, rfl, _, _, ⟨hmonth, rfl⟩, _, rfl, _, _, ⟨hday, rfl⟩, _, hpart,
      rfl, rfl, rfl, rfl⟩

/-- What writes a date has the parts of one. -/
theorem exists_dateParts {cs : List Char} {d : IsoDate} (h : WritesIsoDate cs d) :
    ∃ parts, dateParts? cs = some parts := by
  obtain ⟨_, rest, ⟨year, month, day, hyear, hmonth, hday, rfl⟩, hoffset, rfl⟩ := h
  obtain ⟨part, hpart⟩ := exists_offsetPart hoffset
  exact ⟨⟨year, month, day, part⟩, dateParts?_eq_some_iff.2
    ⟨hyear.toDecimal, hmonth.toDecimal, hday.toDecimal, rest, hpart, rfl⟩⟩

namespace Word

theorem add_ofInt {a b : ℤ} (ha : a.natAbs < 1000000) (hb : b.natAbs < 1000000)
    (h : (a + b).natAbs < 1000000) : add (.ofInt a) (.ofInt b) = .ok (.ofInt (a + b)) := by
  rw [add, toInt_ofInt ha, toInt_ofInt hb, if_pos (fitsWord_of_natAbs h), Int32.ofInt_add]

theorem mul_ofInt {a b : ℤ} (ha : a.natAbs < 1000000) (hb : b.natAbs < 1000000)
    (h : (a * b).natAbs < 1000000) : mul (.ofInt a) (.ofInt b) = .ok (.ofInt (a * b)) := by
  rw [mul, toInt_ofInt ha, toInt_ofInt hb, if_pos (fitsWord_of_natAbs h), Int32.ofInt_mul]

theorem signed?_of_digits {n v : ℕ} {ds : List Char} (h : Digits n ds v) (hn : 0 < n)
    (hv : v < 1000000) : signed? ds = some (.ofInt v) := by
  have hne : ds ≠ [] := List.ne_nil_of_length_pos (h.length ▸ hn)
  have hread : readNumber? 0x80000000 ds = some v :=
    readNumber?_eq_some_iff.2 ⟨[], ds, rfl, Or.inl rfl, hne, h.isDigit, h.value, by omega⟩
  rw [signed?, hread]
  rfl

theorem unsigned?_of_digits {n v : ℕ} {ds : List Char} (h : Digits n ds v) (hn : 0 < n)
    (hv : v < 1000000) : unsigned? ds = some (.ofNat v) := by
  have hne : ds ≠ [] := List.ne_nil_of_length_pos (h.length ▸ hn)
  have hread : readNumber? 0x100000000 ds = some v :=
    readNumber?_eq_some_iff.2 ⟨[], ds, rfl, Or.inl rfl, hne, h.isDigit, h.value, by omega⟩
  rw [unsigned?, hread]
  rfl

/-- The parts of an offset have two digits each, which keeps every sum and product small. -/
theorem total_ofInt {h m s : ℕ} (hh : h < 100) (hm : m < 100) (hs : s < 100) :
    total (.ofInt h) (.ofInt m) (.ofInt s) = .ok (.ofInt (h * 3600 + m * 60 + s : ℕ)) := by
  have hhours := mul_ofInt (a := h) (b := 3600) (by omega) (by decide) (by omega)
  have hminutes := mul_ofInt (a := m) (b := 60) (by omega) (by decide) (by omega)
  have hsum := add_ofInt (a := h * 3600) (b := m * 60) (by omega) (by omega) (by omega)
  have htotal := add_ofInt (a := h * 3600 + m * 60) (b := s) (by omega) (by omega) (by omega)
  have hcast : ((h * 3600 + m * 60 + s : ℕ) : ℤ) = h * 3600 + m * 60 + s := by omega
  rw [total, show (3600 : Int32) = .ofInt 3600 from rfl, show (60 : Int32) = .ofInt 60 from rfl,
    hhours, hminutes]
  change (add (.ofInt (h * 3600)) (.ofInt (m * 60))).bind _ = _
  rw [hsum]
  change add (.ofInt (h * 3600 + m * 60)) (.ofInt s) = _
  rw [htotal, hcast]

/-- What is made of a span that the minutes and the seconds let pass. -/
theorem offsetOf_ofInt {sign : ℤ} {h m s : ℕ} (hsign : sign = 1 ∨ sign = -1) (hh : h < 100)
    (hm : m < 100) (hs : s < 100) :
    offsetOf (.ofInt sign) (.ofInt h) (.ofInt m) (.ofInt s) =
      .ok (((if m < 60 ∧ s < 60 then some (h * 3600 + m * 60 + s) else none).bind fun span =>
        if span ≤ maxOffset then some (sign * span) else none).map .ofInt) := by
  have hmax : maxOffset = 64800 := rfl
  have hsixty {n : ℕ} (hn : n < 100) : Int32.ofInt 59 < .ofInt n ↔ ¬ n < 60 := by
    rw [ofInt_lt_ofInt (by decide) (by omega)]
    omega
  rw [offsetOf, show (59 : Int32) = .ofInt 59 from rfl]
  by_cases hparts : m < 60 ∧ s < 60
  · rw [if_pos hparts, if_neg (by rw [hsixty hm, hsixty hs]; omega), total_ofInt hh hm hs,
      Option.bind_some]
    generalize hspan : h * 3600 + m * 60 + s = span
    have hspanLt : span < 1000000 := by omega
    change (if Int32.ofInt maxOffset < .ofInt span then _ else _) = _
    have hlimit : Int32.ofInt maxOffset < .ofInt span ↔ ¬ span ≤ maxOffset := by
      rw [ofInt_lt_ofInt (by decide) (by omega)]
      omega
    by_cases hle : span ≤ maxOffset
    · have hsigned : (sign * span).natAbs ≤ 64800 := by
        rcases hsign with rfl | rfl
        · omega
        · omega
      have hmul := mul_ofInt (a := sign) (b := span) (by omega) (by omega) (by omega)
      have hday : -86400 < Int32.ofInt (sign * span) ∧ Int32.ofInt (sign * span) < 86400 := by
        rw [show (-86400 : Int32) = .ofInt (-86400) from rfl,
          show (86400 : Int32) = .ofInt 86400 from rfl,
          ofInt_lt_ofInt (by decide) (by omega),
          ofInt_lt_ofInt (by omega) (by decide)]
        omega
      rw [if_neg (by rw [hlimit]; omega), if_pos hle, hmul]
      exact congrArg Except.ok (if_pos hday)
    · rw [if_pos (hlimit.2 hle), if_neg hle]
      rfl
  · rw [if_neg hparts, if_pos (by rw [hsixty hm, hsixty hs]; omega)]
    rfl

/-- Two or three parts of two digits are read as the span that they write. -/
theorem readSpan_eq {sign : ℤ} {cs : List Char} (hsign : sign = 1 ∨ sign = -1)
    (h : isSpanShape cs = true) :
    readSpan (.ofInt sign) cs = .ok (((readSpan? cs).bind fun span =>
      if span ≤ maxOffset then some (sign * span) else none).map .ofInt) := by
  have hword {v : ℕ} {ds : List Char} (hds : Digits 2 ds v) : signed? ds = some (.ofInt v) :=
    signed?_of_digits hds (by decide) (hds.value_lt.trans (by decide))
  obtain ⟨hlength, hdigits⟩ := isSpanShape_iff.1 h
  have hcs := joined_pieces ':' cs
  rcases hlength with hlength | hlength
  · obtain ⟨hh, mm, hpieces⟩ := List.length_eq_two.1 hlength
    rw [hpieces] at hcs hdigits
    have hhours := hdigits hh (by simp)
    have hminutes := hdigits mm (by simp)
    have hspan : readSpan? cs =
        if decimal mm < 60 ∧ 0 < 60 then some (decimal hh * 3600 + decimal mm * 60 + 0)
        else none := by
      rw [← hcs]
      simp only [joined, readSpan?, hhours.take, hminutes.take_all, after?, if_true,
        Option.bind_eq_bind, Option.bind_some]
    rw [readSpan, hpieces, hspan, List.map_cons, List.map_cons, List.map_nil, hword hhours,
      hword hminutes]
    exact offsetOf_ofInt (s := 0) hsign hhours.value_lt hminutes.value_lt (by decide)
  · obtain ⟨hh, mm, ss, hpieces⟩ := List.length_eq_three.1 hlength
    rw [hpieces] at hcs hdigits
    have hhours := hdigits hh (by simp)
    have hminutes := hdigits mm (by simp)
    have hseconds := hdigits ss (by simp)
    have hspan : readSpan? cs =
        if decimal mm < 60 ∧ decimal ss < 60 then
          some (decimal hh * 3600 + decimal mm * 60 + decimal ss)
        else none := by
      rw [← hcs]
      simp only [joined, readSpan?, hhours.take, hminutes.take, hseconds.take_all, after?, if_true,
        Option.bind_eq_bind, Option.bind_some]
    rw [readSpan, hpieces, hspan, List.map_cons, List.map_cons, List.map_cons, List.map_nil,
      hword hhours, hword hminutes, hword hseconds]
    exact offsetOf_ofInt hsign hhours.value_lt hminutes.value_lt hseconds.value_lt

theorem readOffset_eq {cs : List Char} (h : isOffsetShape cs = true) :
    readOffset cs = .ok ((readOffset? maxOffset cs).map .ofInt) := by
  unfold isOffsetShape at h
  split at h
  · rfl
  · next rest =>
    have hread : readOffset ('+' :: rest) = readSpan (.ofInt 1) rest := rfl
    rw [hread, readSpan_eq (Or.inl rfl) h]
    simp only [Int.one_mul, readOffset?, Option.bind_eq_bind]
  · next rest =>
    have hread : readOffset ('-' :: rest) = readSpan (.ofInt (-1)) rest := rfl
    rw [hread, readSpan_eq (Or.inr rfl) h]
    simp only [Int.neg_one_mul, readOffset?, Option.bind_eq_bind]
  · cases h

theorem readOptionalOffset_eq {cs : List Char} {part : Option (List Char)}
    (h : offsetPart? cs = some part) :
    readOptionalOffset part = .ok ((readOptionalOffset? cs).map (·.map .ofInt)) := by
  unfold offsetPart? at h
  split at h
  · next hnil =>
    cases h
    rw [hnil]
    rfl
  · next hne =>
    split at h
    · next hshape =>
      cases h
      rw [readOptionalOffset, readOffset_eq hshape, readOptionalOffset?, if_neg hne]
      cases readOffset? maxOffset cs with
      | none => rfl
      | some o => rfl
    · cases h

/-- The words of the parts have the values of their digits. -/
theorem readDate?_eq {parts : DateParts} (hyear : Digits 4 parts.year (decimal parts.year))
    (hmonth : Digits 2 parts.month (decimal parts.month))
    (hday : Digits 2 parts.day (decimal parts.day)) :
    readDate? parts =
      Date.of? (decimal parts.year) (decimal parts.month) (decimal parts.day) := by
  have hsmall {n v : ℕ} {ds : List Char} (hds : Digits n ds v) (hn : n ≤ 4) : v < 1000000 :=
    hds.value_lt.trans_le ((Nat.pow_le_pow_right (by decide) hn).trans (by decide))
  have hyearSmall := hsmall hyear (by decide)
  have hmonthSmall := hsmall hmonth (by decide)
  have hdaySmall := hsmall hday (by decide)
  have hvalue := toInt_ofInt (n := decimal parts.year) hyearSmall
  simp only [readDate?, signed?_of_digits hyear (by decide) hyearSmall,
    unsigned?_of_digits hmonth (by decide) hmonthSmall,
    unsigned?_of_digits hday (by decide) hdaySmall, Option.bind_eq_bind, Option.bind_some, hvalue,
    Int.toNat_natCast]
  rw [UInt32.toNat_ofNat_of_lt' (hmonthSmall.trans (by decide)),
    UInt32.toNat_ofNat_of_lt' (hdaySmall.trans (by decide))]

theorem parseDate_eq (value : String) : parseDate value = .ok (parseDate? value) := by
  unfold parseDate
  cases hparts : dateParts? value.toList with
  | none =>
    have hnone : parseDate? value = none := by
      rw [Option.eq_none_iff_forall_ne_some]
      intro d hd
      obtain ⟨parts, hsome⟩ := exists_dateParts (parseDate?_eq_some_iff.1 hd)
      rw [hparts] at hsome
      cases hsome
    rw [hnone]
    rfl
  | some parts =>
    obtain ⟨hyear, hmonth, hday, rest, hpart, hvalue⟩ := dateParts?_eq_some_iff.1 hparts
    have hparse : parseDate? value = (readDate? parts).bind fun date =>
        (readOptionalOffset? rest).bind fun offset => some ⟨date, offset⟩ := by
      rw [readDate?_eq hyear hmonth hday]
      simp [parseDate?, takeDate?, hvalue, hyear.take, hmonth.take, hday.take, after?,
        Option.bind_assoc]
    rw [hparse]
    dsimp only
    cases readDate? parts with
    | none => rfl
    | some date =>
      dsimp only
      rw [readOptionalOffset_eq hpart]
      cases hoffset : readOptionalOffset? rest with
      | none => rfl
      | some offset =>
        cases readOptionalOffset?_eq_some_iff.1 hoffset with
        | absent => rfl
        | @present _ o ho =>
          have hround : (Int32.ofInt o).toInt = o :=
            toInt_ofInt (ho.natAbs_le.trans_lt (by decide))
          change Except.ok (some (IsoDate.mk date (some (Int32.ofInt o).toInt))) = _
          rw [hround]
          rfl

end Word

end Words

/-- Every offset of at most 18 hours can be written behind every day. -/
theorem writesIsoDate_text {d : IsoDate} (h : ∀ o ∈ d.offset, o.natAbs ≤ 64800) :
    WritesIsoDate (d.date.text ++ d.offset.elim [] offsetText) d := by
  obtain ⟨date, offset⟩ := d
  refine ⟨_, _, writesDate_text date, ?_, rfl⟩
  cases offset with
  | none => exact .absent
  | some o => exact .present (writesOffset_offsetText (by decide) (h o rfl))

/-- Dates are read from the texts of their format, each text as the one value that it writes, and
words of 32 bits hold every number on the way. Every day has texts, without an offset and with every
offset of at most 18 hours; all texts of one value begin with the same ten characters. -/
theorem date_exact :
    (∀ value d, parseDate? value = some d ↔ WritesIsoDate value.toList d) ∧
    (∀ value, Word.parseDate value = .ok (parseDate? value)) ∧
    (∀ date, ∃ value, parseDate? value = some ⟨date, none⟩) ∧
    (∀ date (o : ℤ), -64800 ≤ o ∧ o ≤ 64800 ↔ ∃ value, parseDate? value = some ⟨date, some o⟩) ∧
    ∀ value other d, parseDate? value = some d ∧ parseDate? other = some d →
      value.toList.take 10 = other.toList.take 10 := by
  have hread {value : String} {d : IsoDate} : parseDate? value = some d ↔
      WritesIsoDate value.toList d := parseDate?_eq_some_iff
  have htext {d : IsoDate} (h : ∀ o ∈ d.offset, o.natAbs ≤ 64800) :
      ∃ value, parseDate? value = some d := by
    refine ⟨String.ofList (d.date.text ++ d.offset.elim [] offsetText), ?_⟩
    rw [hread, String.toList_ofList]
    exact writesIsoDate_text h
  refine ⟨fun value d => hread, Word.parseDate_eq, fun date => htext (by simp), ?_, ?_⟩
  · intro date o
    constructor
    · intro ho
      exact htext (by simp; omega)
    · rintro ⟨value, h⟩
      obtain ⟨-, rest, -, hoffset, -⟩ := hread.1 h
      cases hoffset with
      | present ho =>
        have hle := ho.natAbs_le
        omega
  · rintro value other d ⟨h, h'⟩
    exact (hread.1 h).take.unique (hread.1 h').take

example : (parseDate? "0000-02-29-18:00:00").map (·.offset) = some (some (-64800)) := by
  decide +kernel

end FieldFormats.Calendar
