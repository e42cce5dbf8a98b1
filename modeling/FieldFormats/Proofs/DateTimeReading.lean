import FieldFormats.Proofs.IsoForms
import Mathlib.Data.List.TakeWhile
/-! # Which texts are date-times

A date-time is read from exactly the texts of its format, with no part of it lost: the fraction is
exact, the offset keeps its sign and the zone its name. Written out in full it reads back, and no
text is both a date and a date-time. -/
namespace FieldFormats.Calendar

open FieldFormats.Text

/-- A text is cut where the first character stands that does not belong to its front. -/
theorem cut_append {p : Char → Bool} {cs rest : List Char} (hcs : ∀ c ∈ cs, p c = true)
    (hrest : ∀ c ∈ rest.head?, p c = false) :
    (cs ++ rest).takeWhile p = cs ∧ (cs ++ rest).dropWhile p = rest := by
  rw [List.takeWhile_append_of_pos hcs, List.dropWhile_append_of_pos hcs]
  cases rest with
  | nil => simp
  | cons c rest => simp [hrest c rfl]

/-- No time of day goes on in such a text. -/
def Detached (rest : List Char) : Prop :=
  ∀ c ∈ rest.head?, c.isDigit = false ∧ c ≠ ':' ∧ c ≠ '.'

/-- A fraction of a second in nanoseconds: none, or a point and `k` digits, one to nine of them,
which stand for `v / 10 ^ k` of a second. -/
inductive WritesFraction : List Char → ℕ → Prop where
  | whole : WritesFraction [] 0
  | digits {ds : List Char} {k v n : ℕ} : Digits k ds v → 1 ≤ k → k ≤ 9 →
      v * Nat.pow 10 9 = n * Nat.pow 10 k → WritesFraction ('.' :: ds) n

/-- Zeros on the right of a fraction change nothing. -/
theorem nanosecondsOf_mul {ds : List Char} (h : ds.length ≤ 9) :
    decimal ds * Nat.pow 10 9 = nanosecondsOf ds * Nat.pow 10 ds.length := by
  have htake : (ds ++ List.replicate 9 '0').take 9 =
      ds ++ List.replicate (9 - ds.length) '0' := by
    rw [List.take_append, List.take_of_length_le h, List.take_replicate, Nat.min_eq_left (by omega)]
  have hvalue : nanosecondsOf ds = Nat.pow 10 (9 - ds.length) * decimal ds := by
    rw [nanosecondsOf, htake, decimal, Nat.ofDigitChars_append, Nat.ofDigitChars_replicate_zero]
    rfl
  have hpow : Nat.pow 10 (9 - ds.length) * Nat.pow 10 ds.length = Nat.pow 10 9 := by
    have hadd := Nat.pow_add 10 (9 - ds.length) ds.length
    rw [Nat.sub_add_cancel h] at hadd
    exact hadd.symm
  rw [hvalue, ← hpow]
  ac_rfl

theorem takeFraction?_sound {cs rest : List Char} {n : ℕ} (h : takeFraction? cs = some (n, rest)) :
    ∃ fs, WritesFraction fs n ∧ cs = fs ++ rest := by
  unfold takeFraction? at h
  split at h
  · next tail =>
    dsimp only at h
    split at h
    · cases h
    · next hlength =>
      cases h
      rw [not_or, Nat.not_lt] at hlength
      refine ⟨'.' :: tail.takeWhile Char.isDigit, .digits ⟨rfl, ?_, rfl⟩ ?_ hlength.2
        (nanosecondsOf_mul hlength.2), ?_⟩
      · exact fun c => List.mem_takeWhile_imp
      · exact List.length_pos_iff.2 hlength.1
      · rw [List.cons_append, List.takeWhile_append_dropWhile]
  · cases h
    exact ⟨[], .whole, rfl⟩

theorem WritesFraction.take {fs rest : List Char} {n : ℕ} (h : WritesFraction fs n)
    (hrest : Detached rest) : takeFraction? (fs ++ rest) = some (n, rest) := by
  cases h with
  | whole =>
    cases rest with
    | nil => rfl
    | cons c rest => simp [takeFraction?, (hrest c rfl).2.2]
  | @digits ds k v n hds hpos hle hexact =>
    obtain ⟨htake, hdrop⟩ := cut_append hds.isDigit fun c hc => (hrest c hc).1
    have hne : ¬ (ds = [] ∨ 9 < ds.length) := by
      rw [← List.length_eq_zero_iff, hds.length]
      omega
    have hvalue : nanosecondsOf ds = n := by
      have hmul := nanosecondsOf_mul (hds.length.trans_le hle)
      rw [hds.length, hds.value, hexact] at hmul
      exact (Nat.eq_of_mul_eq_mul_right (Nat.pow_pos (by decide)) hmul).symm
    rw [List.cons_append, takeFraction?, htake, hdrop, if_neg hne, hvalue]

/-- What follows the minutes of a time of day: nothing, or the seconds and their fraction. -/
inductive WritesSeconds : List Char → ℕ → ℕ → Prop where
  | full : WritesSeconds [] 0 0
  | digits {ss fs : List Char} {s n : ℕ} : Digits 2 ss s → WritesFraction fs n →
      WritesSeconds (':' :: ss ++ fs) s n

theorem takeSeconds?_sound {cs rest : List Char} {s n : ℕ}
    (h : takeSeconds? cs = some (s, n, rest)) :
    ∃ ss, WritesSeconds ss s n ∧ cs = ss ++ rest := by
  unfold takeSeconds? at h
  split at h
  · simp only [Option.bind_eq_bind, Option.bind_eq_some_iff, Prod.exists, Option.pure_def,
      takeDigits?_eq_some_iff, Option.some.injEq, Prod.mk.injEq] at h
    obtain ⟨_, _, ⟨ss, hss, rfl⟩, _, _, hfraction, rfl, rfl, rfl⟩ := h
    obtain ⟨fs, hfs, rfl⟩ := takeFraction?_sound hfraction
    exact ⟨_, .digits hss hfs, by simp⟩
  · cases h
    exact ⟨[], .full, rfl⟩

theorem WritesSeconds.take {ss rest : List Char} {s n : ℕ} (h : WritesSeconds ss s n)
    (hrest : Detached rest) : takeSeconds? (ss ++ rest) = some (s, n, rest) := by
  cases h with
  | full =>
    cases rest with
    | nil => rfl
    | cons c rest => simp [takeSeconds?, (hrest c rfl).2.1]
  | digits hss hfs => simp [takeSeconds?, hss.take, hfs.take hrest]

theorem TimeOfDay.of?_eq_some_iff {hour minute second nanosecond : ℕ} {t : TimeOfDay} :
    TimeOfDay.of? hour minute second nanosecond = some t ↔
      t.hour = hour ∧ t.minute = minute ∧ t.second = second ∧ t.nanosecond = nanosecond := by
  constructor
  · intro h
    unfold TimeOfDay.of? at h
    split at h
    · cases h
      exact ⟨rfl, rfl, rfl, rfl⟩
    · cases h
  · rintro ⟨rfl, rfl, rfl, rfl⟩
    exact dif_pos t.valid

/-- `hh:mm`, `hh:mm:ss`, or `hh:mm:ss` with a fraction. That the time exists, at most 23:59:59 and a
fraction, is in the type of times. -/
def WritesTime (cs : List Char) (t : TimeOfDay) : Prop :=
  ∃ hh mm ss, Digits 2 hh t.hour ∧ Digits 2 mm t.minute ∧
    WritesSeconds ss t.second t.nanosecond ∧ cs = hh ++ ':' :: mm ++ ss

theorem takeTime?_sound {cs rest : List Char} {t : TimeOfDay} (h : takeTime? cs = some (t, rest)) :
    ∃ ts, WritesTime ts t ∧ cs = ts ++ rest := by
  simp only [takeTime?, Option.bind_eq_bind, Option.bind_eq_some_iff, Prod.exists,
    takeDigits?_eq_some_iff, after?_eq_some_iff, TimeOfDay.of?_eq_some_iff, Option.pure_def,
    Option.some.injEq, Prod.mk.injEq] at h
  obtain ⟨_, _, ⟨hh, hhour, rfl⟩, _, rfl, _, _, ⟨mm, hminute, rfl⟩, _, _, _, hseconds, _,
    ⟨rfl, rfl, rfl, rfl⟩, rfl, rfl⟩ := h
  obtain ⟨ss, hss, rfl⟩ := takeSeconds?_sound hseconds
  exact ⟨_, ⟨hh, mm, ss, hhour, hminute, hss, rfl⟩, by simp⟩

theorem WritesTime.take {ts rest : List Char} {t : TimeOfDay} (h : WritesTime ts t)
    (hrest : Detached rest) : takeTime? (ts ++ rest) = some (t, rest) := by
  obtain ⟨hh, mm, ss, hhour, hminute, hss, rfl⟩ := h
  have htime : TimeOfDay.of? t.hour t.minute t.second t.nanosecond = some t :=
    TimeOfDay.of?_eq_some_iff.2 ⟨rfl, rfl, rfl, rfl⟩
  simp [takeTime?, hhour.take, hminute.take, hss.take hrest, after?, htime]

/-- An ASCII letter and then ASCII letters, digits or any of `_ + - . /`. -/
def ZoneName (name : List Char) : Prop :=
  ∃ c cs, name = c :: cs ∧ c.isAlpha = true ∧
    ∀ d ∈ cs, d.isAlphanum = true ∨ d ∈ ['_', '+', '-', '.', '/']

theorem isZoneChar_iff {c : Char} :
    isZoneChar c = true ↔ c.isAlphanum = true ∨ c ∈ ['_', '+', '-', '.', '/'] := by
  rw [isZoneChar, Bool.or_eq_true, decide_eq_true_eq]

theorem readZoneRest?_eq_some_iff {cs name : List Char} :
    readZoneRest? cs = some name ↔
      (∀ d ∈ name, isZoneChar d = true) ∧ cs = name ++ [']'] := by
  induction cs generalizing name with
  | nil => simp [readZoneRest?]
  | cons c cs ih =>
    rw [readZoneRest?]
    cases name with
    | nil =>
      split
      · next h => simp [h]
      · next h => split <;> simp [h]
    | cons d name =>
      split
      · next h => simp [h.2]
      · split
        · next hc =>
          simp only [Option.map_eq_some_iff, ih, List.cons.injEq, List.forall_mem_cons,
            List.cons_append]
          constructor
          · rintro ⟨_, ⟨hname, hcs⟩, rfl, rfl⟩
            exact ⟨⟨hc, hname⟩, rfl, hcs⟩
          · rintro ⟨⟨-, hname⟩, rfl, hcs⟩
            exact ⟨name, ⟨hname, hcs⟩, rfl, rfl⟩
        · next hc =>
          simp only [reduceCtorEq, List.forall_mem_cons, List.cons_append, List.cons.injEq,
            false_iff]
          rintro ⟨⟨hd, -⟩, rfl, -⟩
          exact hc hd

theorem readZone?_eq_some_iff {cs : List Char} {name : String} :
    readZone? cs = some name ↔ ZoneName name.toList ∧ cs = '[' :: name.toList ++ [']'] := by
  constructor
  · intro h
    unfold readZone? at h
    split at h
    · next c cs =>
      split at h
      · next hc =>
        obtain ⟨rest, hrest, rfl⟩ := Option.map_eq_some_iff.1 h
        obtain ⟨hmem, rfl⟩ := readZoneRest?_eq_some_iff.1 hrest
        rw [String.toList_ofList]
        exact ⟨⟨c, rest, rfl, hc, fun d hd => isZoneChar_iff.1 (hmem d hd)⟩, rfl⟩
      · cases h
    · cases h
  · rintro ⟨⟨c, ds, hname, hc, hds⟩, rfl⟩
    have hrest : readZoneRest? (ds ++ [']']) = some ds :=
      readZoneRest?_eq_some_iff.2 ⟨fun d hd => isZoneChar_iff.2 (hds d hd), rfl⟩
    have hread : readZone? ('[' :: (c :: ds) ++ [']']) = some (String.ofList (c :: ds)) := by
      simp [readZone?, hc, hrest]
    rw [hname, hread, ← hname, String.ofList_toList]

/-- The end of a date-time: an offset or none, and a zone's name only after an offset. -/
inductive WritesEnd : List Char → Option ℤ → Option String → Prop where
  | unnamed {cs : List Char} {offset : Option ℤ} : WritesOptionalOffset cs offset →
      WritesEnd cs offset none
  | named {cs : List Char} {o : ℤ} {name : String} : WritesOffset 64800 cs o →
      ZoneName name.toList → WritesEnd (cs ++ '[' :: name.toList ++ [']']) (some o) (some name)

theorem WritesEnd.detached {cs : List Char} {offset : Option ℤ} {zone : Option String}
    (h : WritesEnd cs offset zone) : Detached cs := by
  have hoffset {cs : List Char} {o : ℤ} (ho : WritesOffset 64800 cs o) (tail : List Char) :
      Detached (cs ++ tail) := by
    obtain ⟨c, rest, rfl, hc⟩ := ho.head
    intro d hd
    obtain rfl : c = d := by simpa using hd
    simp only [List.mem_cons, List.not_mem_nil, or_false] at hc
    rcases hc with rfl | rfl | rfl <;> decide
  cases h with
  | unnamed h =>
    cases h with
    | absent => simp [Detached]
    | present ho => simpa using hoffset ho []
  | named ho => simpa using hoffset ho _

theorem WritesOffset.ne_bracket {limit : ℕ} {cs : List Char} {o : ℤ}
    (h : WritesOffset limit cs o) : ∀ c ∈ cs, c ≠ '[' := by
  have hspan {cs : List Char} {span : ℕ} (hcs : WritesSpan cs span) : ∀ c ∈ cs, c ≠ '[' := by
    rintro c hc rfl
    rcases hcs.characters _ hc with hdigit | hcolon
    · exact absurd hdigit (by decide)
    · exact absurd hcolon (by decide)
  cases h with
  | zulu => simp
  | east hcs => exact List.forall_mem_cons.2 ⟨by decide, hspan hcs⟩
  | west hcs => exact List.forall_mem_cons.2 ⟨by decide, hspan hcs⟩

/-- The bracket of a zone ends an offset. -/
theorem WritesOffset.cut {limit : ℕ} {cs : List Char} {o : ℤ} (h : WritesOffset limit cs o)
    (zone : List Char) (hzone : ∀ c ∈ zone.head?, c = '[') :
    (cs ++ zone).takeWhile (· ≠ '[') = cs ∧ (cs ++ zone).dropWhile (· ≠ '[') = zone :=
  cut_append (fun c hc => decide_eq_true (h.ne_bracket c hc))
    fun c hc => decide_eq_false (not_not_intro (hzone c hc))

theorem readOffsetAndZone?_eq_some_iff {cs : List Char} {offset : Option ℤ}
    {zone : Option String} :
    readOffsetAndZone? cs = some (offset, zone) ↔ WritesEnd cs offset zone := by
  have hmax : maxOffset = 64800 := rfl
  constructor
  · intro h
    -- The two parts at the first bracket are the whole text, whether or not there is one.
    have hcs := List.takeWhile_append_dropWhile (p := (· ≠ '[')) (l := cs)
    unfold readOffsetAndZone? at h
    dsimp only at h
    split at h
    · next hdrop =>
      simp only [Option.map_eq_some_iff, Prod.mk.injEq, readOptionalOffset?_eq_some_iff] at h
      obtain ⟨_, hoffset, rfl, rfl⟩ := h
      rw [hdrop, List.append_nil] at hcs
      rw [hcs] at hoffset
      exact .unnamed hoffset
    · simp only [Option.bind_eq_bind, Option.bind_eq_some_iff, readOffset?_eq_some_iff,
        readZone?_eq_some_iff, Option.pure_def, Option.some.injEq, Prod.mk.injEq, hmax] at h
      obtain ⟨o, ho, name, ⟨hname, hdrop⟩, rfl, rfl⟩ := h
      rw [hdrop] at hcs
      rw [← hcs]
      have hwrites := WritesEnd.named ho hname
      simpa using hwrites
  · intro h
    cases h with
    | unnamed h =>
      cases h with
      | absent => rfl
      | present ho =>
        obtain ⟨htake, hdrop⟩ := ho.cut [] (by simp)
        rw [List.append_nil] at htake hdrop
        have hoffset := readOptionalOffset?_eq_some_iff.2 (.present ho)
        simp only [readOffsetAndZone?, htake, hdrop, hoffset, Option.map_some]
    | @named cs o name ho hname =>
      obtain ⟨htake, hdrop⟩ := ho.cut ('[' :: (name.toList ++ [']'])) (by simp)
      have hzone : readZone? ('[' :: (name.toList ++ [']'])) = some name :=
        readZone?_eq_some_iff.2 ⟨hname, rfl⟩
      rw [List.append_assoc, List.cons_append]
      simp only [readOffsetAndZone?, htake, hdrop, hmax, readOffset?_eq_some_iff.2 ho, hzone]
      rfl

/-- `YYYY-MM-DD`, a `T`, a time of day, and an offset and a zone where they are written. -/
def WritesDateTime (cs : List Char) (t : IsoDateTime) : Prop :=
  ∃ date time rest, WritesDate date t.moment.date ∧ WritesTime time t.moment.time ∧
    WritesEnd rest t.offset t.zone ∧ cs = date ++ 'T' :: time ++ rest

theorem parseDateTime?_eq_some_iff {value : String} {t : IsoDateTime} :
    parseDateTime? value = some t ↔ WritesDateTime value.toList t := by
  constructor
  · intro h
    simp only [parseDateTime?, Option.bind_eq_bind, Option.bind_eq_some_iff, Prod.exists,
      takeDate?_eq_some_iff, after?_eq_some_iff, readOffsetAndZone?_eq_some_iff, Option.pure_def,
      Option.some.injEq] at h
    obtain ⟨_, _, ⟨date, hdate, hvalue⟩, _, rfl, _, rest, htaken, _, _, hend, rfl⟩ := h
    obtain ⟨time, htime, rfl⟩ := takeTime?_sound htaken
    exact ⟨date, time, rest, hdate, htime, hend, by simp [hvalue]⟩
  · rintro ⟨date, time, rest, hdate, htime, hend, hvalue⟩
    have htakeDate : takeDate? value.toList = some (t.moment.date, 'T' :: time ++ rest) :=
      takeDate?_eq_some_iff.2 ⟨date, hdate, by simp [hvalue]⟩
    have htakeTime := htime.take hend.detached
    have hrest := readOffsetAndZone?_eq_some_iff.2 hend
    simp [parseDateTime?, htakeDate, after?, htakeTime, hrest]

/-- A unit that divides the nanoseconds leaves a fraction that is exact in `k` digits. -/
theorem writesFraction_padded {n k unit : ℕ} (hpos : 1 ≤ k) (hle : k ≤ 9)
    (hunit : unit * Nat.pow 10 k = Nat.pow 10 9) (hexact : n % unit = 0)
    (hn : n < Nat.pow 10 9) : WritesFraction ('.' :: padded k (n / unit)) n := by
  have hcancel : n / unit * unit = n := Nat.div_mul_cancel (Nat.dvd_of_mod_eq_zero hexact)
  have hsmall : n / unit < Nat.pow 10 k := Nat.div_lt_of_lt_mul (by rwa [hunit])
  refine .digits (digits_padded hpos hsmall) hpos hle ?_
  rw [← hunit, ← Nat.mul_assoc, hcancel]

theorem writesFraction_fraction {n : ℕ} (h : n < nanosecondsPerSecond) :
    WritesFraction (TimeOfDay.fraction n) n := by
  have hn : n < Nat.pow 10 9 := h
  unfold TimeOfDay.fraction
  split
  · next hzero =>
    rw [hzero]
    exact .whole
  · split
    · next hmilli => exact writesFraction_padded (by decide) (by decide) rfl hmilli hn
    · split
      · next hmicro => exact writesFraction_padded (by decide) (by decide) rfl hmicro hn
      · have hnano := writesFraction_padded (k := 9) (by decide) (by decide) rfl (Nat.mod_one n) hn
        rwa [Nat.div_one] at hnano

theorem writesTime_text (t : TimeOfDay) : WritesTime t.text t := by
  have htwo {n : ℕ} (hn : n < 60) : Digits 2 (padded 2 n) n :=
    digits_padded (by decide) (hn.trans (by decide))
  refine ⟨_, _, _, htwo (t.valid.hour_lt.trans (by decide)), htwo t.valid.minute_lt,
    .digits (htwo t.valid.second_lt) (writesFraction_fraction t.valid.nanosecond_lt), ?_⟩
  simp [TimeOfDay.text]

namespace IsoDateTime

/-- The values that have a text: an offset of at most 18 hours, a name that a zone can have, and no
zone without an offset. -/
structure Sound (t : IsoDateTime) : Prop where
  offset_le : ∀ o ∈ t.offset, o.natAbs ≤ 64800
  zoneName : ∀ name ∈ t.zone, ZoneName name.toList
  zone_offset : t.zone.isSome → t.offset.isSome

/-- The date and the time of day in full, the offset in digits, the zone in brackets. -/
def text (t : IsoDateTime) : List Char :=
  t.moment.date.text ++ 'T' :: t.moment.time.text ++ t.offset.elim [] offsetText ++
    t.zone.elim [] fun name => '[' :: name.toList ++ [']']

/-- The numeral of an offset, and then the zone's name. -/
theorem writesEnd_text {t : IsoDateTime} (h : t.Sound) :
    WritesEnd (t.offset.elim [] offsetText ++
      t.zone.elim [] fun name => '[' :: name.toList ++ [']']) t.offset t.zone := by
  obtain ⟨moment, offset, zone⟩ := t
  have hoffset {o : ℤ} (ho : offset = some o) : WritesOffset 64800 (offsetText o) o :=
    writesOffset_offsetText (by decide) (h.offset_le o ho)
  cases offset with
  | none =>
    cases zone with
    | none => exact .unnamed .absent
    | some name => exact absurd (h.zone_offset rfl) (by simp)
  | some o =>
    cases zone with
    | none =>
      dsimp only [Option.elim]
      rw [List.append_nil]
      exact .unnamed (.present (hoffset rfl))
    | some name =>
      dsimp only [Option.elim]
      rw [← List.append_assoc]
      exact .named (hoffset rfl) (h.zoneName name rfl)

theorem writes_text {t : IsoDateTime} (h : t.Sound) : WritesDateTime t.text t :=
  ⟨_, _, _, writesDate_text t.moment.date, writesTime_text t.moment.time, writesEnd_text h,
    by simp [text]⟩

end IsoDateTime

theorem WritesDateTime.sound {cs : List Char} {t : IsoDateTime} (h : WritesDateTime cs t) :
    t.Sound := by
  obtain ⟨moment, offset, zone⟩ := t
  obtain ⟨date, time, rest, -, -, hend, -⟩ := h
  cases hend with
  | unnamed hoffset =>
    cases hoffset with
    | absent => exact ⟨by simp, by simp, by simp⟩
    | present ho => exact ⟨by simpa using ho.natAbs_le, by simp, by simp⟩
  | named ho hname => exact ⟨by simpa using ho.natAbs_le, by simpa using hname, by simp⟩

/-- After the day a date-time has a `T`, and no offset begins with one. -/
theorem parseDateTime?_eq_none_of_parseDate? {value : String} {d : IsoDate}
    (h : parseDate? value = some d) : parseDateTime? value = none := by
  simp only [parseDate?, Option.bind_eq_bind, Option.bind_eq_some_iff, Prod.exists,
    readOptionalOffset?_eq_some_iff] at h
  obtain ⟨date, rest, hdate, offset, hoffset, -⟩ := h
  have hrest : after? 'T' rest = none := by
    cases hoffset with
    | absent => rfl
    | present ho =>
      obtain ⟨c, tail, rfl, hc⟩ := ho.head
      refine if_neg ?_
      rintro rfl
      exact absurd hc (by decide)
  simp [parseDateTime?, hdate, hrest]

/-- Date-times are read from the texts of their format, each text as the one value that it writes.
The values that some text writes are the sound ones; such a value written out in full reads back.
No text is a date as well. -/
theorem dateTime_exact :
    (∀ value t, parseDateTime? value = some t ↔ WritesDateTime value.toList t) ∧
    (∀ t : IsoDateTime, t.Sound ↔ ∃ value, parseDateTime? value = some t) ∧
    (∀ t : IsoDateTime, t.Sound ↔ parseDateTime? (String.ofList t.text) = some t) ∧
    ∀ value, ¬ ((parseDate? value).isSome ∧ (parseDateTime? value).isSome) := by
  have hsound {value : String} {t : IsoDateTime} (h : parseDateTime? value = some t) : t.Sound :=
    (parseDateTime?_eq_some_iff.1 h).sound
  have htext {t : IsoDateTime} (h : t.Sound) : parseDateTime? (String.ofList t.text) = some t := by
    rw [parseDateTime?_eq_some_iff, String.toList_ofList]
    exact IsoDateTime.writes_text h
  refine ⟨fun value t => parseDateTime?_eq_some_iff, fun t => ⟨fun h => ⟨_, htext h⟩, ?_⟩,
    fun t => ⟨htext, hsound⟩, ?_⟩
  · rintro ⟨value, h⟩
    exact hsound h
  · rintro value ⟨hdate, hdateTime⟩
    obtain ⟨d, hd⟩ := Option.isSome_iff_exists.1 hdate
    rw [parseDateTime?_eq_none_of_parseDate? hd] at hdateTime
    cases hdateTime

example : (parseDateTime? "2019-02-28T10:15:30.5-02:00[America/Noronha]").map
    (fun t => String.ofList t.text) = some "2019-02-28T10:15:30.500-02:00[America/Noronha]" := by
  decide +kernel

end FieldFormats.Calendar
