import FieldFormats.Proofs.IbanVerdicts
import Mathlib.Data.Nat.Prime.Int
import Mathlib.Tactic.NormNum.Prime
import Mathlib.Tactic.Ring
/-! # Typing errors in IBANs

One character written for another, or two that have changed places. As long as digits stay digits
and letters stay letters, the numeral keeps its length, and the error moves it by a difference of
two values times a power of ten, or times the difference of two such powers. Neither is a multiple
of 97 in a text as short as an IBAN, so the check never misses the error, whatever country the
mistyped value is taken for. What is no letter or digit of ASCII is dropped from a value, and a
value that has lost a character has no country or not the length of its country. -/
namespace FieldFormats.Iban

open FieldFormats.Text

/-- Two digits, or two letters, that are different. Upper and lower case of a letter are not. -/
inductive Unlike (c d : Char) : Prop where
  | digit (left : c.isDigit = true) (right : d.isDigit = true) (different : c ≠ d)
  | letter (left : c.isAlpha = true) (right : d.isAlpha = true)
      (different : c.toUpper ≠ d.toUpper)

/-- What the check needs to know of two such characters. -/
structure Differ (c d : Char) : Prop where
  left : IsPlain c
  right : IsPlain d
  values : (valueOf? c).getD 0 ≠ (valueOf? d).getD 0
  widths : (digitsOf [c]).length = (digitsOf [d]).length

theorem Differ.symm {c d : Char} (h : Differ c d) : Differ d c :=
  ⟨h.right, h.left, h.values.symm, h.widths.symm⟩

theorem toUpper_of_isDigit {c : Char} (h : c.isDigit = true) : c.toUpper = c := by
  apply dif_neg
  rintro ⟨hle, -⟩
  have hlow : 97 ≤ c.toNat := hle
  have := toNat_of_isDigit h
  omega

theorem isUpper_toUpper_of_isAlpha {c : Char} (h : c.isAlpha = true) : c.toUpper.isUpper = true := by
  have hall : ∀ n < 128, (Char.ofNat n).isAlpha = true → (Char.ofNat n).toUpper.isUpper = true := by
    decide
  have hrange := toNat_of_isAlphanum (Bool.or_eq_true_iff.2 (Or.inl h))
  have hc := hall c.toNat (by omega)
  rw [Char.ofNat_toNat] at hc
  exact hc h

theorem length_digitsOf_of_isUpper {c : Char} (h : c.isUpper = true) :
    (digitsOf [c]).length = 2 := by
  have := toNat_of_isUpper h
  rw [digitsOf_cons, valueOf?_of_isUpper h, Option.getD_some, List.length_append,
    length_numeral_of_lt_hundred (by omega) (by omega)]
  rfl

/-- In capital letters, as they are checked. -/
theorem Unlike.differ {c d : Char} (h : Unlike c d) : Differ c.toUpper d.toUpper := by
  cases h with
  | digit hc hd hne =>
    have hcn := toNat_of_isDigit hc
    have hdn := toNat_of_isDigit hd
    rw [toUpper_of_isDigit hc, toUpper_of_isDigit hd]
    refine ⟨Or.inr hc, Or.inr hd, ?_, ?_⟩
    · rw [valueOf?_of_isDigit hc, valueOf?_of_isDigit hd]
      intro hvalue
      apply hne
      apply Char.toNat_inj.1
      have heq : c.toNat - 48 = d.toNat - 48 := hvalue
      omega
    · rw [digitsOf_of_isDigit (by simpa using hc), digitsOf_of_isDigit (by simpa using hd)]
      rfl
  | letter hc hd hne =>
    have hcu := isUpper_toUpper_of_isAlpha hc
    have hdu := isUpper_toUpper_of_isAlpha hd
    have hcn := toNat_of_isUpper hcu
    have hdn := toNat_of_isUpper hdu
    refine ⟨Or.inl hcu, Or.inl hdu, ?_, ?_⟩
    · rw [valueOf?_of_isUpper hcu, valueOf?_of_isUpper hdu]
      intro hvalue
      apply hne
      apply Char.toNat_inj.1
      have heq : c.toUpper.toNat - 65 + 10 = d.toUpper.toNat - 65 + 10 := hvalue
      omega
    · rw [length_digitsOf_of_isUpper hcu, length_digitsOf_of_isUpper hdu]

theorem Unlike.isAlphanum {c d : Char} (h : Unlike c d) :
    c.isAlphanum = true ∧ d.isAlphanum = true := by
  cases h with
  | digit hc hd => exact ⟨Bool.or_eq_true_iff.2 (Or.inr hc), Bool.or_eq_true_iff.2 (Or.inr hd)⟩
  | letter hc hd => exact ⟨Bool.or_eq_true_iff.2 (Or.inl hc), Bool.or_eq_true_iff.2 (Or.inl hd)⟩

section Numerals

variable {c d : Char} {front mid back : List Char}

theorem wideNumeral_singleton (c : Char) : wideNumeral [c] = (valueOf? c).getD 0 := by
  rw [wideNumeral, digitsOf_cons]
  exact (congrArg decimal (List.append_nil _)).trans (decimal_numeral _)

theorem wideNumeral_middle (front back : List Char) (c : Char) :
    wideNumeral (front ++ c :: back) =
      10 ^ (digitsOf back).length *
        (10 ^ (digitsOf [c]).length * wideNumeral front + (valueOf? c).getD 0) +
        wideNumeral back := by
  have hsplit : front ++ c :: back = front ++ [c] ++ back := by simp
  rw [hsplit, wideNumeral_append, wideNumeral_append, wideNumeral_singleton]

theorem coprime_pow_ten (n : ℕ) : Nat.Coprime 97 (10 ^ n) :=
  Nat.Coprime.pow_right n (by decide)

theorem valueOf_lt (c : Char) : (valueOf? c).getD 0 < 97 := by
  cases h : valueOf? c with
  | none => decide
  | some v =>
    have := valueOf?_lt h
    exact Nat.lt_trans this (by decide)

theorem length_digitsOf_le (cs : List Char) : (digitsOf cs).length ≤ 2 * cs.length := by
  induction cs with
  | nil => exact Nat.le_refl _
  | cons c cs ih =>
    have hlt := valueOf_lt c
    have hc : (numeral ((valueOf? c).getD 0)).length ≤ 2 :=
      (Nat.length_toDigits_le_iff (by decide) (by decide)).2 (by omega)
    rw [digitsOf_cons, List.length_append, List.length_cons]
    omega

/-- One character for another, at any place. -/
theorem Differ.not_modEq (h : Differ c d) (front back : List Char) :
    ¬ wideNumeral (front ++ c :: back) ≡ wideNumeral (front ++ d :: back) [MOD 97] := by
  intro heq
  rw [wideNumeral_middle, wideNumeral_middle, h.widths] at heq
  have hproducts := Nat.ModEq.cancel_left_of_coprime (coprime_pow_ten _)
    (Nat.ModEq.add_right_cancel' _ heq)
  have hvalues := Nat.ModEq.add_left_cancel' _ hproducts
  exact h.values (hvalues.eq_of_lt_of_lt (valueOf_lt c) (valueOf_lt d))

/-- The powers of ten run through 96 remainders before they come back to 1. -/
theorem pow_ten_mod_ne_one {k : ℕ} (hpos : 0 < k) (hk : k < 96) : 10 ^ k % 97 ≠ 1 := by
  have hall : ∀ n < 96, 0 < n → 10 ^ n % 97 ≠ 1 := by
    decide +kernel
  exact hall k hk hpos

/-- The difference of the two sides is a product of two differences. -/
theorem eq_of_exchange {p a b : ℕ} (hp : p % 97 ≠ 1) (ha : a < 97) (hb : b < 97)
    (h : p * a + b ≡ p * b + a [MOD 97]) : a = b := by
  have hproduct : ((p * b + a : ℕ) : ℤ) - (p * a + b : ℕ) = ((p : ℤ) - 1) * ((b : ℤ) - a) := by
    push_cast
    ring
  have hdvd := Nat.modEq_iff_dvd.1 h
  rw [hproduct] at hdvd
  have hprime : Nat.Prime 97 := by norm_num
  rcases (Nat.prime_iff_prime_int.1 hprime).dvd_or_dvd hdvd with hpower | hvalues
  · push_cast at hpower
    omega
  · push_cast at hvalues
    omega

/-- Two characters for each other, with fewer than 96 decimal places from one to the other. -/
theorem Differ.exchange_not_modEq (h : Differ c d)
    (hnear : (digitsOf mid).length + (digitsOf [d]).length < 96) (front back : List Char) :
    ¬ wideNumeral (front ++ c :: (mid ++ d :: back)) ≡
      wideNumeral (front ++ d :: (mid ++ c :: back)) [MOD 97] := by
  intro heq
  have hwidth : ∀ e, (digitsOf (mid ++ e :: back)).length =
      (digitsOf mid).length + (digitsOf [e]).length + (digitsOf back).length := by
    intro e
    have hsplit : mid ++ e :: back = mid ++ [e] ++ back := by simp
    rw [hsplit, digitsOf_append, digitsOf_append, List.length_append, List.length_append]
  have hpos : 0 < (digitsOf [d]).length := by
    rw [digitsOf_cons, List.length_append]
    exact Nat.add_pos_left (List.length_pos_iff.2 (numeral_ne_nil _)) _
  -- What the two have in common drops out, and so do the decimal places behind both characters.
  have hshape : ∀ p q f x m y r : ℕ, p * q * (f + x) + (q * (m + y) + r) =
      q * (p * x + y) + (q * (p * f + m) + r) := by
    intros
    ring
  rw [wideNumeral_middle, wideNumeral_middle, wideNumeral_middle, wideNumeral_middle, hwidth,
    hwidth, h.widths, pow_add, hshape, hshape] at heq
  have hvalues := Nat.ModEq.cancel_left_of_coprime (coprime_pow_ten _)
    (Nat.ModEq.add_right_cancel' _ heq)
  exact h.values (eq_of_exchange (pow_ten_mod_ne_one (by omega) hnear) (valueOf_lt c)
    (valueOf_lt d) hvalues)

end Numerals

section Rotation

/-- A cut of a text falls before a character in it or behind it. -/
theorem cut_middle (n : ℕ) (front : List Char) :
    (∃ m, ∀ c back, (front ++ c :: back).take n = front.take m ∧
      (front ++ c :: back).drop n = front.drop m ++ c :: back) ∨
    ∃ m, ∀ c back, (front ++ c :: back).take n = front ++ c :: back.take m ∧
      (front ++ c :: back).drop n = back.drop m := by
  by_cases h : n ≤ front.length
  · refine Or.inl ⟨n, fun c back => ⟨?_, ?_⟩⟩
    · exact List.take_append_of_le_length h
    · exact List.drop_append_of_le_length h
  · refine Or.inr ⟨n - front.length - 1, fun c back => ?_⟩
    have hn : n - front.length = n - front.length - 1 + 1 := by omega
    rw [List.take_append, List.drop_append, List.take_of_length_le (by omega),
      List.drop_of_length_le (by omega), hn]
    exact ⟨rfl, rfl⟩

theorem rotated_middle (front back : List Char) :
    ∃ before after, ∀ c, rotated (front ++ c :: back) = before ++ c :: after := by
  rcases cut_middle headLength front with ⟨m, hcut⟩ | ⟨m, hcut⟩
  · refine ⟨front.drop m, back ++ front.take m, fun c => ?_⟩
    rw [rotated, (hcut c back).1, (hcut c back).2, List.append_assoc, List.cons_append]
  · refine ⟨back.drop m ++ front, back.take m, fun c => ?_⟩
    rw [rotated, (hcut c back).1, (hcut c back).2, List.append_assoc]

/-- Two characters keep their order or the later one comes first, wherever the cut falls. -/
theorem rotated_two (front mid back : List Char) :
    ∃ before between after,
      (∀ c d, rotated (front ++ c :: (mid ++ d :: back)) = before ++ c :: (between ++ d :: after)) ∨
      ∀ c d, rotated (front ++ c :: (mid ++ d :: back)) =
        before ++ d :: (between ++ c :: after) := by
  rcases cut_middle headLength front with ⟨m, hcut⟩ | ⟨n, hcut⟩
  · refine ⟨front.drop m, mid, back ++ front.take m, Or.inl fun c d => ?_⟩
    rw [rotated, (hcut c _).1, (hcut c _).2]
    simp
  · rcases cut_middle n mid with ⟨m, hmid⟩ | ⟨m, hmid⟩
    · refine ⟨mid.drop m, back ++ front, mid.take m, Or.inr fun c d => ?_⟩
      rw [rotated, (hcut c _).1, (hcut c _).2, (hmid d back).1, (hmid d back).2]
      simp
    · refine ⟨back.drop m ++ front, mid, back.take m, Or.inl fun c d => ?_⟩
      rw [rotated, (hcut c _).1, (hcut c _).2, (hmid d back).1, (hmid d back).2]
      simp

end Rotation

theorem normalize_middle {c : Char} (h : c.isAlphanum = true) (front back : List Char) :
    normalize (front ++ c :: back) = normalize front ++ c.toUpper :: normalize back := by
  rw [normalize_append]
  congr 1
  rw [normalize, List.filter_cons_of_pos h]
  rfl

theorem normalize_dropped {c : Char} (h : c.isAlphanum = false) (front back : List Char) :
    normalize (front ++ c :: back) = normalize front ++ normalize back := by
  rw [normalize_append, normalize_cons_of_not_isAlphanum h]

namespace Grammar

variable {g : Grammar} {country cs : List Char}

theorem isUpper_of_describes (hc : IsCountryCode country) (h : g.Describes country cs) :
    ∃ c, cs[1]? = some c ∧ c.isUpper = true := by
  obtain ⟨check, bban, rfl, -⟩ := h
  obtain ⟨a, b, rfl⟩ := List.length_eq_two.1 hc.length
  exact ⟨b, rfl, hc.capitals b (by simp)⟩

theorem isDigit_of_describes (hc : IsCountryCode country) (h : g.Describes country cs) :
    ∃ c, cs[2]? = some c ∧ c.isDigit = true := by
  obtain ⟨check, bban, rfl, ⟨hlength, hdigits⟩, -⟩ := h
  obtain ⟨a, b, rfl⟩ := List.length_eq_two.1 hc.length
  obtain ⟨d, e, rfl⟩ := List.length_eq_two.1 hlength
  exact ⟨d, rfl, hdigits d (by simp)⟩

end Grammar

namespace Registry

variable {r : Registry} {rows : List Table.Record} {front back : List Char} {c : Char}
  {f g : Format}

/-- A candidate that one of the formats accepts, and what the check says of it. -/
structure Passes (r : Registry) (f : Format) (candidate : List Char) : Prop where
  member : f ∈ r.formats
  country : IsCountryCode f.countryCode.toList
  described : f.grammar.Describes f.countryCode.toList candidate
  short : candidate.length ≤ maxLength
  numeral : wideNumeral (rotated candidate) ≡ 1 [MOD 97]

theorem passes_of_accepts (hr : r.Holds rows) {v : String} (hv : v ≠ "")
    (h : r.accepts v = true) : ∃ f, r.Passes f (normalize v.toList) := by
  rw [accepts_eq hr hv, judgesPlainly_iff] at h
  obtain ⟨code, f, -, hf, hpattern, hvalid⟩ := h
  have hmem := ((find?_eq_some_iff hr).1 hf).1
  obtain ⟨row, -, hrow⟩ := (hr.mem_iff f).1 hmem
  have hdescribes := (hrow.fitsPattern_iff _).1 hpattern
  have hplain := Grammar.isPlain_of_describes hrow.countryCode hdescribes
  have hlength := (Grammar.lengths_of_describes hrow.countryCode hdescribes).2
  have hwidth := hrow.legal.width
  have hhead : headLength ≤ (normalize v.toList).length := by
    rw [hlength]
    exact Nat.le_add_right headLength _
  have hremainder : remainder? (normalize v.toList) = some 1 := of_decide_eq_true hvalid
  rw [remainder?_of_isPlain hhead hplain, Option.some.injEq] at hremainder
  refine ⟨f, hmem, hrow.countryCode, hdescribes, ?_, hremainder⟩
  rw [hlength]
  exact Nat.add_le_add_left hwidth headLength

/-- One of the first two characters cannot be left out, as a digit would come to stand in the
country code. After them the country is the same, and so is the length that its format asks for. -/
theorem Passes.not_passes_without (h : r.Passes f (front ++ c :: back)) (hr : r.Holds rows) :
    ¬ r.Passes g (front ++ back) := by
  intro k
  by_cases hfront : 2 ≤ front.length
  · have hcode : f.countryCode = g.countryCode := by
      have hleft := take_of_describes h.country h.described
      have hright := take_of_describes k.country k.described
      rw [List.take_append_of_le_length hfront] at hleft hright
      exact String.toList_inj.1 (hleft.symm.trans hright)
    have hsame : f = g := AscendingBy.eq_of_key hr.ascending h.member k.member hcode
    have hlong := Grammar.describes_length h.described
    have hshort := Grammar.describes_length k.described
    rw [hsame] at hlong
    simp only [List.length_append, List.length_cons] at hlong hshort
    omega
  · obtain ⟨d, hd, hdigit⟩ := Grammar.isDigit_of_describes h.country h.described
    obtain ⟨e, he, hupper⟩ := Grammar.isUpper_of_describes k.country k.described
    have hplace : 2 - front.length = 1 - front.length + 1 := by omega
    rw [List.getElem?_append_right (by omega), hplace, List.getElem?_cons_succ] at hd
    rw [List.getElem?_append_right (by omega), hd, Option.some.injEq] at he
    have := toNat_of_isDigit hdigit
    have := toNat_of_isUpper hupper
    rw [he] at *
    omega

theorem ofList_ne_empty (front back : List Char) (c : Char) :
    String.ofList (front ++ c :: back) ≠ "" := by
  simp

/-- One letter or digit written for a different one of its kind is always found out, and so is one
for which something stands that is no letter or digit of ASCII. -/
theorem rejects_mistyped {table text : String} {r : Registry}
    (hload : (load table text).result = .ok r) (front back : List Char) {c d : Char}
    (h : Unlike c d ∨ c.isAlphanum = true ∧ d.isAlphanum = false)
    (haccepts : r.accepts (String.ofList (front ++ c :: back)) = true) :
    r.accepts (String.ofList (front ++ d :: back)) = false := by
  rw [← Bool.not_eq_true]
  intro hmissed
  have hr := load_holds hload
  obtain ⟨f, hright⟩ := passes_of_accepts hr (ofList_ne_empty _ _ _) haccepts
  obtain ⟨g, hwrong⟩ := passes_of_accepts hr (ofList_ne_empty _ _ _) hmissed
  rw [String.toList_ofList] at hright hwrong
  rcases h with hunlike | ⟨hkept, hdropped⟩
  · rw [normalize_middle hunlike.isAlphanum.1] at hright
    rw [normalize_middle hunlike.isAlphanum.2] at hwrong
    obtain ⟨before, after, hrotated⟩ := rotated_middle (normalize front) (normalize back)
    have hnumerals := hright.numeral.trans hwrong.numeral.symm
    rw [hrotated, hrotated] at hnumerals
    exact hunlike.differ.not_modEq before after hnumerals
  · rw [normalize_middle hkept] at hright
    rw [normalize_dropped hdropped] at hwrong
    exact hright.not_passes_without hr hwrong

/-- A digit at the end, a letter of the country code so that it names another country, and a letter
that is not in the alphabet. -/
theorem rejects_mistyped_dutch :
    ∃ r, (load "countries.tsv" twoCountries).result = .ok r ∧
      r.accepts "NL91 ABNA 0417 1643 00" = true ∧ r.accepts "NL91 ABNA 0417 1643 09" = false ∧
      r.accepts "No91 ABNA 0417 1643 00" = false ∧
      r.accepts "NL91 AßNA 0417 1643 00" = false := by
  have hverdict : ((load "countries.tsv" twoCountries).result.toOption.map fun r =>
      r.accepts "NL91 ABNA 0417 1643 00") = some true := by
    decide +kernel
  cases hr : (load "countries.tsv" twoCountries).result with
  | error e =>
    rw [hr] at hverdict
    cases hverdict
  | ok r =>
    rw [hr] at hverdict
    have haccepts : r.accepts "NL91 ABNA 0417 1643 00" = true := Option.some.inj hverdict
    refine ⟨r, rfl, haccepts, ?_, ?_, ?_⟩
    · have hdigits : Unlike '0' '9' := .digit rfl rfl (by decide)
      exact rejects_mistyped hr "NL91 ABNA 0417 1643 0".toList [] (Or.inl hdigits) haccepts
    · have hletters : Unlike 'L' 'o' := .letter rfl rfl (by decide)
      exact rejects_mistyped hr ['N'] "91 ABNA 0417 1643 00".toList (Or.inl hletters) haccepts
    · have hforeign : 'B'.isAlphanum = true ∧ 'ß'.isAlphanum = false := by decide
      exact rejects_mistyped hr "NL91 A".toList "NA 0417 1643 00".toList (Or.inr hforeign) haccepts

/-- Two different letters, or digits, that have changed places are always found out. -/
theorem rejects_exchanged {table text : String} {r : Registry}
    (hload : (load table text).result = .ok r) (front mid back : List Char) {c d : Char}
    (h : Unlike c d)
    (haccepts : r.accepts (String.ofList (front ++ c :: (mid ++ d :: back))) = true) :
    r.accepts (String.ofList (front ++ d :: (mid ++ c :: back))) = false := by
  rw [← Bool.not_eq_true]
  intro hmissed
  have hr := load_holds hload
  obtain ⟨f, hright⟩ := passes_of_accepts hr (ofList_ne_empty _ _ _) haccepts
  obtain ⟨g, hwrong⟩ := passes_of_accepts hr (ofList_ne_empty _ _ _) hmissed
  rw [String.toList_ofList, normalize_middle h.isAlphanum.1,
    normalize_middle h.isAlphanum.2] at hright
  rw [String.toList_ofList, normalize_middle h.isAlphanum.2,
    normalize_middle h.isAlphanum.1] at hwrong
  obtain ⟨before, between, after, hrotated⟩ :=
    rotated_two (normalize front) (normalize mid) (normalize back)
  have hnumerals := hright.numeral.trans hwrong.numeral.symm
  have hlength := hright.short
  rw [← length_rotated] at hlength
  -- An IBAN has no room for characters 96 decimal places apart.
  have hnear : ∀ e, between.length + 2 ≤ maxLength →
      (digitsOf between).length + (digitsOf [e]).length < 96 := by
    intro e hroom
    have hbetween := length_digitsOf_le between
    have he := length_digitsOf_le [e]
    have hmax : maxLength = 34 := rfl
    rw [List.length_singleton] at he
    omega
  rcases hrotated with hrotated | hrotated
  · rw [hrotated] at hlength
    rw [hrotated, hrotated] at hnumerals
    refine h.differ.exchange_not_modEq (hnear _ ?_) before after hnumerals
    simp only [List.length_append, List.length_cons] at hlength
    omega
  · rw [hrotated] at hlength
    rw [hrotated, hrotated] at hnumerals
    refine h.differ.symm.exchange_not_modEq (hnear _ ?_) before after hnumerals
    simp only [List.length_append, List.length_cons] at hlength
    omega

/-- The last digit changes places with a check digit, and a letter of the country code with one of
the BBAN. -/
theorem rejects_exchanged_dutch :
    ∃ r, (load "countries.tsv" twoCountries).result = .ok r ∧
      r.accepts "nl91-abna-0417-1643-00" = true ∧ r.accepts "nl01-abna-0417-1643-09" = false ∧
      r.accepts "bl91-anna-0417-1643-00" = false := by
  have hverdict : ((load "countries.tsv" twoCountries).result.toOption.map fun r =>
      r.accepts "nl91-abna-0417-1643-00") = some true := by
    decide +kernel
  cases hr : (load "countries.tsv" twoCountries).result with
  | error e =>
    rw [hr] at hverdict
    cases hverdict
  | ok r =>
    rw [hr] at hverdict
    have haccepts : r.accepts "nl91-abna-0417-1643-00" = true := Option.some.inj hverdict
    refine ⟨r, rfl, haccepts, ?_, ?_⟩
    · have hdigits : Unlike '9' '0' := .digit rfl rfl (by decide)
      exact rejects_exchanged hr ['n', 'l'] "1-abna-0417-1643-0".toList [] hdigits haccepts
    · have hletters : Unlike 'n' 'b' := .letter rfl rfl (by decide)
      exact rejects_exchanged hr [] "l91-a".toList "na-0417-1643-00".toList hletters haccepts

end Registry

end FieldFormats.Iban
