import FieldFormats.Proofs.IbanVerdicts
/-! # Issuing IBANs

The check digits that are computed for a country and a BBAN are the ones that the check accepts,
up to a multiple of 97, and the IBAN they make is accepted by its format and its registry. -/
namespace FieldFormats.Iban

open FieldFormats.Text

section Issuing

variable {country bban check cs : List Char}

theorem checkDigits?_of_isPlain (hcountry : IsCountryCode country) (hbban : ∀ c ∈ bban, IsPlain c) :
    checkDigits? country bban = some (98 - 100 * wideNumeral (bban ++ country) % 97) := by
  have hall : country.all Char.isUpper = true := List.all_eq_true.2 hcountry.capitals
  have hplain : ∀ c ∈ bban ++ country ++ ['0', '0'], IsPlain c := by
    rw [List.forall_mem_append, List.forall_mem_append]
    refine ⟨⟨hbban, fun c hc => Or.inl (hcountry.capitals c hc)⟩, ?_⟩
    intro c hc
    rw [List.eq_of_mem_replicate (n := 2) hc]
    exact Or.inr rfl
  have hlength : ['0', '0'].length = 2 := rfl
  have hzeros := wideNumeral_append_check (bban ++ country) hlength (List.all_eq_true.1 rfl)
  rw [checkDigits?, if_pos ⟨hcountry.length, hall⟩, mod97?_of_isPlain hplain, hzeros]
  rfl

theorem checkDigits?_eq_none
    (h : ¬ (IsCountryCode country ∧ ∀ c ∈ bban, IsPlain c)) : checkDigits? country bban = none := by
  unfold checkDigits?
  split
  · next hcountry =>
    have hcode : IsCountryCode country := ⟨hcountry.1, List.all_eq_true.1 hcountry.2⟩
    have hbban : ¬ ∀ c ∈ bban ++ country ++ ['0', '0'], IsPlain c := by
      intro hall
      rw [List.append_assoc] at hall
      exact h ⟨hcode, (List.forall_mem_append.1 hall).1⟩
    rw [mod97?, mod97From_eq_none hbban]
    rfl
  · rfl

theorem decimal_lt_hundred (hlength : check.length = 2)
    (hdigits : ∀ c ∈ check, c.isDigit = true) : decimal check < 100 := by
  obtain ⟨a, b, rfl⟩ := List.length_eq_two.1 hlength
  have ha := toNat_of_isDigit (hdigits a (by simp))
  have hb := toNat_of_isDigit (hdigits b (by simp))
  have hzero : '0'.toNat = 48 := rfl
  simp only [decimal, Nat.ofDigitChars_cons, Nat.ofDigitChars_nil]
  omega

/-- Numbers of two digits that leave the same remainder are 97 apart. -/
theorem modEq_iff_alias {k d : ℕ} (hk : k < 100) (hlow : 2 ≤ d) (hhigh : d ≤ 98) :
    k ≡ d [MOD 97] ↔ k = d ∨ (k = 0 ∧ d = 97) ∨ (k = 1 ∧ d = 98) ∨ (k = 99 ∧ d = 2) := by
  rw [Nat.ModEq]
  omega

/-- Of the hundred pairs of digits those are valid that equal the computed one modulo 97. -/
theorem hasValidChecksum_iff_modEq (hcountry : IsCountryCode country)
    (hbban : ∀ c ∈ bban, IsPlain c) (hlength : check.length = 2)
    (hdigits : ∀ c ∈ check, c.isDigit = true) :
    hasValidChecksum (country ++ check ++ bban) = true ↔
      decimal check ≡ 98 - 100 * wideNumeral (bban ++ country) % 97 [MOD 97] := by
  rw [hasValidChecksum_iff_of_isPlain hcountry ⟨hlength, hdigits⟩ hbban,
    wideNumeral_append_check _ hlength hdigits, Nat.ModEq]
  omega

theorem normalize_of_isPlain (h : ∀ c ∈ cs, IsPlain c) : normalize cs = cs := by
  have hkeep : cs.filter Char.isAlphanum = cs :=
    List.filter_eq_self.2 fun c hc => (h c hc).isAlphanum
  have hupper : ∀ c ∈ cs, c.toUpper = c := by
    intro c hc
    apply dif_neg
    rintro ⟨hle, -⟩
    have hlow : 97 ≤ c.toNat := hle
    rcases h c hc with hcapital | hdigit
    · have := toNat_of_isUpper hcapital
      omega
    · have := toNat_of_isDigit hdigit
      omega
  rw [normalize, hkeep, List.map_congr_left hupper, List.map_id']

theorem exists_fits (ks : List CharClass) : ∃ bban, Fits ks bban := by
  induction ks with
  | nil => exact ⟨[], .nil⟩
  | cons k ks ih =>
    obtain ⟨bban, hbban⟩ := ih
    have hmember : ∃ c, k.admits c = true := by
      cases k with
      | digit => exact ⟨'0', rfl⟩
      | upper => exact ⟨'A', rfl⟩
      | alphanumeric => exact ⟨'A', rfl⟩
    obtain ⟨c, hc⟩ := hmember
    exact ⟨c :: bban, .cons hc hbban⟩

end Issuing

namespace Registry

variable {r : Registry} {rows : List Table.Record} {f : Format} {cs : List Char}

/-- What one of its formats accepts, a registry accepts. -/
theorem accepts_of_format (hr : r.Holds rows) (hf : f ∈ r.formats) (h : f.accepts cs = true) :
    r.accepts (String.ofList cs) = true := by
  simp only [Format.accepts, Bool.and_eq_true] at h
  obtain ⟨⟨-, hpattern⟩, hvalid⟩ := h
  obtain ⟨row, -, hrow⟩ := (hr.mem_iff f).1 hf
  have hdescribes := (hrow.fitsPattern_iff cs).1 hpattern
  have hcode := countryCode?_of_describes hrow.countryCode hdescribes
  have hplain := Grammar.isPlain_of_describes hrow.countryCode hdescribes
  have hne : String.ofList cs ≠ "" := by
    intro hempty
    have hnil := String.ofList_eq_empty_iff.1 hempty
    rw [hnil] at hcode
    cases hcode
  rw [accepts_eq hr hne, String.toList_ofList, normalize_of_isPlain hplain, judgesPlainly_iff]
  refine ⟨_, f, hcode, ?_, hpattern, hvalid⟩
  rw [String.ofList_toList]
  exact (find?_eq_some_iff hr).2 ⟨hf, rfl⟩

theorem accepts_of_issued (hr : r.Holds rows) (hf : f ∈ r.formats) {bban check : List Char}
    (hbban : Fits f.grammar.positions bban) (hlength : check.length = 2)
    (hdigits : ∀ c ∈ check, c.isDigit = true)
    (hvalid : hasValidChecksum (f.countryCode.toList ++ check ++ bban) = true) :
    f.accepts (f.countryCode.toList ++ check ++ bban) = true := by
  obtain ⟨row, -, hrow⟩ := (hr.mem_iff f).1 hf
  have hpattern := (hrow.fitsPattern_iff _).2
    (Grammar.describes_iff_fits.2 ⟨check, bban, rfl, ⟨hlength, hdigits⟩, hbban⟩)
  rw [Format.accepts, hr.hasLength_of_fitsPattern hf hpattern, hpattern, hvalid]
  rfl

end Registry

/-- Check digits are issued for country codes and plain BBANs and for nothing else. They are the
valid ones, with one alias for three of the numbers. For each format of a registry there are BBANs,
and what is issued for them passes all its checks. -/
theorem issued_digits_valid :
    (∀ country bban, IsCountryCode country → (∀ c ∈ bban, IsPlain c) →
      ∃ d, checkDigits? country bban = some d ∧ 2 ≤ d ∧ d ≤ 98 ∧
        ∀ check : List Char, check.length = 2 → (∀ c ∈ check, c.isDigit = true) →
          (hasValidChecksum (country ++ check ++ bban) = true ↔ decimal check ≡ d [MOD 97]) ∧
          (decimal check ≡ d [MOD 97] ↔ decimal check = d ∨ (decimal check = 0 ∧ d = 97) ∨
            (decimal check = 1 ∧ d = 98) ∨ (decimal check = 99 ∧ d = 2))) ∧
    (∀ country bban, ¬ (IsCountryCode country ∧ ∀ c ∈ bban, IsPlain c) →
      checkDigits? country bban = none) ∧
    (∀ table text r, (Registry.load table text).result = .ok r → ∀ f ∈ r.formats,
      (∃ bban, Fits f.grammar.positions bban) ∧
      ∀ bban, Fits f.grammar.positions bban →
        ∃ d, checkDigits? f.countryCode.toList bban = some d ∧
          f.accepts (f.countryCode.toList ++ padded 2 d ++ bban) = true ∧
          r.accepts (String.ofList (f.countryCode.toList ++ padded 2 d ++ bban)) = true) := by
  refine ⟨?_, fun country bban => checkDigits?_eq_none, ?_⟩
  · intro country bban hcountry hbban
    refine ⟨_, checkDigits?_of_isPlain hcountry hbban, by omega, by omega, ?_⟩
    intro check hlength hdigits
    refine ⟨hasValidChecksum_iff_modEq hcountry hbban hlength hdigits, ?_⟩
    exact modEq_iff_alias (decimal_lt_hundred hlength hdigits) (by omega) (by omega)
  · intro table text r hload f hf
    have hr := Registry.load_holds hload
    obtain ⟨row, -, hrow⟩ := (hr.mem_iff f).1 hf
    refine ⟨exists_fits _, ?_⟩
    intro bban hbban
    have hplain := isPlain_of_fits hbban
    have hlt : 98 - 100 * wideNumeral (bban ++ f.countryCode.toList) % 97 < Nat.pow 10 2 :=
      Nat.lt_of_le_of_lt (Nat.sub_le _ _) (by decide)
    have hlength := length_padded (by decide : 0 < 2) hlt
    have hvalid := (hasValidChecksum_iff_modEq hrow.countryCode hplain hlength
      fun c => isDigit_of_mem_padded).2 (by rw [decimal_padded])
    have haccepts := Registry.accepts_of_issued hr hf hbban hlength
      (fun c => isDigit_of_mem_padded) hvalid
    exact ⟨_, checkDigits?_of_isPlain hrow.countryCode hplain, haccepts,
      Registry.accepts_of_format hr hf haccepts⟩

def norway : String := "Norway\t15\t11n\tNOkk bbbb cccc ccx\n"

/-- The BBAN `8` of `NL` is issued 97, so it is valid with 00 too; and the one format of a table
accepts what is issued for a BBAN of ones. -/
theorem issued_digits_valid_alias :
    checkDigits? ['N', 'L'] ['8'] = some 97 ∧ hasValidChecksum "NL978".toList = true ∧
      hasValidChecksum "NL008".toList = true ∧ checkDigits? ['n', 'l'] ['8'] = none ∧
      ∃ r f d, (Registry.load "iban.tsv" norway).result = .ok r ∧
        f ∈ r.formats ∧ checkDigits? f.countryCode.toList (List.replicate 11 '1') = some d ∧
        r.accepts (String.ofList
          (f.countryCode.toList ++ padded 2 d ++ List.replicate 11 '1')) = true := by
  obtain ⟨hissued, hnone, hformats⟩ := issued_digits_valid
  have hdutch : IsCountryCode ['N', 'L'] := ⟨rfl, List.all_eq_true.1 rfl⟩
  have hd : checkDigits? ['N', 'L'] ['8'] = some 97 := by
    decide +kernel
  obtain ⟨d, hsome, -, -, hvalid⟩ := hissued ['N', 'L'] ['8'] hdutch
    (List.forall_mem_cons.2 ⟨Or.inr rfl, by simp⟩)
  rw [hd, Option.some.injEq] at hsome
  subst hsome
  refine ⟨hd, (hvalid ['9', '7'] rfl (List.all_eq_true.1 rfl)).1.2 rfl,
    (hvalid ['0', '0'] rfl (List.all_eq_true.1 rfl)).1.2 rfl, hnone _ _ ?_, ?_⟩
  · rintro ⟨hlower, -⟩
    exact absurd (hlower.capitals 'n' (by simp)) (by decide)
  · have hpositions : ((Registry.load "iban.tsv" norway).result.toOption.map fun r =>
        r.formats.map (·.grammar.positions)) = some [List.replicate 11 .digit] := by
      decide +kernel
    cases hr : (Registry.load "iban.tsv" norway).result with
    | error e =>
      rw [hr] at hpositions
      cases hpositions
    | ok r =>
      rw [hr] at hpositions
      have hlist : r.formats.map (·.grammar.positions) = [List.replicate 11 .digit] :=
        Option.some.inj hpositions
      obtain ⟨f, hf⟩ := List.exists_mem_of_ne_nil _ (Registry.load_holds hr).nonempty
      have hdigits : f.grammar.positions = List.replicate 11 .digit := by
        have hmem := List.mem_map_of_mem (f := fun f : Format => f.grammar.positions) hf
        rw [hlist] at hmem
        exact List.mem_singleton.1 hmem
      have hfits : Fits f.grammar.positions (List.replicate 11 '1') := by
        rw [hdigits, fits_replicate_iff]
        exact ⟨rfl, fun c hc => List.eq_of_mem_replicate hc ▸ rfl⟩
      obtain ⟨d, hd, -, haccepts⟩ := (hformats _ _ r hr f hf).2 _ hfits
      exact ⟨r, f, d, rfl, hf, hd, haccepts⟩

end FieldFormats.Iban
