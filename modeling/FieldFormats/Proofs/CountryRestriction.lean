import FieldFormats.Proofs.IbanVerdicts
/-! # Checks restricted to countries

A restricted check reads a value twice: the check itself sees the candidate without separators, the
restriction the first two bytes as they were given. Where it accepts, both name the same country. -/
namespace FieldFormats.Iban

open FieldFormats.Text

theorem takeBytes?_eq_some_iff {n : ℕ} {cs front : List Char} :
    takeBytes? n cs = some front ↔ ∃ back, cs = front ++ back ∧ byteLength front = n := by
  induction cs generalizing n front with
  | nil =>
    rw [takeBytes?]
    constructor
    · intro h
      split at h
      · next hn =>
        cases h
        exact ⟨[], rfl, hn.symm⟩
      · cases h
    · rintro ⟨back, hcs, rfl⟩
      obtain ⟨rfl, -⟩ := List.append_eq_nil_iff.1 hcs.symm
      rfl
  | cons c cs ih =>
    have hsize := Char.utf8Size_pos c
    rw [takeBytes?]
    by_cases hn : n = 0
    · rw [if_pos hn, Option.some.injEq]
      constructor
      · rintro rfl
        exact ⟨c :: cs, rfl, hn.symm⟩
      · rintro ⟨back, -, hfront⟩
        cases front with
        | nil => rfl
        | cons d front =>
          have hpos := Char.utf8Size_pos d
          rw [byteLength] at hfront
          omega
    · rw [if_neg hn]
      constructor
      · intro h
        split at h
        · next hle =>
          obtain ⟨tail, htail, rfl⟩ := Option.map_eq_some_iff.1 h
          obtain ⟨back, rfl, hlength⟩ := ih.1 htail
          refine ⟨back, rfl, ?_⟩
          rw [byteLength]
          omega
        · cases h
      · rintro ⟨back, hcs, hfront⟩
        cases front with
        | nil => exact absurd hfront.symm hn
        | cons d front =>
          obtain ⟨rfl, rfl⟩ := List.cons.inj hcs
          rw [byteLength] at hfront
          rw [if_pos (by omega), ih.2 ⟨back, rfl, by omega⟩]
          rfl

/-- A cut inside the front does not see what follows it. -/
theorem takeBytes?_append {n : ℕ} {front : List Char} (h : n ≤ byteLength front)
    (back : List Char) : takeBytes? n (front ++ back) = takeBytes? n front := by
  induction front generalizing n with
  | nil =>
    obtain rfl : n = 0 := Nat.le_zero.1 h
    cases back with
    | nil => rfl
    | cons c back => rfl
  | cons c front ih =>
    rw [byteLength] at h
    rw [List.cons_append, takeBytes?, takeBytes?]
    by_cases hn : n = 0
    · rw [if_pos hn, if_pos hn]
    · rw [if_neg hn, if_neg hn, ih (by omega)]

/-- Upper case keeps the bytes of every character, and so the place of a cut. -/
theorem takeBytes?_map_toUpper (n : ℕ) (cs : List Char) :
    takeBytes? n (cs.map Char.toUpper) = (takeBytes? n cs).map (·.map Char.toUpper) := by
  induction cs generalizing n with
  | nil =>
    rw [List.map_nil, takeBytes?]
    split
    · rfl
    · rfl
  | cons c cs ih =>
    rw [List.map_cons, takeBytes?, takeBytes?, utf8Size_toUpper, ih]
    split
    · rfl
    · split
      · rw [Option.map_map, Option.map_map]
        rfl
      · rfl

theorem normalize_of_separators {cs : List Char} (h : ∀ c ∈ cs, c.isAlphanum = false) :
    normalize cs = [] := by
  have hnone : cs.filter Char.isAlphanum = [] := by
    rw [List.filter_eq_nil_iff]
    intro c hc halphanum
    exact Bool.false_ne_true ((h c hc).symm.trans halphanum)
  rw [normalize, hnone, List.map_nil]

namespace Registry

variable {r : Registry} {v w : String}

/-- A blank value needs no rule of its own: no registry accepts the candidate without characters. -/
theorem accepts_iff_judge (hv : v ≠ "") :
    r.accepts v = true ↔ r.judge (normalize v.toList) = .accepted := by
  unfold accepts verdict Presence.of
  rw [if_neg hv, decide_eq_true_eq]
  by_cases hblank : isBlankText v = true
  · rw [if_pos hblank, normalize_of_isBlankText hblank]
    refine iff_of_false (by simp) ?_
    rw [judge_eq_accepted_iff]
    rintro ⟨-, code, f, hcode, -⟩
    cases hcode
  · rw [if_neg hblank]

theorem countryCode_of_find? {code : String} {f : Format} (h : r.find? code = some f) :
    f.countryCode = code := by
  unfold find? at h
  have hkey := List.find?_some h
  exact of_decide_eq_true hkey

theorem accepts_eq_of_normalize (hv : v ≠ "") (hw : w ≠ "")
    (h : normalize v.toList = normalize w.toList) : r.accepts v = r.accepts w := by
  rw [Bool.eq_iff_iff, accepts_iff_judge hv, accepts_iff_judge hw, h]

end Registry

namespace CountryScope

variable {countries : List String} {v w : String}

theorem mem_allowed_iff {code : String} :
    code ∈ (ofCountries countries).allowed ↔ ∃ country ∈ countries, code = upperCase country := by
  rw [ofCountries, mem_sortedSet, List.mem_map]
  constructor
  · rintro ⟨country, hcountry, rfl⟩
    exact ⟨country, hcountry, rfl⟩
  · rintro ⟨country, hcountry, rfl⟩
    exact ⟨country, hcountry, rfl⟩

theorem admits_iff {s : CountryScope} :
    s.admits v = true ↔ ∃ front back, v.toList = front ++ back ∧ byteLength front = 2 ∧
      upperCase (String.ofList front) ∈ s.allowed := by
  unfold admits
  cases hcode : countryCode? v.toList with
  | none =>
    refine iff_of_false Bool.false_ne_true ?_
    rintro ⟨front, back, hv, hbytes, -⟩
    have hcut : countryCode? v.toList = some front := takeBytes?_eq_some_iff.2 ⟨back, hv, hbytes⟩
    rw [hcut] at hcode
    cases hcode
  | some code =>
    obtain ⟨back, hv, hbytes⟩ := takeBytes?_eq_some_iff.1 hcode
    constructor
    · intro h
      exact ⟨code, back, hv, hbytes, List.contains_iff_mem.1 h⟩
    · rintro ⟨front, back', hv', hbytes', hallowed⟩
      have hcut : countryCode? v.toList = some front :=
        takeBytes?_eq_some_iff.2 ⟨back', hv', hbytes'⟩
      obtain rfl := Option.some.inj (hcode.symm.trans hcut)
      exact List.contains_iff_mem.2 hallowed

/-- The restriction looks at the value in upper case. -/
theorem admits_congr {s : CountryScope}
    (h : takeBytes? 2 (v.toList.map Char.toUpper) = takeBytes? 2 (w.toList.map Char.toUpper)) :
    s.admits v = s.admits w := by
  have hupper (u : String) : s.admits u =
      (takeBytes? 2 (u.toList.map Char.toUpper)).any fun code =>
        s.allowed.contains (String.ofList code) := by
    rw [takeBytes?_map_toUpper, admits, countryCode?]
    cases takeBytes? 2 u.toList with
    | none => rfl
    | some code =>
      simp only [upperCase, String.toList_ofList, Option.map_some, Option.any_some]
  rw [hupper, hupper, h]

theorem accepts_iff {s : CountryScope} {iban : String → Bool} :
    s.accepts iban v = true ↔ v = "" ∨ (iban v = true ∧ s.admits v = true) := by
  rw [accepts, Bool.or_eq_true, decide_eq_true_eq, Bool.and_eq_true]

/-- The ASCII letters of a country code in any case. -/
def IsLetterPair (country : String) : Prop :=
  ∃ a b, country.toList = [a, b] ∧ a.isAlpha = true ∧ b.isAlpha = true

/-- Two characters that are letters in upper case are the first two of the candidate. -/
theorem countryCode?_normalize {front : List Char} {country : String} (back : List Char)
    (hpair : IsLetterPair country) (h : upperCase (String.ofList front) = upperCase country) :
    front.length = 2 ∧
      countryCode? (normalize (front ++ back)) = some (front.map Char.toUpper) := by
  obtain ⟨x, y, hcountry, hx, hy⟩ := hpair
  have hupper := String.ofList_injective h
  rw [String.toList_ofList, hcountry] at hupper
  have hletters : ∀ c ∈ front, c.isAlphanum = true := by
    intro c hc
    have hmem : c.toUpper ∈ [x, y].map Char.toUpper := hupper ▸ List.mem_map_of_mem hc
    obtain ⟨z, hz, hzc⟩ := List.mem_map.1 hmem
    rw [← isAlphanum_toUpper, ← hzc, isAlphanum_toUpper]
    simp only [List.mem_cons, List.not_mem_nil, or_false] at hz
    rcases hz with rfl | rfl
    · exact Bool.or_eq_true_iff.2 (Or.inl hx)
    · exact Bool.or_eq_true_iff.2 (Or.inl hy)
  have hlength : front.length = 2 := by
    rw [← List.length_map (f := Char.toUpper), hupper]
    rfl
  have hascii : ∀ c ∈ front.map Char.toUpper, c.toNat < 128 := by
    intro c hc
    obtain ⟨d, hd, rfl⟩ := List.mem_map.1 hc
    have hcode := toNat_of_isAlphanum ((isAlphanum_toUpper d).trans (hletters d hd))
    omega
  have hfront : normalize front = front.map Char.toUpper := by
    rw [normalize, List.filter_eq_self.2 hletters]
  refine ⟨hlength, ?_⟩
  rw [normalize_append, hfront]
  have htake := takeBytes?_of_ascii hascii (normalize back)
  rwa [List.length_map, hlength] at htake

theorem accepts_ofCountries_iff {iban : String → Bool} :
    (ofCountries countries).accepts iban v = true ↔
      v = "" ∨ (iban v = true ∧ ∃ front back, v.toList = front ++ back ∧ byteLength front = 2 ∧
        ∃ country ∈ countries, upperCase (String.ofList front) = upperCase country) := by
  simp only [accepts_iff, admits_iff, mem_allowed_iff]

/-- Where a check restricted to letter codes accepts, the format behind the check is of the country
that the value begins with. -/
theorem names_one_country {r : Registry} (hpairs : ∀ country ∈ countries, IsLetterPair country)
    (hv : v ≠ "") (haccepts : (ofCountries countries).accepts r.accepts v = true) :
    ∃ front back f, v.toList = front ++ back ∧ front.length = 2 ∧
      countryCode? (normalize v.toList) = some f.countryCode.toList ∧
      r.find? f.countryCode = some f ∧ f.accepts (normalize v.toList) = true ∧
      f.countryCode ∈ (ofCountries countries).allowed ∧
      f.countryCode = upperCase (String.ofList front) := by
  obtain ⟨hiban, front, back, hvalue, -, country, hcountry, hupper⟩ :=
    (accepts_ofCountries_iff.1 haccepts).resolve_left hv
  obtain ⟨hlength, hcode⟩ := countryCode?_normalize back (hpairs country hcountry) hupper
  rw [← hvalue] at hcode
  obtain ⟨-, code, f, hcode', hfind, hf⟩ :=
    Registry.judge_eq_accepted_iff.1 ((Registry.accepts_iff_judge hv).1 hiban)
  obtain rfl := Option.some.inj (hcode.symm.trans hcode')
  have hkey := Registry.countryCode_of_find? hfind
  have hfront : f.countryCode = upperCase (String.ofList front) := by
    rw [hkey, upperCase, String.toList_ofList]
  refine ⟨front, back, f, hvalue, hlength, ?_, hkey ▸ hfind, hf, ?_, hfront⟩
  · rw [hkey, String.toList_ofList, hcode]
  · rw [mem_allowed_iff]
    exact ⟨country, hcountry, hfront.trans hupper⟩

theorem accepts_congr {s : CountryScope} {iban : String → Bool} (hv : v ≠ "") (hw : w ≠ "")
    (hiban : iban v = iban w) (hadmits : s.admits v = s.admits w) :
    s.accepts iban v = s.accepts iban w := by
  rw [Bool.eq_iff_iff, accepts_iff, accepts_iff, or_iff_right hv, or_iff_right hw, hiban, hadmits]

/-- What stands behind two characters stands behind two bytes. -/
theorem accepts_insert {s : CountryScope} {r : Registry} {front inserted : List Char}
    (back : List Char) (hlong : 2 ≤ front.length) (hinserted : ∀ c ∈ inserted, c.isAlphanum = false) :
    s.accepts r.accepts (String.ofList (front ++ inserted ++ back)) =
      s.accepts r.accepts (String.ofList (front ++ back)) := by
  have hfront : front ≠ [] := List.ne_nil_of_length_pos (by omega)
  have hbytes : 2 ≤ byteLength (front.map Char.toUpper) :=
    (List.length_map Char.toUpper ▸ hlong).trans (length_le_byteLength _)
  apply accepts_congr
  · simp [hfront]
  · simp [hfront]
  · apply Registry.accepts_eq_of_normalize
    · simp [hfront]
    · simp [hfront]
    · simp only [String.toList_ofList, normalize_append, normalize_of_separators hinserted,
        List.append_nil]
  · apply admits_congr
    simp only [String.toList_ofList, List.append_assoc, List.map_append, takeBytes?_append hbytes]

theorem upperCase_eq_empty_iff : upperCase v = "" ↔ v = "" := by
  rw [upperCase, ← String.toList_eq_nil_iff, String.toList_ofList, List.map_eq_nil_iff,
    String.toList_eq_nil_iff]

theorem accepts_of_upperCase_eq {s : CountryScope} {r : Registry} (h : upperCase v = upperCase w) :
    s.accepts r.accepts v = s.accepts r.accepts w := by
  have hempty : v = "" ↔ w = "" := by
    rw [← upperCase_eq_empty_iff, h, upperCase_eq_empty_iff]
  have hupper := String.ofList_injective h
  by_cases hv : v = ""
  · rw [hv, hempty.1 hv]
  · have hw : w ≠ "" := fun hw => hv (hempty.2 hw)
    apply accepts_congr hv hw
    · apply Registry.accepts_eq_of_normalize hv hw
      rw [normalize_eq_filter, normalize_eq_filter, hupper]
    · exact admits_congr (congrArg (takeBytes? 2) hupper)

theorem admits_append_iff {more : List String} : (ofCountries (countries ++ more)).admits v = true ↔
    (ofCountries countries).admits v = true ∨ (ofCountries more).admits v = true := by
  simp only [admits_iff, mem_allowed_iff, List.mem_append]
  constructor
  · rintro ⟨front, back, hv, hbytes, country, hcountry | hcountry, hupper⟩
    · exact Or.inl ⟨front, back, hv, hbytes, country, hcountry, hupper⟩
    · exact Or.inr ⟨front, back, hv, hbytes, country, hcountry, hupper⟩
  · rintro (⟨front, back, hv, hbytes, country, hcountry, hupper⟩ |
      ⟨front, back, hv, hbytes, country, hcountry, hupper⟩)
    · exact ⟨front, back, hv, hbytes, country, Or.inl hcountry, hupper⟩
    · exact ⟨front, back, hv, hbytes, country, Or.inr hcountry, hupper⟩

/-- What a restriction to countries makes of the verdicts of a registry: its meaning, that restriction
and registry name one country, and that neither separators behind the second character nor the case of
letters nor the way in which the countries are listed have a part in it. -/
structure Restricts (r : Registry) (countries : List String) : Prop where
  meaning : ∀ v, (ofCountries countries).accepts r.accepts v = true ↔
    v = "" ∨ (r.accepts v = true ∧ ∃ front back, v.toList = front ++ back ∧
      byteLength front = 2 ∧ ∃ country ∈ countries,
        upperCase (String.ofList front) = upperCase country)
  one_country : (∀ country ∈ countries, IsLetterPair country) → ∀ v, v ≠ "" →
    (ofCountries countries).accepts r.accepts v = true →
    ∃ front back f, v.toList = front ++ back ∧ front.length = 2 ∧
      countryCode? (normalize v.toList) = some f.countryCode.toList ∧
      r.find? f.countryCode = some f ∧ f.accepts (normalize v.toList) = true ∧
      f.countryCode ∈ (ofCountries countries).allowed ∧
      f.countryCode = upperCase (String.ofList front)
  separators : ∀ front inserted back, 2 ≤ front.length →
    (∀ c ∈ inserted, c.isAlphanum = false) →
    (ofCountries countries).accepts r.accepts (String.ofList (front ++ inserted ++ back)) =
      (ofCountries countries).accepts r.accepts (String.ofList (front ++ back))
  letter_case : ∀ v w, upperCase v = upperCase w →
    (ofCountries countries).accepts r.accepts v = (ofCountries countries).accepts r.accepts w
  union : ∀ more v, (ofCountries (countries ++ more)).accepts r.accepts v =
    ((ofCountries countries).accepts r.accepts v || (ofCountries more).accepts r.accepts v)

theorem restricts (r : Registry) (countries : List String) : Restricts r countries := by
  refine ⟨fun v => accepts_ofCountries_iff, ?_, ?_, ?_, ?_⟩
  · intro hpairs v hv haccepts
    exact names_one_country hpairs hv haccepts
  · intro front inserted back hlong hinserted
    exact accepts_insert back hlong hinserted
  · intro v w hvw
    exact accepts_of_upperCase_eq hvw
  · intro more v
    rw [Bool.eq_iff_iff, Bool.or_eq_true, accepts_iff, accepts_iff, accepts_iff, admits_append_iff]
    tauto

-- The cut after the second byte of the euro sign would fall inside it.
example : ((ofCountries ["nl", "NO"]).admits "nL91 ABNA", (ofCountries ["nl"]).admits " NL91",
    (ofCountries ["nl"]).admits "€NL91") = (true, false, false) := by
  decide +kernel

end CountryScope

end FieldFormats.Iban
