import FieldFormats.Iban.Verdict
import FieldFormats.Proofs.CheckNumeral
import FieldFormats.Proofs.RegistryLoading
import Mathlib.Data.List.Nodup
/-! # What an IBAN is

The verdict of a loaded registry, said of its table alone: the rows that there are, the characters
of the value and the number that they stand for. -/
namespace FieldFormats.Iban

open FieldFormats.Text FieldFormats.Table

/-- Some row of the table has a layout of the country and this grammar. -/
def Offers (text : String) (country : List Char) (g : Grammar) : Prop :=
  ∃ row ∈ records text, Registry.layoutCode? (row.field 3).toList = some (String.ofList country) ∧
    Grammar.parse (row.field 2) = .ok g

/-- Country code, two digits and a BBAN that fits a grammar of the country. Moved to the end, code
and digits complete a number that leaves 1 when divided by 97. -/
def IsIban (text : String) (candidate : List Char) : Prop :=
  ∃ country check bban g, candidate = country ++ check ++ bban ∧ Offers text country g ∧
    (check.length = 2 ∧ ∀ c ∈ check, c.isDigit = true) ∧ Fits g.positions bban ∧
    wideNumeral (bban ++ country ++ check) % 97 = 1

theorem isCountryCode_of_offers {text : String} {country : List Char} {g : Grammar}
    (h : Offers text country g) : IsCountryCode country := by
  obtain ⟨row, -, hcode, -⟩ := h
  obtain ⟨letters, -, hletters, hcountry, -⟩ := Registry.layoutCode?_eq_some_iff.1 hcode
  rw [String.ofList_injective hcountry]
  exact hletters

section Candidates

variable {text text' : String} {country check bban cs : List Char} {g : Grammar}

theorem hasValidChecksum_iff_of_isPlain (hcountry : IsCountryCode country)
    (hcheck : check.length = 2 ∧ ∀ c ∈ check, c.isDigit = true) (hbban : ∀ c ∈ bban, IsPlain c) :
    hasValidChecksum (country ++ check ++ bban) = true ↔
      wideNumeral (bban ++ country ++ check) % 97 = 1 := by
  rw [List.append_assoc bban]
  apply hasValidChecksum_iff
  · rw [List.length_append, hcountry.length, hcheck.1]
    rfl
  · exact List.forall_mem_append.2 ⟨fun c hc => Or.inl (hcountry.capitals c hc),
      fun c hc => Or.inr (hcheck.2 c hc)⟩
  · exact hbban

theorem isIban_iff :
    IsIban text cs ↔ ∃ country g, Offers text country g ∧ g.Describes country cs ∧
      hasValidChecksum cs = true := by
  constructor
  · rintro ⟨country, check, bban, g, rfl, hg, hcheck, hbban, hnumber⟩
    have hcountry := isCountryCode_of_offers hg
    exact ⟨country, g, hg, Grammar.describes_iff_fits.2 ⟨check, bban, rfl, hcheck, hbban⟩,
      (hasValidChecksum_iff_of_isPlain hcountry hcheck (isPlain_of_fits hbban)).2 hnumber⟩
  · rintro ⟨country, g, hg, hdescribes, hvalid⟩
    have hcountry := isCountryCode_of_offers hg
    obtain ⟨check, bban, rfl, hcheck, hbban⟩ := Grammar.describes_iff_fits.1 hdescribes
    exact ⟨country, check, bban, g, rfl, hg, hcheck, hbban,
      (hasValidChecksum_iff_of_isPlain hcountry hcheck (isPlain_of_fits hbban)).1 hvalid⟩

theorem take_of_describes (hc : IsCountryCode country) (h : g.Describes country cs) :
    cs.take 2 = country := by
  obtain ⟨check, bban, rfl, -⟩ := h
  rw [List.append_assoc, ← hc.length, List.take_left]

theorem countryCode?_of_describes (hc : IsCountryCode country) (h : g.Describes country cs) :
    countryCode? cs = some country := by
  obtain ⟨check, bban, rfl, -⟩ := h
  have hascii : ∀ c ∈ country, c.toNat < 128 :=
    fun c hmem => IsPlain.ascii (Or.inl (hc.capitals c hmem))
  have htake := takeBytes?_of_ascii hascii (check ++ bban)
  rw [hc.length] at htake
  rw [List.append_assoc]
  exact htake

/-- Only the rows of a candidate's own country have a say. -/
theorem isIban_mono (h : ∀ g, Offers text (cs.take 2) g → Offers text' (cs.take 2) g)
    (hiban : IsIban text cs) : IsIban text' cs := by
  rw [isIban_iff] at hiban ⊢
  obtain ⟨country, g, hg, hdescribes, hvalid⟩ := hiban
  rw [take_of_describes (isCountryCode_of_offers hg) hdescribes] at h
  exact ⟨country, g, h g hg, hdescribes, hvalid⟩

end Candidates

namespace Registry

variable {text : String} {r : Registry} {rows : List Record} {f : Format}
  {country cs : List Char} {code : String}

theorem find?_eq_some_iff (hr : r.Holds rows) :
    r.find? code = some f ↔ f ∈ r.formats ∧ f.countryCode = code :=
  AscendingBy.find?_eq_some_iff hr.ascending

theorem minimumLength_le (hf : f ∈ r.formats) : r.minimumLength ≤ f.length := by
  have hmem : f.length ∈ r.formats.map (·.length) := List.mem_map_of_mem hf
  unfold minimumLength
  cases hmin : (r.formats.map (·.length)).min? with
  | none =>
    rw [List.min?_eq_none_iff.1 hmin] at hmem
    cases hmem
  | some m => exact (List.min?_eq_some_iff.1 hmin).2 f.length hmem

theorem offers_iff (hr : r.Holds (records text)) {g : Grammar} :
    Offers text country g ↔
      ∃ f ∈ r.formats, f.countryCode = String.ofList country ∧ f.grammar = g := by
  constructor
  · rintro ⟨row, hrow, hcode, hg⟩
    obtain ⟨f, hf⟩ := hr.total row hrow
    refine ⟨f, (hr.mem_iff f).2 ⟨row, hrow, hf⟩, ?_, ?_⟩
    · exact Option.some.inj (hf.code.symm.trans hcode)
    · exact Except.ok.inj (hf.grammar.symm.trans hg)
  · rintro ⟨f, hf, hcode, rfl⟩
    obtain ⟨row, hrow, hformat⟩ := (hr.mem_iff f).1 hf
    exact ⟨row, hrow, hcode ▸ hformat.code, hformat.grammar⟩

theorem fitsPattern_iff (hr : r.Holds rows) (hf : f ∈ r.formats)
    (hcode : f.countryCode = String.ofList country) (cs : List Char) :
    f.fitsPattern cs = true ↔ f.grammar.Describes country cs := by
  obtain ⟨row, -, hrow⟩ := (hr.mem_iff f).1 hf
  rw [hrow.fitsPattern_iff, hcode, String.toList_ofList]

/-- The verdict on a candidate without the shortcut for short ones, and without a look at the
length of those that fit the pattern. -/
def judgesPlainly (r : Registry) (candidate : List Char) : Bool :=
  match countryCode? candidate with
  | none => false
  | some code =>
    match r.find? (String.ofList code) with
    | some f => f.fitsPattern candidate && hasValidChecksum candidate
    | none => false

theorem judgesPlainly_iff :
    r.judgesPlainly cs = true ↔ ∃ code f, countryCode? cs = some code ∧
      r.find? (String.ofList code) = some f ∧ f.fitsPattern cs = true ∧
      hasValidChecksum cs = true := by
  unfold judgesPlainly
  cases countryCode? cs with
  | none => simp
  | some code =>
    cases hf : r.find? (String.ofList code) with
    | none => simp [hf]
    | some f => simp [hf]

theorem judge_eq_accepted_iff :
    r.judge cs = .accepted ↔ r.minimumLength ≤ byteLength cs ∧ ∃ code f,
      countryCode? cs = some code ∧ r.find? (String.ofList code) = some f ∧
      f.accepts cs = true := by
  unfold judge
  by_cases hshort : byteLength cs < r.minimumLength
  · rw [if_pos hshort]
    constructor
    · intro h
      cases h
    · rintro ⟨hlong, -⟩
      omega
  · rw [if_neg hshort, and_iff_right (Nat.le_of_not_lt hshort)]
    cases countryCode? cs with
    | none => simp
    | some code =>
      cases hf : r.find? (String.ofList code) with
      | none => simp [hf]
      | some f => simp [hf]

theorem judge_iff_judgesPlainly (hr : r.Holds rows) :
    r.judge cs = .accepted ↔ r.judgesPlainly cs = true := by
  rw [judge_eq_accepted_iff, judgesPlainly_iff]
  constructor
  · rintro ⟨-, code, f, hcode, hf, haccepts⟩
    simp only [Format.accepts, Bool.and_eq_true] at haccepts
    exact ⟨code, f, hcode, hf, haccepts.1.2, haccepts.2⟩
  · rintro ⟨code, f, hcode, hf, hpattern, hvalid⟩
    have hmem := ((find?_eq_some_iff hr).1 hf).1
    have hlength := hr.hasLength_of_fitsPattern hmem hpattern
    have hbytes : byteLength cs = f.length := of_decide_eq_true hlength
    -- What fits the format has its length, so it is not shorter than all formats.
    refine ⟨hbytes ▸ minimumLength_le hmem, code, f, hcode, hf, ?_⟩
    rw [Format.accepts, hlength, hpattern, hvalid]
    rfl

theorem judgesPlainly_iff_isIban (hr : r.Holds (records text)) :
    r.judgesPlainly cs = true ↔ IsIban text cs := by
  rw [judgesPlainly_iff, isIban_iff]
  constructor
  · rintro ⟨code, f, -, hf, hpattern, hvalid⟩
    obtain ⟨hmem, hkey⟩ := (find?_eq_some_iff hr).1 hf
    exact ⟨code, f.grammar, (offers_iff hr).2 ⟨f, hmem, hkey, rfl⟩,
      (fitsPattern_iff hr hmem hkey cs).1 hpattern, hvalid⟩
  · rintro ⟨country, g, hg, hdescribes, hvalid⟩
    have hcode := countryCode?_of_describes (isCountryCode_of_offers hg) hdescribes
    obtain ⟨f, hmem, hkey, rfl⟩ := (offers_iff hr).1 hg
    exact ⟨country, f, hcode, (find?_eq_some_iff hr).2 ⟨hmem, hkey⟩,
      (fitsPattern_iff hr hmem hkey cs).2 hdescribes, hvalid⟩

end Registry

theorem normalize_append (cs ds : List Char) :
    normalize (cs ++ ds) = normalize cs ++ normalize ds := by
  rw [normalize, List.filter_append, List.map_append]
  rfl

theorem normalize_cons_of_not_isAlphanum {c : Char} (h : c.isAlphanum = false) (cs : List Char) :
    normalize (c :: cs) = normalize cs := by
  rw [normalize, List.filter_cons_of_neg (by rw [h]; exact Bool.false_ne_true), normalize]

theorem normalize_eq_filter (cs : List Char) :
    normalize cs = (cs.map Char.toUpper).filter Char.isAlphanum := by
  rw [normalize, List.filter_map]
  congr 2
  funext c
  exact (isAlphanum_toUpper c).symm

theorem normalize_of_isBlankText {v : String} (h : isBlankText v = true) :
    normalize v.toList = [] := by
  have hnone : v.toList.filter Char.isAlphanum = [] := by
    rw [List.filter_eq_nil_iff]
    intro c hc halphanum
    have hblank := List.all_eq_true.1 h c hc
    rw [isBlank_eq_false_of_isAlphanum halphanum] at hblank
    cases hblank
  rw [normalize, hnone, List.map_nil]

namespace Registry

theorem accepts_eq {r : Registry} {rows : List Record} (hr : r.Holds rows) {v : String}
    (hv : v ≠ "") : r.accepts v = r.judgesPlainly (normalize v.toList) := by
  unfold accepts verdict Presence.of
  rw [if_neg hv]
  by_cases hblank : isBlankText v = true
  · -- A value of blanks is a candidate without characters and needs no rule of its own.
    rw [if_pos hblank, normalize_of_isBlankText hblank]
    rfl
  · rw [if_neg hblank, Bool.eq_iff_iff, decide_eq_true_eq]
    exact judge_iff_judgesPlainly hr

/-- What is said of the verdicts of a registry and the table it was made from: their meaning, that
no shortcut and no other country has a part in them, and that only the candidate counts. -/
structure Verdicts (r : Registry) (text : String) : Prop where
  meaning : ∀ v, r.accepts v = true ↔ v = "" ∨ IsIban text (normalize v.toList)
  shortcuts : ∀ v, v ≠ "" → r.accepts v = r.judgesPlainly (normalize v.toList)
  other_rows : ∀ table' text' r' v, (load table' text').result = .ok r' →
    (∀ g, Offers text ((normalize v.toList).take 2) g ↔
      Offers text' ((normalize v.toList).take 2) g) → r.accepts v = r'.accepts v
  candidate : ∀ v w, v ≠ "" → w ≠ "" → normalize v.toList = normalize w.toList →
    r.accepts v = r.accepts w
  separators : ∀ front c back, c.isAlphanum = false → front ++ back ≠ [] →
    r.accepts (String.ofList (front ++ c :: back)) = r.accepts (String.ofList (front ++ back))
  letter_case : ∀ v w, upperCase v = upperCase w → r.accepts v = r.accepts w

theorem load_verdicts {table text : String} {r : Registry}
    (h : (load table text).result = .ok r) : r.Verdicts text := by
  have hr := load_holds h
  have hmeaning : ∀ {table text : String} {r : Registry}, (load table text).result = .ok r →
      ∀ v, r.accepts v = true ↔ v = "" ∨ IsIban text (normalize v.toList) := by
    intro table text r h v
    by_cases hv : v = ""
    · subst hv
      exact iff_of_true rfl (Or.inl rfl)
    · rw [accepts_eq (load_holds h) hv, judgesPlainly_iff_isIban (load_holds h)]
      exact (or_iff_right hv).symm
  have hcandidate : ∀ v w, v ≠ "" → w ≠ "" → normalize v.toList = normalize w.toList →
      r.accepts v = r.accepts w := by
    intro v w hv hw hvw
    rw [accepts_eq hr hv, accepts_eq hr hw, hvw]
  refine ⟨hmeaning h, fun v => accepts_eq hr, ?_, hcandidate, ?_, ?_⟩
  · intro table' text' r' v h' hoffers
    rw [Bool.eq_iff_iff, hmeaning h, hmeaning h']
    apply or_congr_right
    constructor
    · exact isIban_mono fun g => (hoffers g).1
    · exact isIban_mono fun g => (hoffers g).2
  · intro front c back hc hne
    apply hcandidate
    · simp
    · simpa using hne
    · rw [String.toList_ofList, String.toList_ofList, normalize_append, normalize_append,
        normalize_cons_of_not_isAlphanum hc]
  · intro v w hvw
    have hupper := String.ofList_injective hvw
    by_cases hv : v = ""
    · subst hv
      have hw : w.toList = [] := List.map_eq_nil_iff.1 hupper.symm
      rw [String.toList_eq_nil_iff.1 hw]
    · apply hcandidate v w hv
      · rintro rfl
        exact hv (String.toList_eq_nil_iff.1 (List.map_eq_nil_iff.1 hupper))
      · rw [normalize_eq_filter, normalize_eq_filter, hupper]

def twoCountries : String :=
  "Netherlands\t18\t4a,10n\tNLkk bbbb cccc cccc cc\nNorway\t15\t11n\tNOkk bbbb cccc ccx\n"

theorem load_verdicts_twoCountries :
    ∃ r, (load "countries.tsv" twoCountries).result = .ok r ∧
      r.accepts "NL91 ABNA 0417 1643 00" = true ∧ r.accepts "nl91-abna-0417-1643-00" = true ∧
      r.accepts "NL92 ABNA 0417 1643 00" = false := by
  have hloads : (load "countries.tsv" twoCountries).result.isOk = true := by
    decide +kernel
  cases hr : (load "countries.tsv" twoCountries).result with
  | error e =>
    rw [hr] at hloads
    cases hloads
  | ok r =>
    have hmeaning := (load_verdicts hr).meaning
    have hiban : IsIban twoCountries "NL91ABNA0417164300".toList := by
      refine ⟨"NL".toList, "91".toList, "ABNA0417164300".toList,
        ⟨"4a,10n", [⟨4, .upper⟩, ⟨10, .digit⟩]⟩, ?_, ?_, ?_, ?_, ?_⟩
      · decide +kernel
      · unfold Offers
        decide +kernel
      · exact ⟨by decide +kernel, List.all_eq_true.1 (by decide +kernel)⟩
      · unfold Fits
        decide +kernel
      · decide +kernel
    refine ⟨r, rfl, ?_, ?_, ?_⟩
    · have hcandidate : normalize "NL91 ABNA 0417 1643 00".toList =
          "NL91ABNA0417164300".toList := by
        decide +kernel
      exact (hmeaning _).2 (Or.inr (hcandidate ▸ hiban))
    · have hcandidate : normalize "nl91-abna-0417-1643-00".toList =
          "NL91ABNA0417164300".toList := by
        decide +kernel
      exact (hmeaning _).2 (Or.inr (hcandidate ▸ hiban))
    · rw [← Bool.not_eq_true]
      intro h
      obtain ⟨-, -, -, -, hvalid⟩ := isIban_iff.1 (((hmeaning _).1 h).resolve_left (by decide))
      revert hvalid
      decide +kernel

end Registry

end FieldFormats.Iban
