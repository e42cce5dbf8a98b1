import FieldFormats.Iban.Registry
import FieldFormats.Proofs.AscendingKeys
import FieldFormats.Proofs.GrammarCompilation
import FieldFormats.Proofs.TableReading
/-! # Loaded IBAN registries

What holds of every registry that was made from a table: its formats are those of the rows, one
for each country, and each of them agrees with its grammar. -/
namespace FieldFormats.Iban

open FieldFormats.Text FieldFormats.Table

theorem Format.make_eq_ok_iff {country code fields : String} {length : ℕ} {g : Grammar}
    {f : Format} :
    Format.make country code length g fields = .ok f ↔
      g.ibanLength = length ∧
        ∃ p, g.compile code = .ok p ∧ f = ⟨country, code, length, g, fields, p⟩ := by
  unfold Format.make
  by_cases hl : g.ibanLength = length
  · rw [if_neg (not_not.2 hl)]
    cases g.compile code with
    | error e => simp
    | ok p => simp [hl, eq_comm]
  · rw [if_pos hl]
    simp [hl]

namespace Registry

theorem layoutCode?_eq_some_iff {layout : List Char} {code : String} :
    layoutCode? layout = some code ↔
      ∃ country rest, IsCountryCode country ∧ code = String.ofList country ∧
        layout = country ++ rest := by
  constructor
  · intro h
    unfold layoutCode? at h
    split at h
    next a b rest =>
      split at h
      next hab =>
        cases h
        exact ⟨[a, b], rest, ⟨rfl, by simpa using hab⟩, rfl, rfl⟩
      next => cases h
    next => cases h
  · rintro ⟨country, rest, ⟨hlength, hcapitals⟩, rfl, rfl⟩
    obtain ⟨a, b, rfl⟩ := List.length_eq_two.1 hlength
    exact if_pos ⟨hcapitals a (by simp), hcapitals b (by simp)⟩

/-- A format says what a row says, and its length is the one that its grammar implies. -/
structure FormatOf (row : Record) (f : Format) : Prop where
  length : readNumber? lengthBound (trim (row.field 1).toList) = some f.length
  grammar : Grammar.parse (row.field 2) = .ok f.grammar
  code : layoutCode? (row.field 3).toList = some f.countryCode
  agrees : f.grammar.ibanLength = f.length
  compiled : f.grammar.compile f.countryCode = .ok f.pattern
  country : f.country = row.field 0
  fields : f.fields = row.field 3

theorem readFormat_eq_ok_iff {table : String} {row : Record} {f : Format} :
    readFormat table row = .ok f ↔ FormatOf row f := by
  unfold readFormat
  constructor
  · intro h
    split at h
    · cases h
    · next n hn =>
      split at h
      · cases h
      · next g hg =>
        split at h
        · cases h
        · next code hcode =>
          obtain ⟨hagrees, p, hp, rfl⟩ := Format.make_eq_ok_iff.1 h
          exact ⟨Record.number_eq_ok_iff.1 hn, hg, hcode, hagrees, hp, rfl, rfl⟩
  · intro h
    rw [Record.number_eq_ok_iff.2 h.length]
    simp only [h.grammar, h.code]
    refine Format.make_eq_ok_iff.2 ⟨h.agrees, f.pattern, h.compiled, ?_⟩
    rw [← h.country, ← h.fields]

namespace FormatOf

variable {row : Record} {f : Format}

theorem unique {g : Format} (hf : FormatOf row f) (hg : FormatOf row g) : f = g := by
  have hread : readFormat "" row = .ok f := readFormat_eq_ok_iff.2 hf
  rw [readFormat_eq_ok_iff.2 hg] at hread
  cases hread
  rfl

theorem legal (h : FormatOf row f) : f.grammar.Legal :=
  Grammar.parse_legal h.grammar

theorem countryCode (h : FormatOf row f) : IsCountryCode f.countryCode.toList := by
  obtain ⟨country, rest, hcountry, hcode, -⟩ := layoutCode?_eq_some_iff.1 h.code
  rw [hcode, String.toList_ofList]
  exact hcountry

theorem fitsPattern_iff (h : FormatOf row f) (cs : List Char) :
    f.fitsPattern cs = true ↔ f.grammar.Describes f.countryCode.toList cs := by
  have hcompiled := h.compiled
  rw [← String.ofList_toList (s := f.countryCode)] at hcompiled
  exact Grammar.accepts_iff_of_compile h.legal h.countryCode hcompiled cs

end FormatOf

/-- Each country code once, in ascending order. -/
def Ascending (fs : List Format) : Prop :=
  fs.Pairwise fun f g => f.countryCode < g.countryCode

theorem insertFormat_eq_orderedInsert (f : Format) (fs : List Format) :
    insertFormat f fs = fs.orderedInsert (fun g h => g.countryCode < h.countryCode) f := by
  induction fs with
  | nil => rfl
  | cons g fs ih => rw [insertFormat, List.orderedInsert, ih]

theorem mem_insertFormat {f g : Format} {fs : List Format} :
    g ∈ insertFormat f fs ↔ g = f ∨ g ∈ fs := by
  rw [insertFormat_eq_orderedInsert, List.mem_orderedInsert]

theorem ascending_insertFormat {f : Format} {fs : List Format} (hfs : Ascending fs)
    (hnew : ∀ g ∈ fs, g.countryCode ≠ f.countryCode) : Ascending (insertFormat f fs) := by
  rw [insertFormat_eq_orderedInsert]
  exact AscendingBy.orderedInsert hfs hnew

theorem readFormats_cons_eq_ok_iff {table : String} {found out : List Format} {row : Record}
    {rows : List Record} :
    (readFormats table found (row :: rows)).result = .ok out ↔
      ∃ f, FormatOf row f ∧ (∀ g ∈ found, g.countryCode ≠ f.countryCode) ∧
        (readFormats table (insertFormat f found) rows).result = .ok out := by
  rw [readFormats, Traced.bind_eq_ok_iff]
  simp only [Traced.result_ofExcept, readFormat_eq_ok_iff]
  refine exists_congr fun f => and_congr_right fun _ => ?_
  by_cases hf : found.any (·.countryCode = f.countryCode) = true
  · rw [if_pos hf]
    obtain ⟨g, hg, hcode⟩ := List.any_eq_true.1 hf
    constructor
    · intro h
      cases h
    · rintro ⟨hnew, -⟩
      exact absurd (of_decide_eq_true hcode) (hnew g hg)
  · rw [if_neg hf, Traced.bind_eq_ok_iff]
    simp only [Traced.result_note, true_and, exists_const]
    refine (and_iff_right ?_).symm
    intro g hg hcode
    exact hf (List.any_eq_true.2 ⟨g, hg, decide_eq_true hcode⟩)

theorem readFormats_eq_ok {table : String} {found out : List Format} {rows : List Record}
    (hfound : Ascending found) (h : (readFormats table found rows).result = .ok out) :
    Ascending out ∧ (∀ f, f ∈ out ↔ f ∈ found ∨ ∃ row ∈ rows, FormatOf row f) ∧
      ∀ row ∈ rows, ∃ f, FormatOf row f := by
  -- On the rows; the formats found so far stay in order and those of the rows join them.
  induction rows generalizing found with
  | nil =>
    cases h
    exact ⟨hfound, by simp, by simp⟩
  | cons row rows ih =>
    obtain ⟨f, hf, hnew, h⟩ := readFormats_cons_eq_ok_iff.1 h
    obtain ⟨hout, hmem, htotal⟩ := ih (ascending_insertFormat hfound hnew) h
    refine ⟨hout, ?_, List.forall_mem_cons.2 ⟨⟨f, hf⟩, htotal⟩⟩
    intro g
    rw [hmem, mem_insertFormat, List.exists_mem_cons_iff]
    have hg : FormatOf row g ↔ g = f := by
      constructor
      · exact fun hg => hg.unique hf
      · rintro rfl
        exact hf
    rw [hg]
    tauto

/-- A registry holds the formats of some rows: each row makes one, each comes from a row, and no
two are of the same country. -/
structure Holds (r : Registry) (rows : List Record) : Prop where
  ascending : Ascending r.formats
  mem_iff : ∀ f, f ∈ r.formats ↔ ∃ row ∈ rows, FormatOf row f
  total : ∀ row ∈ rows, ∃ f, FormatOf row f
  nonempty : r.formats ≠ []

theorem load_holds {table text : String} {r : Registry} (h : (load table text).result = .ok r) :
    r.Holds (records text) := by
  obtain ⟨rows, hrows, h⟩ := Traced.bind_eq_ok_iff.1 h
  obtain ⟨rfl, -⟩ := load_eq_ok_iff.1 hrows
  obtain ⟨formats, hformats, h⟩ := Traced.bind_eq_ok_iff.1 h
  split at h
  · cases h
  · next hne =>
    obtain ⟨-, -, h⟩ := Traced.bind_eq_ok_iff.1 h
    cases h
    obtain ⟨hascending, hmem, htotal⟩ := readFormats_eq_ok List.Pairwise.nil hformats
    exact ⟨hascending, by simpa using hmem, htotal, hne⟩

/-- A row can be refused in many ways, but never because its pattern does not compile. -/
theorem readFormat_ne_malformedPattern {table : String} {row : Record} {code : String} :
    readFormat table row ≠ .error (.malformedPattern code) := by
  intro h
  unfold readFormat at h
  split at h
  · next e he =>
    cases h
    unfold Record.number at he
    split at he <;> cases he
  · split at h
    · next e he =>
      cases h
      cases Grammar.refuses_of_parse he
    · next g hg =>
      split at h
      · cases h
      · next key hkey =>
        obtain ⟨country, -, hcountry, rfl, -⟩ := layoutCode?_eq_some_iff.1 hkey
        obtain ⟨p, hp, -⟩ := Grammar.compile_describes (Grammar.parse_legal hg) hcountry
        unfold Format.make at h
        rw [hp] at h
        split at h <;> cases h

theorem readFormats_ne_malformedPattern {table : String} {found : List Format}
    {rows : List Record} {code : String} :
    (readFormats table found rows).result ≠ .error (.malformedPattern code) := by
  induction rows generalizing found with
  | nil =>
    intro h
    cases h
  | cons row rows ih =>
    intro h
    rw [readFormats] at h
    rcases Traced.bind_eq_error_iff.1 h with h | ⟨f, -, h⟩
    · exact readFormat_ne_malformedPattern h
    · split at h
      · cases h
      · rcases Traced.bind_eq_error_iff.1 h with h | ⟨-, -, h⟩
        · cases h
        · exact ih h

theorem load_ne_malformedPattern (table text code : String) :
    (load table text).result ≠ .error (.malformedPattern code) := by
  intro h
  rcases Traced.bind_eq_error_iff.1 h with h | ⟨rows, -, h⟩
  · obtain ⟨r, -, hr⟩ := fieldCount_of_checkWidth h
    cases hr
  · rcases Traced.bind_eq_error_iff.1 h with h | ⟨formats, -, h⟩
    · exact readFormats_ne_malformedPattern h
    · split at h
      · cases h
      · rcases Traced.bind_eq_error_iff.1 h with h | ⟨-, -, h⟩
        · cases h
        · cases h

theorem Holds.hasLength_of_fitsPattern {r : Registry} {rows : List Record} (hr : r.Holds rows)
    {f : Format} (hf : f ∈ r.formats) {cs : List Char} (h : f.fitsPattern cs = true) :
    f.hasLength cs = true := by
  obtain ⟨row, -, hrow⟩ := (hr.mem_iff f).1 hf
  have hlengths := Grammar.lengths_of_describes hrow.countryCode ((hrow.fitsPattern_iff cs).1 h)
  rw [Format.hasLength, decide_eq_true_eq, hlengths.1, hrow.agrees]

end Registry

/-- A grammar that was read compiles for every country code, to a pattern with the meaning of the
grammar and of one length only. Grammars of the same positions have patterns of the same meaning.
So no load ends in a malformed pattern, and no loaded format has a pattern at odds with its
length. -/
theorem compile_parse :
    (∀ source g country, Grammar.parse source = .ok g → IsCountryCode country →
      ∃ p, g.compile (String.ofList country) = .ok p ∧
        p.text = String.ofList (g.pattern country) ∧
        ∀ cs, (p.accepts cs = true ↔ g.Describes country cs) ∧
          (p.accepts cs = true → byteLength cs = g.ibanLength ∧ cs.length = g.ibanLength)) ∧
    (∀ source₁ source₂ g₁ g₂ country p₁ p₂,
      Grammar.parse source₁ = .ok g₁ → Grammar.parse source₂ = .ok g₂ → IsCountryCode country →
      g₁.compile (String.ofList country) = .ok p₁ → g₂.compile (String.ofList country) = .ok p₂ →
      g₁.positions = g₂.positions → ∀ cs, p₁.accepts cs = p₂.accepts cs) ∧
    (∀ table text code, (Registry.load table text).result ≠ .error (.malformedPattern code)) ∧
    (∀ table text r f cs, (Registry.load table text).result = .ok r → f ∈ r.formats →
      f.fitsPattern cs = true → f.hasLength cs = true) := by
  refine ⟨?_, ?_, Registry.load_ne_malformedPattern, ?_⟩
  · intro source g country hg hc
    obtain ⟨p, hp, htext, haccepts⟩ := Grammar.compile_describes (Grammar.parse_legal hg) hc
    refine ⟨p, hp, htext, fun cs => ⟨haccepts cs, ?_⟩⟩
    intro h
    exact Grammar.lengths_of_describes hc ((haccepts cs).1 h)
  · intro source₁ source₂ g₁ g₂ country p₁ p₂ hg₁ hg₂ hc hp₁ hp₂ hpositions cs
    rw [Bool.eq_iff_iff, Grammar.accepts_iff_of_compile (Grammar.parse_legal hg₁) hc hp₁,
      Grammar.accepts_iff_of_compile (Grammar.parse_legal hg₂) hc hp₂,
      Grammar.describes_iff_fits, Grammar.describes_iff_fits, hpositions]
  · intro table text r f cs hr hf
    exact (Registry.load_holds hr).hasLength_of_fitsPattern hf

theorem compile_parse_dutch :
    ∃ p, (Grammar.mk "4a,10n" [⟨4, .upper⟩, ⟨10, .digit⟩]).compile "NL" = .ok p ∧
      (∀ cs, p.accepts cs = true → cs.length = 18) ∧
      ∀ q, (Grammar.mk "4a,3n,7n" [⟨4, .upper⟩, ⟨3, .digit⟩, ⟨7, .digit⟩]).compile "NL" = .ok q →
        ∀ cs, p.accepts cs = q.accepts cs := by
  have hg : Grammar.parse "4a,10n" = .ok ⟨"4a,10n", [⟨4, .upper⟩, ⟨10, .digit⟩]⟩ := by
    decide +kernel
  have hh : Grammar.parse "4a,3n,7n" =
      .ok ⟨"4a,3n,7n", [⟨4, .upper⟩, ⟨3, .digit⟩, ⟨7, .digit⟩]⟩ := by
    decide +kernel
  have hc : IsCountryCode ['N', 'L'] := ⟨rfl, List.all_eq_true.1 rfl⟩
  obtain ⟨hcompile, hpositions, -, -⟩ := compile_parse
  obtain ⟨p, hp, -, haccepts⟩ := hcompile _ _ _ hg hc
  refine ⟨p, hp, fun cs h => ((haccepts cs).2 h).2, ?_⟩
  intro q hq
  exact hpositions _ _ _ _ _ _ _ hg hh hc hp hq rfl

end FieldFormats.Iban
