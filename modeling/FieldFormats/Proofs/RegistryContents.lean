import FieldFormats.Proofs.IbanVerdicts
import FieldFormats.Proofs.NumberReading
/-! # What a registry holds

Which tables make a registry, and what can be found in it: the formats of the rows, each under its
own country code, all of them within the lengths of IBANs. -/
namespace FieldFormats.Iban.Registry

open FieldFormats.Text FieldFormats.Table

/-- A row with a length below 2 to the 64th, a grammar of that length and, in front of the layout, a
country code. -/
structure Declares (row : Record) (country : List Char) (g : Grammar) (n : ℕ) : Prop where
  length : Denotes (row.field 1).toList n
  bounded : n < 0x10000000000000000
  grammar : Grammar.parse (row.field 2) = .ok g
  agrees : 4 + g.width = n
  letters : IsCountryCode country
  leads : country <+: (row.field 3).toList

/-- No country code stands in front of both layouts. -/
def Apart (p q : Record) : Prop :=
  ∀ country, IsCountryCode country → country <+: (p.field 3).toList →
    ¬ country <+: (q.field 3).toList

theorem layoutCode?_eq_some_ofList_iff {layout country : List Char} :
    layoutCode? layout = some (String.ofList country) ↔
      IsCountryCode country ∧ country <+: layout := by
  rw [layoutCode?_eq_some_iff]
  constructor
  · rintro ⟨letters, rest, hletters, hcode, rfl⟩
    rw [String.ofList_injective hcode]
    exact ⟨hletters, List.prefix_append letters rest⟩
  · rintro ⟨hletters, rest, rfl⟩
    exact ⟨country, rest, hletters, rfl, rfl⟩

namespace FormatOf

variable {row : Record} {f : Format} {country : List Char}

theorem leads_iff (h : FormatOf row f) (hcountry : IsCountryCode country) :
    country <+: (row.field 3).toList ↔ f.countryCode = String.ofList country := by
  constructor
  · intro hleads
    have hcode := layoutCode?_eq_some_ofList_iff.2 ⟨hcountry, hleads⟩
    exact Option.some.inj (h.code.symm.trans hcode)
  · intro hcode
    exact (layoutCode?_eq_some_ofList_iff.1 (hcode ▸ h.code)).2

theorem declares (h : FormatOf row f) :
    Declares row f.countryCode.toList f.grammar f.length := by
  obtain ⟨hlength, hbounded⟩ := readNumber?_trim_eq_some_iff.1 h.length
  refine ⟨hlength, hbounded, h.grammar, h.agrees, h.countryCode, ?_⟩
  rw [h.leads_iff h.countryCode, String.ofList_toList]

/-- A grammar has one character at least and thirty at most. -/
theorem length_bounds (h : FormatOf row f) : 5 ≤ f.length ∧ f.length ≤ 34 := by
  have hlow := Grammar.one_le_width_of_parse h.grammar
  have hhigh := h.legal.width
  have hagrees := h.agrees
  simp only [Grammar.ibanLength, headLength] at hagrees
  simp only [maxBbanLength, maxLength, headLength] at hhigh
  omega

end FormatOf

theorem exists_formatOf_iff {row : Record} :
    (∃ f, FormatOf row f) ↔ ∃ country g n, Declares row country g n := by
  constructor
  · rintro ⟨f, hf⟩
    exact ⟨_, _, _, hf.declares⟩
  · rintro ⟨country, g, n, h⟩
    obtain ⟨p, hp, -⟩ := Grammar.compile_describes (Grammar.parse_legal h.grammar) h.letters
    refine ⟨⟨row.field 0, String.ofList country, n, g, row.field 3, p⟩, ?_⟩
    exact {
      length := readNumber?_trim_eq_some_iff.2 ⟨h.length, h.bounded⟩
      grammar := h.grammar
      code := layoutCode?_eq_some_ofList_iff.2 ⟨h.letters, h.leads⟩
      agrees := h.agrees
      compiled := hp
      country := rfl
      fields := rfl }

theorem apart_iff {p q : Record} {f g : Format} (hf : FormatOf p f) (hg : FormatOf q g) :
    Apart p q ↔ f.countryCode ≠ g.countryCode := by
  constructor
  · intro hapart hcode
    apply hapart f.countryCode.toList hf.countryCode
    · rw [hf.leads_iff hf.countryCode, String.ofList_toList]
    · rw [hg.leads_iff hf.countryCode, String.ofList_toList, hcode]
  · intro hne country hcountry hp hq
    apply hne
    rw [(hf.leads_iff hcountry).1 hp, (hg.leads_iff hcountry).1 hq]

theorem exists_readFormats_iff {table : String} {found : List Format} {rows : List Record} :
    (∃ out, (readFormats table found rows).result = .ok out) ↔
      (∀ row ∈ rows, ∃ f, FormatOf row f) ∧ rows.Pairwise Apart ∧
        ∀ row ∈ rows, ∀ f, FormatOf row f → ∀ g ∈ found, g.countryCode ≠ f.countryCode := by
  -- On the rows; those to come must keep apart from each other and from what was found.
  induction rows generalizing found with
  | nil => simp [readFormats]
  | cons row rows ih =>
    simp only [readFormats_cons_eq_ok_iff, List.forall_mem_cons, List.pairwise_cons]
    constructor
    · rintro ⟨out, f, hf, hnew, hrest⟩
      obtain ⟨htotal, hapart, hfresh⟩ := ih.1 ⟨out, hrest⟩
      refine ⟨⟨⟨f, hf⟩, htotal⟩, ⟨?_, hapart⟩, ?_, ?_⟩
      · intro q hq
        obtain ⟨g, hg⟩ := htotal q hq
        exact (apart_iff hf hg).2 (hfresh q hq g hg f (mem_insertFormat.2 (Or.inl rfl)))
      · intro g hg
        rw [hg.unique hf]
        exact hnew
      · intro q hq g hg e he
        exact hfresh q hq g hg e (mem_insertFormat.2 (Or.inr he))
    · rintro ⟨⟨⟨f, hf⟩, htotal⟩, ⟨hfirst, hapart⟩, hnew, hfresh⟩
      have hrest : ∃ out, (readFormats table (insertFormat f found) rows).result = .ok out := by
        refine ih.2 ⟨htotal, hapart, ?_⟩
        intro q hq g hg e he
        rcases mem_insertFormat.1 he with rfl | he
        · exact (apart_iff hf hg).1 (hfirst q hq)
        · exact hfresh q hq g hg e he
      obtain ⟨out, hout⟩ := hrest
      exact ⟨out, f, hf, hnew f hf, hout⟩

theorem length_insertFormat (f : Format) (fs : List Format) :
    (insertFormat f fs).length = fs.length + 1 := by
  rw [insertFormat_eq_orderedInsert, List.orderedInsert_length]

theorem length_readFormats {table : String} {found out : List Format} {rows : List Record}
    (h : (readFormats table found rows).result = .ok out) :
    out.length = found.length + rows.length := by
  induction rows generalizing found with
  | nil =>
    cases h
    rfl
  | cons row rows ih =>
    obtain ⟨f, -, -, h⟩ := readFormats_cons_eq_ok_iff.1 h
    rw [ih h, length_insertFormat, List.length_cons]
    omega

theorem load_eq_ok_iff_readFormats {table text : String} {r : Registry} :
    (load table text).result = .ok r ↔
      ∃ rows, (Table.load table tableWidth text).result = .ok rows ∧ rows ≠ [] ∧
        (readFormats table [] rows).result = .ok r.formats := by
  unfold load
  rw [Traced.bind_eq_ok_iff]
  refine exists_congr fun rows => and_congr_right fun _ => ?_
  rw [Traced.bind_eq_ok_iff]
  constructor
  · rintro ⟨formats, hformats, h⟩
    have hlength := length_readFormats hformats
    split at h
    · cases h
    · next hne =>
      obtain ⟨-, -, h⟩ := Traced.bind_eq_ok_iff.1 h
      cases h
      refine ⟨?_, hformats⟩
      rintro rfl
      exact hne (List.length_eq_zero_iff.1 hlength)
  · rintro ⟨hne, hformats⟩
    have hlength := length_readFormats hformats
    refine ⟨r.formats, hformats, ?_⟩
    have hformats_ne : r.formats ≠ [] := by
      intro hnil
      rw [hnil, List.length_nil, Nat.zero_add] at hlength
      exact hne (List.length_eq_zero_iff.1 hlength.symm)
    rw [if_neg hformats_ne]
    exact Traced.bind_eq_ok_iff.2 ⟨(), rfl, rfl⟩

/-- A format that says what a row says, for the country code in front of its layout. -/
structure Carries (row : Record) (code : String) (f : Format) : Prop where
  letters : IsCountryCode code.toList
  leads : code.toList <+: (row.field 3).toList
  key : f.countryCode = code
  country : f.country = row.field 0
  length : Denotes (row.field 1).toList f.length
  source : f.grammar.source = row.field 2
  grammar : Grammar.parse (row.field 2) = .ok f.grammar
  fields : f.fields = row.field 3
  compiled : f.grammar.compile code = .ok f.pattern

theorem FormatOf.carries {row : Record} {f : Format} (h : FormatOf row f) :
    Carries row f.countryCode f where
  letters := h.countryCode
  leads := h.declares.leads
  key := rfl
  country := h.country
  length := h.declares.length
  source := Grammar.source_of_parse h.grammar
  grammar := h.grammar
  fields := h.fields
  compiled := h.compiled

theorem Carries.eq_of_formatOf {row : Record} {code : String} {f g : Format}
    (h : Carries row code f) (hg : FormatOf row g) : f = g := by
  have hcode : g.countryCode = code := by
    rw [(hg.leads_iff h.letters).1 h.leads, String.ofList_toList]
  have hgrammar : f.grammar = g.grammar := Except.ok.inj (h.grammar.symm.trans hg.grammar)
  have hlength : f.length = g.length := h.length.unique hg.declares.length
  have hpattern : f.pattern = g.pattern := by
    have hcompiled := h.compiled
    rw [hgrammar, ← hcode, hg.compiled] at hcompiled
    exact (Except.ok.inj hcompiled).symm
  obtain ⟨country, countryCode, length, grammar, fields, pattern⟩ := f
  obtain ⟨country', countryCode', length', grammar', fields', pattern'⟩ := g
  simp only [Format.mk.injEq]
  exact ⟨h.country.trans hg.country.symm, h.key.trans hcode.symm, hlength, hgrammar,
    h.fields.trans hg.fields.symm, hpattern⟩

/-- What a registry made from these rows holds, and what its operations say of it. -/
structure Contents (r : Registry) (rows : List Record) : Prop where
  find?_iff : ∀ code f, r.find? code = some f ↔ ∃ row ∈ rows, Carries row code f
  found_iff : ∀ code, (∃ f, r.find? code = some f) ↔
    ∃ row ∈ rows, IsCountryCode code.toList ∧ code.toList <+: (row.field 3).toList
  contains_iff : ∀ code, r.contains code = true ↔ ∃ f, r.find? code = some f
  size : r.size = rows.length
  codes : r.countryCodes.Pairwise (· < ·)
  keys : ∀ f ∈ r.formats, r.find? f.countryCode = some f
  lengths : ∀ f ∈ r.formats, 5 ≤ f.length ∧ f.length ≤ 34
  least : ∀ f ∈ r.formats, r.minimumLength ≤ f.length
  attained : ∃ f ∈ r.formats, f.length = r.minimumLength

theorem contains_iff_exists_find? {r : Registry} {code : String} :
    r.contains code = true ↔ ∃ f, r.find? code = some f := by
  rw [contains, List.any_eq_true, find?, ← Option.isSome_iff_exists, List.find?_isSome]

theorem exists_length_eq_minimumLength {r : Registry} (h : r.formats ≠ []) :
    ∃ f ∈ r.formats, f.length = r.minimumLength := by
  have hlengths : r.formats.map (·.length) ≠ [] := by
    rw [ne_eq, List.map_eq_nil_iff]
    exact h
  unfold minimumLength
  cases hmin : (r.formats.map (·.length)).min? with
  | none => exact absurd (List.min?_eq_none_iff.1 hmin) hlengths
  | some m =>
    obtain ⟨f, hf, hm⟩ := List.mem_map.1 (List.min?_eq_some_iff.1 hmin).1
    exact ⟨f, hf, hm⟩

theorem Holds.find?_iff_carries {r : Registry} {rows : List Record} (hr : r.Holds rows)
    (code : String) (f : Format) :
    r.find? code = some f ↔ ∃ row ∈ rows, Carries row code f := by
  rw [find?_eq_some_iff hr, hr.mem_iff]
  constructor
  · rintro ⟨⟨row, hrow, hf⟩, rfl⟩
    exact ⟨row, hrow, hf.carries⟩
  · rintro ⟨row, hrow, hcarries⟩
    obtain ⟨g, hg⟩ := hr.total row hrow
    refine ⟨⟨row, hrow, ?_⟩, hcarries.key⟩
    rw [hcarries.eq_of_formatOf hg]
    exact hg

theorem Holds.found_iff {r : Registry} {rows : List Record} (hr : r.Holds rows) (code : String) :
    (∃ f, r.find? code = some f) ↔
      ∃ row ∈ rows, IsCountryCode code.toList ∧ code.toList <+: (row.field 3).toList := by
  constructor
  · rintro ⟨f, hf⟩
    obtain ⟨row, hrow, hcarries⟩ := (hr.find?_iff_carries code f).1 hf
    exact ⟨row, hrow, hcarries.letters, hcarries.leads⟩
  · rintro ⟨row, hrow, hletters, hleads⟩
    obtain ⟨f, hf⟩ := hr.total row hrow
    have hcode := (hf.leads_iff hletters).1 hleads
    rw [String.ofList_toList] at hcode
    exact ⟨f, (hr.find?_iff_carries code f).2 ⟨row, hrow, hcode ▸ hf.carries⟩⟩

theorem Holds.contents {r : Registry} {rows : List Record} (hr : r.Holds rows)
    (hsize : r.size = rows.length) : r.Contents rows where
  find?_iff := hr.find?_iff_carries
  found_iff := hr.found_iff
  contains_iff _ := contains_iff_exists_find?
  size := hsize
  codes := List.pairwise_map.2 hr.ascending
  keys f hf := (find?_eq_some_iff hr).2 ⟨hf, rfl⟩
  lengths f hf := by
    obtain ⟨row, -, hrow⟩ := (hr.mem_iff f).1 hf
    exact hrow.length_bounds
  least f hf := minimumLength_le hf
  attained := exists_length_eq_minimumLength hr.nonempty

/-- A table makes a registry if it has rows, all of them sound and no two of one country. The
registry then holds what the rows say. -/
theorem load_contents (table text : String) :
    ((∃ r, (load table text).result = .ok r) ↔
      ∃ rows, (Table.load table 4 text).result = .ok rows ∧ rows ≠ [] ∧
        (∀ row ∈ rows, ∃ country g n, Declares row country g n) ∧ rows.Pairwise Apart) ∧
    ∀ r rows, (load table text).result = .ok r → (Table.load table 4 text).result = .ok rows →
      r.Contents rows := by
  constructor
  · have hrows : ∀ rows : List Record,
        (∃ r : Registry, (readFormats table [] rows).result = .ok r.formats) ↔
          (∀ row ∈ rows, ∃ country g n, Declares row country g n) ∧ rows.Pairwise Apart := by
      intro rows
      have hreads := @exists_readFormats_iff table [] rows
      simp only [exists_formatOf_iff, List.not_mem_nil, false_implies, implies_true, and_true]
        at hreads
      rw [← hreads]
      constructor
      · rintro ⟨r, hr⟩
        exact ⟨r.formats, hr⟩
      · rintro ⟨out, hout⟩
        exact ⟨⟨out⟩, hout⟩
    constructor
    · rintro ⟨r, hr⟩
      obtain ⟨rows, hload, hne, hformats⟩ := load_eq_ok_iff_readFormats.1 hr
      exact ⟨rows, hload, hne, (hrows rows).1 ⟨r, hformats⟩⟩
    · rintro ⟨rows, hload, hne, hsound⟩
      obtain ⟨r, hformats⟩ := (hrows rows).2 hsound
      exact ⟨r, load_eq_ok_iff_readFormats.2 ⟨rows, hload, hne, hformats⟩⟩
  · intro r rows hr hload
    obtain ⟨others, hothers, -, hformats⟩ := load_eq_ok_iff_readFormats.1 hr
    cases hload.symm.trans hothers
    have hsize := length_readFormats hformats
    rw [List.length_nil, Nat.zero_add] at hsize
    rw [(load_eq_ok_iff.1 hload).1] at hsize ⊢
    exact (load_holds hr).contents hsize

/-- Rows that are not in the order of their codes, with blanks and a sign around the lengths. -/
def unordered : List Record :=
  [⟨1, ["Norway", " +15", "11n", "NOkk bbbb cccc ccx"]⟩,
    ⟨2, ["Netherlands", "018\u2003", "4a,10n", "NLkk bbbb cccc cccc cc"]⟩]

def unorderedText : String :=
  "Norway\t +15\t11n\tNOkk bbbb cccc ccx\nNetherlands\t018\u2003\t4a,10n\tNLkk bbbb cccc cccc cc"

theorem load_contents_unordered :
    ∃ r, (load "countries.tsv" unorderedText).result = .ok r ∧
      (Table.load "countries.tsv" 4 unorderedText).result = .ok unordered ∧ r.size = 2 ∧
      (∃ f, r.find? "NL" = some f) ∧ ¬ ∃ f, r.find? "N" = some f := by
  obtain ⟨hloads, hcontents⟩ := load_contents "countries.tsv" unorderedText
  have hrows : (Table.load "countries.tsv" 4 unorderedText).result = .ok unordered := by
    decide +kernel
  have hletters : ∀ a b : Char, a.isUpper = true → b.isUpper = true → IsCountryCode [a, b] := by
    intro a b ha hb
    exact ⟨rfl, List.forall_mem_cons.2 ⟨ha, List.forall_mem_cons.2 ⟨hb, by simp⟩⟩⟩
  have hdeclares : ∀ row ∈ unordered, ∃ country g n, Declares row country g n := by
    refine List.forall_mem_cons.2 ⟨?_, List.forall_mem_cons.2 ⟨?_, by simp⟩⟩
    · refine ⟨['N', 'O'], ⟨"11n", [⟨11, .digit⟩]⟩, 15, ?_, by decide, by decide +kernel, rfl,
        hletters _ _ rfl rfl, ⟨_, rfl⟩⟩
      exact ⟨[' '], ['+'], ['1', '5'], [], rfl, List.all_eq_true.1 rfl, by simp, Or.inr rfl,
        by simp, List.all_eq_true.1 rfl, rfl⟩
    · refine ⟨['N', 'L'], ⟨"4a,10n", [⟨4, .upper⟩, ⟨10, .digit⟩]⟩, 18, ?_, by decide,
        by decide +kernel, rfl, hletters _ _ rfl rfl, ⟨_, rfl⟩⟩
      exact ⟨[], [], ['0', '1', '8'], ['\u2003'], rfl, by simp, List.all_eq_true.1 rfl, Or.inl rfl,
        by simp, List.all_eq_true.1 rfl, rfl⟩
  have hapart : unordered.Pairwise Apart := by
    refine List.pairwise_cons.2 ⟨?_, List.pairwise_singleton _ _⟩
    intro q hq country hcountry hnorway hdutch
    rw [List.mem_singleton.1 hq] at hdutch
    have hno := List.prefix_iff_eq_take.1 hnorway
    have hnl := List.prefix_iff_eq_take.1 hdutch
    rw [hcountry.length] at hno hnl
    rw [hno] at hnl
    exact absurd hnl (by decide +kernel)
  obtain ⟨r, hr⟩ := hloads.2 ⟨unordered, hrows, by simp [unordered], hdeclares, hapart⟩
  have hr_contents := hcontents r unordered hr hrows
  refine ⟨r, hr, hrows, hr_contents.size, ?_, ?_⟩
  · refine (hr_contents.found_iff "NL").2 ⟨_, List.mem_cons_of_mem _ List.mem_cons_self, ?_⟩
    exact ⟨hletters 'N' 'L' rfl rfl, ⟨_, rfl⟩⟩
  · intro hfound
    obtain ⟨-, -, hcode, -⟩ := (hr_contents.found_iff "N").1 hfound
    exact absurd hcode.length (by decide)

end FieldFormats.Iban.Registry
