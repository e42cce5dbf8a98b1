import FieldFormats.Currency.Verdict
import FieldFormats.Proofs.AscendingKeys
import FieldFormats.Proofs.AsciiText
import FieldFormats.Proofs.NumberReading
import FieldFormats.Proofs.TableReading
/-! # The two indexes of a currency registry

Which tables make a registry of currencies, and what can be found in it. The index of numeric codes
answers as the one of alphabetic codes does: both are filled row by row, and no row gets in that
would have them disagree. -/
namespace FieldFormats.Currency.Registry

open FieldFormats.Text FieldFormats.Table

/-- A row with three capital letters for a code and a number of 16 bits. -/
structure Declares (row : Record) (n : ℕ) : Prop where
  length : (row.field 0).toList.length = 3
  capitals : ∀ c ∈ (row.field 0).toList, c.isUpper = true
  number : Denotes (row.field 1).toList n
  bounded : n < 65536

/-- Two rows that share neither the alphabetic code nor the number, however they write it. -/
structure Apart (p q : Record) : Prop where
  codes : p.field 0 ≠ q.field 0
  numbers : ∀ n, Denotes (p.field 1).toList n → ¬ Denotes (q.field 1).toList n

/-- A currency that says what a row says. -/
structure Carries (row : Record) (c : Currency) : Prop where
  code : c.code = row.field 0
  number : Denotes (row.field 1).toList c.numericCode
  name : c.name = row.field 2
  locations : c.locations = row.field 3

variable {row p q : Record} {rows : List Record} {c d : Currency} {r found out : Registry}
  {table : String}

theorem Carries.unique (hc : Carries row c) (hd : Carries row d) : c = d := by
  obtain ⟨code, number, name, locations⟩ := c
  obtain ⟨code', number', name', locations'⟩ := d
  simp only [Currency.mk.injEq]
  exact ⟨hc.code.trans hd.code.symm, hc.number.unique hd.number, hc.name.trans hd.name.symm,
    hc.locations.trans hd.locations.symm⟩

theorem Carries.apart_iff (hc : Carries p c) (hd : Carries q d) :
    Apart p q ↔ c.code ≠ d.code ∧ c.numericCode ≠ d.numericCode := by
  rw [hc.code, hd.code]
  constructor
  · intro h
    refine ⟨h.codes, ?_⟩
    intro hnumber
    exact h.numbers _ hc.number (hnumber ▸ hd.number)
  · rintro ⟨hcode, hnumber⟩
    refine ⟨hcode, ?_⟩
    intro n hp hq
    exact hnumber ((hc.number.unique hp).trans (hq.unique hd.number))

/-- A row that makes a currency: the row is sound and the currency says what it says. -/
def CurrencyOf (row : Record) (c : Currency) : Prop :=
  Declares row c.numericCode ∧ Carries row c

theorem exists_currencyOf_iff : (∃ c, CurrencyOf row c) ↔ ∃ n, Declares row n := by
  constructor
  · rintro ⟨c, hrow, -⟩
    exact ⟨c.numericCode, hrow⟩
  · rintro ⟨n, hrow⟩
    exact ⟨⟨row.field 0, n, row.field 2, row.field 3⟩, hrow, rfl, hrow.number, rfl, rfl⟩

theorem isCode_iff {code : List Char} :
    isCode code = true ↔ code.length = 3 ∧ ∀ c ∈ code, c.isUpper = true := by
  rw [isCode, Bool.and_eq_true_iff, decide_eq_true_eq, List.all_eq_true]
  rfl

theorem readCurrency_eq_ok_iff : readCurrency table row = .ok c ↔ CurrencyOf row c := by
  unfold readCurrency
  constructor
  · intro h
    split at h
    · next hcode =>
      obtain ⟨hlength, hcapitals⟩ := isCode_iff.1 hcode
      split at h
      · cases h
      · next n hn =>
        cases h
        obtain ⟨hnumber, hbounded⟩ := readNumber?_trim_eq_some_iff.1 (Record.number_eq_ok_iff.1 hn)
        exact ⟨⟨hlength, hcapitals, hnumber, hbounded⟩, ⟨rfl, hnumber, rfl, rfl⟩⟩
    · cases h
  · rintro ⟨hrow, hc⟩
    have hnumber : row.number 1 numericBound table .numericCode = .ok c.numericCode :=
      Record.number_eq_ok_iff.2 (readNumber?_trim_eq_some_iff.2 ⟨hrow.number, hrow.bounded⟩)
    rw [if_pos (isCode_iff.2 ⟨hrow.length, hrow.capitals⟩), hnumber]
    simp only [← hc.code, ← hc.name, ← hc.locations]

theorem insertCurrency_eq_orderedInsert (c : Currency) (cs : List Currency) :
    insertCurrency c cs = cs.orderedInsert (fun d e => d.code < e.code) c := by
  induction cs with
  | nil => rfl
  | cons d cs ih => rw [insertCurrency, List.orderedInsert, ih]

theorem mem_add : d ∈ (r.add c).currencies ↔ d = c ∨ d ∈ r.currencies := by
  rw [add, insertCurrency_eq_orderedInsert, List.mem_orderedInsert]

theorem size_add (r : Registry) (c : Currency) : (r.add c).size = r.size + 1 := by
  rw [size, add, insertCurrency_eq_orderedInsert, List.orderedInsert_length, size]

theorem codeOf?_add (r : Registry) (c : Currency) (n : ℕ) :
    (r.add c).codeOf? n = if c.numericCode = n then some c.code else r.codeOf? n := by
  unfold codeOf? add
  by_cases hn : c.numericCode = n
  · rw [if_pos hn, List.find?_cons_of_pos (by simpa using hn)]
    rfl
  · rw [if_neg hn, List.find?_cons_of_neg (by simpa using hn)]

theorem contains_iff_exists_mem {code : String} :
    r.contains code = true ↔ ∃ c ∈ r.currencies, c.code = code := by
  simp only [contains, List.any_eq_true, decide_eq_true_eq]

/-- What holds of a registry after every row: its currencies are in order, and the index of numbers
has for each of them the code of the one currency with that number. -/
structure Indexed (r : Registry) : Prop where
  ascending : AscendingBy Currency.code r.currencies
  codeOf?_iff : ∀ n code, r.codeOf? n = some code ↔
    ∃ c ∈ r.currencies, c.code = code ∧ c.numericCode = n

theorem indexed_empty : Indexed {} where
  ascending := List.Pairwise.nil
  codeOf?_iff := by simp [codeOf?]

namespace Indexed

theorem find?_eq_some_iff (hr : r.Indexed) {code : String} :
    r.find? code = some c ↔ c ∈ r.currencies ∧ c.code = code :=
  hr.ascending.find?_eq_some_iff

theorem codeOf?_eq_none_iff (hr : r.Indexed) {n : ℕ} :
    r.codeOf? n = none ↔ ∀ c ∈ r.currencies, c.numericCode ≠ n := by
  rw [Option.eq_none_iff_forall_ne_some]
  simp only [ne_eq, hr.codeOf?_iff]
  constructor
  · intro h c hc hn
    exact h c.code ⟨c, hc, rfl, hn⟩
  · rintro h code ⟨c, hc, -, hn⟩
    exact h c hc hn

/-- The number leads to a code, and the code to the currency that has the number. -/
theorem findNumeric?_eq_some_iff (hr : r.Indexed) {n : ℕ} :
    r.findNumeric? n = some c ↔ r.find? c.code = some c ∧ c.numericCode = n := by
  simp only [findNumeric?, Option.bind_eq_some_iff, hr.codeOf?_iff, hr.find?_eq_some_iff, and_true]
  constructor
  · rintro ⟨code, ⟨d, hd, rfl, hn⟩, hc, hcode⟩
    rw [hr.ascending.eq_of_key hc hd hcode]
    exact ⟨hd, hn⟩
  · rintro ⟨hc, hn⟩
    exact ⟨c.code, ⟨c, hc, rfl, hn⟩, hc, rfl⟩

theorem add (hr : r.Indexed) (hcode : ∀ d ∈ r.currencies, d.code ≠ c.code)
    (hnumber : ∀ d ∈ r.currencies, d.numericCode ≠ c.numericCode) : (r.add c).Indexed where
  ascending := by
    rw [Registry.add, insertCurrency_eq_orderedInsert]
    exact hr.ascending.orderedInsert hcode
  codeOf?_iff n code := by
    simp only [codeOf?_add, mem_add, exists_eq_or_imp]
    by_cases hn : c.numericCode = n
    · rw [if_pos hn, Option.some.injEq]
      constructor
      · exact fun h => Or.inl ⟨h, hn⟩
      · rintro (⟨h, -⟩ | ⟨d, hd, -, hother⟩)
        · exact h
        · exact absurd (hother.trans hn.symm) (hnumber d hd)
    · rw [if_neg hn, hr.codeOf?_iff]
      constructor
      · exact Or.inr
      · rintro (⟨-, h⟩ | h)
        · exact absurd h hn
        · exact h

end Indexed

/-- A currency with a code and a number that no currency of the registry has. -/
structure New (r : Registry) (c : Currency) : Prop where
  code : ∀ d ∈ r.currencies, d.code ≠ c.code
  number : ∀ d ∈ r.currencies, d.numericCode ≠ c.numericCode

theorem readCurrencies_cons_eq_ok_iff (hfound : found.Indexed) :
    (readCurrencies table found (row :: rows)).result = .ok out ↔
      ∃ c, CurrencyOf row c ∧ found.New c ∧
        (readCurrencies table (found.add c) rows).result = .ok out := by
  rw [readCurrencies, Traced.bind_eq_ok_iff]
  simp only [Traced.result_ofExcept, readCurrency_eq_ok_iff]
  refine exists_congr fun c => and_congr_right fun _ => ?_
  by_cases hcode : found.contains c.code = true
  · rw [if_pos hcode]
    obtain ⟨d, hd, hsame⟩ := contains_iff_exists_mem.1 hcode
    constructor
    · intro h
      cases h
    · rintro ⟨hnew, -⟩
      exact absurd hsame (hnew.code d hd)
  · rw [if_neg hcode]
    have hcodes : ∀ d ∈ found.currencies, d.code ≠ c.code := fun d hd hsame =>
      hcode (contains_iff_exists_mem.2 ⟨d, hd, hsame⟩)
    split
    · next existing htaken =>
      obtain ⟨d, hd, -, hsame⟩ := (hfound.codeOf?_iff _ _).1 htaken
      constructor
      · intro h
        obtain ⟨-, -, h⟩ := Traced.bind_eq_ok_iff.1 h
        cases h
      · rintro ⟨hnew, -⟩
        exact absurd hsame (hnew.number d hd)
    · next hfree =>
      rw [Traced.bind_eq_ok_iff]
      simp only [Traced.result_note, true_and, exists_const]
      exact (and_iff_right ⟨hcodes, hfound.codeOf?_eq_none_iff.1 hfree⟩).symm

theorem readCurrencies_eq_ok (hfound : found.Indexed)
    (h : (readCurrencies table found rows).result = .ok out) :
    out.Indexed ∧
      (∀ c, c ∈ out.currencies ↔ c ∈ found.currencies ∨ ∃ row ∈ rows, CurrencyOf row c) ∧
      (∀ row ∈ rows, ∃ c, CurrencyOf row c) ∧ out.size = found.size + rows.length := by
  -- On the rows; each keeps the indexes in step and adds its own currency.
  induction rows generalizing found with
  | nil =>
    cases h
    exact ⟨hfound, by simp, by simp, rfl⟩
  | cons row rows ih =>
    obtain ⟨c, hc, hnew, h⟩ := (readCurrencies_cons_eq_ok_iff hfound).1 h
    obtain ⟨hout, hmem, htotal, hsize⟩ := ih (hfound.add hnew.code hnew.number) h
    refine ⟨hout, ?_, List.forall_mem_cons.2 ⟨⟨c, hc⟩, htotal⟩, ?_⟩
    · intro d
      rw [hmem, mem_add, List.exists_mem_cons_iff]
      have hd : CurrencyOf row d ↔ d = c := by
        constructor
        · exact fun hd => hd.2.unique hc.2
        · rintro rfl
          exact hc
      rw [hd]
      tauto
    · rw [hsize, size_add, List.length_cons]
      omega

theorem exists_readCurrencies_iff (hfound : found.Indexed) :
    (∃ out, (readCurrencies table found rows).result = .ok out) ↔
      (∀ row ∈ rows, ∃ c, CurrencyOf row c) ∧ rows.Pairwise Apart ∧
        ∀ row ∈ rows, ∀ c, CurrencyOf row c → found.New c := by
  -- On the rows; those to come must keep apart from each other and from what was found.
  induction rows generalizing found with
  | nil => simp [readCurrencies]
  | cons row rows ih =>
    simp only [readCurrencies_cons_eq_ok_iff hfound, List.forall_mem_cons, List.pairwise_cons]
    constructor
    · rintro ⟨out, c, hc, hnew, hrest⟩
      obtain ⟨htotal, hapart, hfresh⟩ := (ih (hfound.add hnew.code hnew.number)).1 ⟨out, hrest⟩
      refine ⟨⟨⟨c, hc⟩, htotal⟩, ⟨?_, hapart⟩, ?_, ?_⟩
      · intro q hq
        obtain ⟨d, hd⟩ := htotal q hq
        have hd_new := hfresh q hq d hd
        have hmem : c ∈ (found.add c).currencies := mem_add.2 (Or.inl rfl)
        exact (hc.2.apart_iff hd.2).2 ⟨hd_new.code c hmem, hd_new.number c hmem⟩
      · intro d hd
        rw [hd.2.unique hc.2]
        exact hnew
      · intro q hq d hd
        have hd_new := hfresh q hq d hd
        exact ⟨fun e he => hd_new.code e (mem_add.2 (Or.inr he)),
          fun e he => hd_new.number e (mem_add.2 (Or.inr he))⟩
    · rintro ⟨⟨⟨c, hc⟩, htotal⟩, ⟨hfirst, hapart⟩, hnew, hfresh⟩
      have hc_new := hnew c hc
      obtain ⟨out, hout⟩ := (ih (hfound.add hc_new.code hc_new.number)).2 ⟨htotal, hapart, by
        intro q hq d hd
        obtain ⟨hcode, hnumber⟩ := (hc.2.apart_iff hd.2).1 (hfirst q hq)
        have hd_new := hfresh q hq d hd
        constructor
        · intro e he
          rcases mem_add.1 he with rfl | he
          · exact hcode
          · exact hd_new.code e he
        · intro e he
          rcases mem_add.1 he with rfl | he
          · exact hnumber
          · exact hd_new.number e he⟩
      exact ⟨out, c, hc, hc_new, hout⟩

theorem load_eq_ok_iff_readCurrencies {text : String} :
    (load table text).result = .ok r ↔
      ∃ rows, (Table.load table tableWidth text).result = .ok rows ∧ rows ≠ [] ∧
        (readCurrencies table {} rows).result = .ok r := by
  unfold load
  rw [Traced.bind_eq_ok_iff]
  refine exists_congr fun rows => and_congr_right fun _ => ?_
  have hempty : ∀ out, (readCurrencies table {} rows).result = .ok out →
      (out.currencies = [] ↔ rows = []) := by
    intro out hout
    have hsize := (readCurrencies_eq_ok indexed_empty hout).2.2.2
    rw [show size {} = 0 from rfl, Nat.zero_add] at hsize
    rw [← List.length_eq_zero_iff, ← List.length_eq_zero_iff, ← hsize]
    rfl
  rw [Traced.bind_eq_ok_iff]
  constructor
  · rintro ⟨out, hout, h⟩
    split at h
    · cases h
    · next hne =>
      obtain ⟨-, -, h⟩ := Traced.bind_eq_ok_iff.1 h
      cases h
      exact ⟨fun hnil => hne ((hempty r hout).2 hnil), hout⟩
  · rintro ⟨hne, hout⟩
    refine ⟨r, hout, ?_⟩
    rw [if_neg fun hnil => hne ((hempty r hout).1 hnil)]
    exact Traced.bind_eq_ok_iff.2 ⟨(), rfl, rfl⟩

theorem mem_codes_iff {code : String} : code ∈ r.codes ↔ ∃ c ∈ r.currencies, c.code = code :=
  List.mem_map

/-- Codes as a table can bring them in. -/
def Coded (r : Registry) : Prop :=
  ∀ code ∈ r.codes, code.toList.length = 3 ∧ ∀ c ∈ code.toList, c.isUpper = true

theorem isBlank_eq_false_of_toUpper {a : Char} (h : a.toUpper.isUpper = true) :
    isBlank a = false := by
  apply isBlank_eq_false_of_isAlphanum
  rw [← isAlphanum_toUpper]
  exact IsPlain.isAlphanum (Or.inl h)

/-- The test for three characters refuses nothing that the look-up would find, and a value of
blanks is no code in upper case either. -/
theorem accepts_iff (hr : r.Coded) (v : String) :
    r.accepts v = true ↔ v = "" ∨ String.ofList (v.toList.map Char.toUpper) ∈ r.codes := by
  by_cases hv : v = ""
  · subst hv
    exact iff_of_true rfl (Or.inl rfl)
  · rw [or_iff_right hv, accepts]
    by_cases hblank : isBlankText v = true
    · rw [Presence.check_blank _ hv hblank]
      refine iff_of_false Bool.false_ne_true ?_
      intro hmem
      obtain ⟨-, hcapitals⟩ := hr _ hmem
      rw [String.toList_ofList, List.forall_mem_map] at hcapitals
      obtain ⟨a, ha⟩ := List.exists_mem_of_ne_nil _ (mt String.toList_eq_nil_iff.1 hv)
      have hfalse := isBlank_eq_false_of_toUpper (hcapitals a ha)
      rw [List.all_eq_true.1 hblank a ha] at hfalse
      cases hfalse
    · rw [Bool.not_eq_true] at hblank
      rw [Presence.check_present _ hblank, isKnown, Bool.and_eq_true_iff, decide_eq_true_eq,
        contains_iff_exists_mem, ← mem_codes_iff, and_iff_right_iff_imp]
      intro hmem
      obtain ⟨hlength, -⟩ := hr _ hmem
      rw [String.toList_ofList, List.length_map] at hlength
      exact hlength

/-- What a registry made from these rows holds, and what its operations say of it. -/
structure Contents (r : Registry) (rows : List Record) : Prop where
  /-- The two indexes are inverse to each other. -/
  findNumeric?_iff : ∀ n c, r.findNumeric? n = some c ↔
    r.find? c.code = some c ∧ c.numericCode = n
  reached : ∀ row ∈ rows, ∃ c, Carries row c ∧ r.find? (row.field 0) = some c ∧
    r.findNumeric? c.numericCode = some c
  origin : ∀ code c, r.find? code = some c → c.code = code ∧ ∃ row ∈ rows, Carries row c
  contains_iff : ∀ code, r.contains code = true ↔ ∃ c, r.find? code = some c
  size : r.size = rows.length
  codes : r.codes.Pairwise (· < ·)
  keys : ∀ c ∈ r.currencies, r.find? c.code = some c ∧ r.findNumeric? c.numericCode = some c
  accepts_iff : ∀ v, r.accepts v = true ↔
    v = "" ∨ String.ofList (v.toList.map Char.toUpper) ∈ r.codes

theorem Indexed.keys (hr : r.Indexed) (hc : c ∈ r.currencies) :
    r.find? c.code = some c ∧ r.findNumeric? c.numericCode = some c := by
  have hfind := hr.find?_eq_some_iff.2 ⟨hc, rfl⟩
  exact ⟨hfind, hr.findNumeric?_eq_some_iff.2 ⟨hfind, rfl⟩⟩

theorem contents_of_readCurrencies (h : (readCurrencies table {} rows).result = .ok r) :
    r.Contents rows := by
  obtain ⟨hr, hmem, htotal, hsize⟩ := readCurrencies_eq_ok indexed_empty h
  have hmem : ∀ c, c ∈ r.currencies ↔ ∃ row ∈ rows, CurrencyOf row c := by simpa using hmem
  have hcoded : r.Coded := by
    intro code hcode
    obtain ⟨c, hc, rfl⟩ := mem_codes_iff.1 hcode
    obtain ⟨row, -, hrow, hcarries⟩ := (hmem c).1 hc
    rw [hcarries.code]
    exact ⟨hrow.length, hrow.capitals⟩
  refine ⟨fun n c => hr.findNumeric?_eq_some_iff, ?_, ?_, ?_, ?_, List.pairwise_map.2 hr.ascending,
    fun c hc => hr.keys hc, accepts_iff hcoded⟩
  · intro row hrow
    obtain ⟨c, hc⟩ := htotal row hrow
    obtain ⟨hcode, hnumber⟩ := hr.keys ((hmem c).2 ⟨row, hrow, hc⟩)
    exact ⟨c, hc.2, hc.2.code ▸ hcode, hnumber⟩
  · intro code c hfind
    obtain ⟨hc, hcode⟩ := hr.find?_eq_some_iff.1 hfind
    obtain ⟨row, hrow, -, hcarries⟩ := (hmem c).1 hc
    exact ⟨hcode, row, hrow, hcarries⟩
  · intro code
    simp only [contains_iff_exists_mem, hr.find?_eq_some_iff]
  · rw [hsize]
    exact Nat.zero_add _

/-- A table makes a registry if it has rows, all of them sound and no two with a code or a number in
common. The registry then holds what the rows say, under both keys. -/
theorem load_indexes (table text : String) :
    ((∃ r, (load table text).result = .ok r) ↔
      ∃ rows, (Table.load table 4 text).result = .ok rows ∧ rows ≠ [] ∧
        (∀ row ∈ rows, ∃ n, Declares row n) ∧ rows.Pairwise Apart) ∧
    ∀ r rows, (load table text).result = .ok r → (Table.load table 4 text).result = .ok rows →
      r.Contents rows := by
  constructor
  · simp only [load_eq_ok_iff_readCurrencies, ← exists_currencyOf_iff]
    rw [exists_comm]
    refine exists_congr fun rows => ?_
    simp only [exists_and_left]
    refine and_congr_right fun _ => and_congr_right fun _ => ?_
    rw [exists_readCurrencies_iff indexed_empty]
    have hnew : ∀ c, New {} c := fun c => ⟨by simp, by simp⟩
    simp [hnew]
  · intro r rows hr hload
    obtain ⟨others, hothers, -, hread⟩ := load_eq_ok_iff_readCurrencies.1 hr
    cases hload.symm.trans hothers
    exact contents_of_readCurrencies hread

/-- Two rows out of order, and a third that has the number of the second in another spelling. -/
def spelled : List Record :=
  [⟨1, ["USD", " +840", "US Dollar", "United States"]⟩,
    ⟨2, ["ALL", "008\u2003", "Lek", "Albania"]⟩,
    ⟨3, ["LEK", "+8", "Old lek", ""]⟩]

def dollarText : String :=
  "USD\t +840\tUS Dollar\tUnited States\nALL\t008\u2003\tLek\tAlbania\n"

theorem load_indexes_spelled :
    (∃ r, (load "currencies.tsv" dollarText).result = .ok r ∧ r.codes.Pairwise (· < ·) ∧
      (∃ c, r.findNumeric? 8 = some c ∧ r.find? "ALL" = some c ∧ c.name = "Lek") ∧
      r.accepts "usd" = true) ∧
    ¬ ∃ r, (load "currencies.tsv" (dollarText ++ "LEK\t+8\tOld lek\t\n")).result = .ok r := by
  obtain ⟨hloads, hcontents⟩ := load_indexes "currencies.tsv" dollarText
  have hrows : (Table.load "currencies.tsv" 4 dollarText).result = .ok (spelled.take 2) := by
    decide +kernel
  have hread : ∀ row n, readNumber? 65536 (trim (row.field 1).toList) = some n →
      (row.field 0).toList.length = 3 ∧ (row.field 0).toList.all Char.isUpper = true →
      Declares row n := by
    rintro row n hn ⟨hlength, hcapitals⟩
    obtain ⟨hnumber, hbounded⟩ := readNumber?_trim_eq_some_iff.1 hn
    exact ⟨hlength, List.all_eq_true.1 hcapitals, hnumber, hbounded⟩
  have husd : Declares ⟨1, ["USD", " +840", "US Dollar", "United States"]⟩ 840 :=
    hread _ _ (by decide +kernel) (by decide +kernel)
  have hall : Declares ⟨2, ["ALL", "008\u2003", "Lek", "Albania"]⟩ 8 :=
    hread _ _ (by decide +kernel) (by decide +kernel)
  have hlek : Declares ⟨3, ["LEK", "+8", "Old lek", ""]⟩ 8 :=
    hread _ _ (by decide +kernel) (by decide +kernel)
  constructor
  · have hsound : ∀ row ∈ spelled.take 2, ∃ n, Declares row n :=
      List.forall_mem_cons.2 ⟨⟨840, husd⟩, List.forall_mem_cons.2 ⟨⟨8, hall⟩, by simp⟩⟩
    have hapart : (spelled.take 2).Pairwise Apart := by
      refine List.pairwise_cons.2 ⟨?_, List.pairwise_singleton _ _⟩
      intro q hq
      rw [List.mem_singleton.1 hq]
      refine ⟨by decide, ?_⟩
      intro n hn hm
      exact absurd ((husd.number.unique hn).trans (hm.unique hall.number)) (by decide)
    obtain ⟨r, hr⟩ := hloads.2 ⟨spelled.take 2, hrows, by simp [spelled], hsound, hapart⟩
    have hr_contents := hcontents r _ hr hrows
    obtain ⟨d, -, hdollar, -⟩ := hr_contents.reached _ List.mem_cons_self
    obtain ⟨c, hc, hfind, hnumeric⟩ :=
      hr_contents.reached _ (List.mem_cons_of_mem _ List.mem_cons_self)
    rw [hc.number.unique hall.number] at hnumeric
    refine ⟨r, hr, hr_contents.codes, ⟨c, hnumeric, hfind, hc.name⟩, ?_⟩
    have hcontains : r.contains "USD" = true := (hr_contents.contains_iff "USD").2 ⟨d, hdollar⟩
    have husd_mem : "USD" ∈ r.codes := mem_codes_iff.2 (contains_iff_exists_mem.1 hcontains)
    exact (hr_contents.accepts_iff "usd").2 (Or.inr husd_mem)
  · intro hloaded
    obtain ⟨rows, hload, -, -, hapart⟩ := (load_indexes _ _).1.1 hloaded
    have hall_rows : (Table.load "currencies.tsv" 4 (dollarText ++ "LEK\t+8\tOld lek\t\n")).result =
        .ok spelled := by
      decide +kernel
    cases hload.symm.trans hall_rows
    have hlast := (List.pairwise_cons.1 (List.pairwise_cons.1 hapart).2).1 _ List.mem_cons_self
    exact hlast.numbers 8 hall.number hlek.number

end FieldFormats.Currency.Registry
