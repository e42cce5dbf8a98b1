import FieldFormats.Proofs.Faults
import FieldFormats.Proofs.RecordLines
import FieldFormats.Proofs.RegistryContents
import FieldFormats.ReferenceTables
/-! # Which fault is reported

Tables can be wrong in several ways at once, and one error is reported: the first in a fixed order.
A directory comes before its files, the files before their tables, the table of IBANs before that of
currencies, and a row has an order of its own in either. -/
namespace FieldFormats

open FieldFormats.Text FieldFormats.Table

namespace Iban.Registry

variable {table : String} {row : Record} {earlier : List Record} {found : List Format} {f : Format}

/-- A grammar that is refused, with the error that refuses it. -/
def GrammarFault (row : Record) : Fault := fun e =>
  Grammar.parse (row.field 2) = .error e

/-- A layout without a country code in front. -/
def CountryFault (table : String) (row : Record) : Fault := fun e =>
  (¬ ∃ country, IsCountryCode country ∧ country <+: (row.field 3).toList) ∧
    e = .invalidValue table row.line .countryCode (row.field 3)

/-- A length that is not the one that the grammar implies. -/
def MismatchFault (row : Record) : Fault := fun e =>
  ∃ n g country, Denotes (row.field 1).toList n ∧ Grammar.parse (row.field 2) = .ok g ∧
    IsCountryCode country ∧ country <+: (row.field 3).toList ∧ 4 + g.width ≠ n ∧
    e = .lengthMismatch (String.ofList country) n (4 + g.width)

/-- A country code that is in front of the layout of an earlier row too. -/
def RepeatedFault (table : String) (earlier : List Record) (row : Record) : Fault := fun e =>
  ∃ country, IsCountryCode country ∧ country <+: (row.field 3).toList ∧
    (∃ p ∈ earlier, country <+: (p.field 3).toList) ∧
    e = .duplicateKey table row.line (.country (String.ofList country))

def rowFaults (table : String) (earlier : List Record) (row : Record) : List Fault :=
  [NumberFault table 1 0x10000000000000000 .length row, GrammarFault row, CountryFault table row,
    MismatchFault row, RepeatedFault table earlier row]

/-- All that can be wrong with a table of IBANs, in order. -/
def faults (table text : String) : List Fault :=
  Table.faults 4 (rowFaults table) table text

theorem aboutRows_rowFaults : AboutRows (rowFaults table) := by
  intro earlier row
  simp only [rowFaults, List.forall_mem_cons]
  refine ⟨?_, ?_, ?_, ?_, ?_, by simp⟩
  · rintro e ⟨-, rfl⟩
    exact .value ..
  · intro e he
    cases Grammar.refuses_of_parse he with
    | token piece => exact .token ..
    | letter c => exact .letter ..
  · rintro e ⟨-, rfl⟩
    exact .value ..
  · rintro e ⟨n, g, country, -, -, -, -, -, rfl⟩
    exact .mismatch ..
  · rintro e ⟨country, -, -, -, rfl⟩
    exact .repeated ..

/-- The country code of a row, or the error that it has none. -/
def readCode (table : String) (row : Record) : Except LoadError String :=
  match layoutCode? (row.field 3).toList with
  | none => .error (.invalidValue table row.line .countryCode (row.field 3))
  | some code => .ok code

theorem readCode_eq_ok_iff {country : List Char} :
    readCode table row = .ok (String.ofList country) ↔
      IsCountryCode country ∧ country <+: (row.field 3).toList := by
  rw [← layoutCode?_eq_some_ofList_iff, readCode]
  cases layoutCode? (row.field 3).toList <;> simp

theorem failsBy_readCode : FailsBy (readCode table row) (CountryFault table row) := by
  have hcode : (∃ country, IsCountryCode country ∧ country <+: (row.field 3).toList) ↔
      ∃ code, layoutCode? (row.field 3).toList = some code := by
    simp only [← layoutCode?_eq_some_ofList_iff]
    constructor
    · rintro ⟨country, h⟩
      exact ⟨_, h⟩
    · rintro ⟨code, h⟩
      exact ⟨code.toList, by rwa [String.ofList_toList]⟩
  intro e
  unfold CountryFault readCode
  rw [hcode]
  cases layoutCode? (row.field 3).toList with
  | none => simp [eq_comm]
  | some code => simp

theorem readFormat_eq_bind (table : String) (row : Record) :
    readFormat table row = (row.number 1 lengthBound table .length).bind fun n =>
      (Grammar.parse (row.field 2)).bind fun g =>
        (readCode table row).bind fun code => Format.make (row.field 0) code n g (row.field 3) := by
  unfold readFormat readCode
  cases row.number 1 lengthBound table .length with
  | error e => rfl
  | ok n =>
    cases Grammar.parse (row.field 2) with
    | error e => rfl
    | ok g => cases layoutCode? (row.field 3).toList <;> rfl

theorem failsBy_make {n : ℕ} {g : Grammar} {country : List Char} (name fields : String)
    (hn : Denotes (row.field 1).toList n) (hg : Grammar.parse (row.field 2) = .ok g)
    (hcountry : IsCountryCode country) (hleads : country <+: (row.field 3).toList) :
    FailsBy (Format.make name (String.ofList country) n g fields) (MismatchFault row) := by
  obtain ⟨p, hp, -⟩ := Grammar.compile_describes (Grammar.parse_legal hg) hcountry
  intro e
  unfold Format.make
  rw [hp]
  constructor
  · intro h
    split at h
    · next hne =>
      cases h
      exact ⟨n, g, country, hn, hg, hcountry, hleads, hne, rfl⟩
    · cases h
  · rintro ⟨m, k, other, hm, hk, hother, hprefix, hne, rfl⟩
    have hlength : other.length = country.length := hother.length.trans hcountry.length.symm
    have hbelow := List.prefix_of_prefix_length_le hprefix hleads (Nat.le_of_eq hlength)
    rw [hm.unique hn, Except.ok.inj (hk.symm.trans hg)] at hne
    rw [hm.unique hn, Except.ok.inj (hk.symm.trans hg), hbelow.eq_of_length hlength]
    exact if_pos hne

theorem failsBy_readFormat :
    FailsBy (readFormat table row) (FirstOf [NumberFault table 1 0x10000000000000000 .length row,
      GrammarFault row, CountryFault table row, MismatchFault row]) := by
  rw [readFormat_eq_bind]
  refine failsBy_number.single.bind fun n hn => ?_
  have hparse : FailsBy (Grammar.parse (row.field 2)) (GrammarFault row) := fun e => Iff.rfl
  refine hparse.single.bind fun g hg => failsBy_readCode.single.bind fun code hcode => ?_
  rw [← String.ofList_toList (s := code)] at hcode ⊢
  obtain ⟨hcountry, hleads⟩ := readCode_eq_ok_iff.1 hcode
  obtain ⟨hdenotes, -⟩ := readNumber?_trim_eq_some_iff.1 (Record.number_eq_ok_iff.1 hn)
  exact (failsBy_make _ _ hdenotes hg hcountry hleads).single

/-- A country is taken if it is in front of the layout of an earlier row. -/
theorem any_iff_of_gathered (h : Gathered FormatOf found earlier) {country : List Char}
    (hcountry : IsCountryCode country) :
    found.any (·.countryCode = String.ofList country) = true ↔
      ∃ p ∈ earlier, country <+: (p.field 3).toList := by
  simp only [List.any_eq_true, decide_eq_true_eq]
  exact h.exists_iff fun p f hf => (hf.leads_iff hcountry).symm

/-- The country of a format is looked for among those found before. -/
def checkCountry (table : String) (found : List Format) (row : Record) (f : Format) :
    Except LoadError Unit :=
  if found.any (·.countryCode = f.countryCode) then
    .error (.duplicateKey table row.line (.country f.countryCode))
  else .ok ()

theorem readFormats_singleton (table : String) (found : List Format) (row : Record) :
    (readFormats table found [row]).result = (readFormat table row).bind fun f =>
      (checkCountry table found row f).map fun _ => insertFormat f found := by
  rw [readFormats, Traced.result_bind, Traced.result_ofExcept]
  congr
  funext f
  unfold checkCountry
  split <;> rfl

theorem failsBy_checkCountry (h : Gathered FormatOf found earlier) (hf : FormatOf row f) :
    FailsBy (checkCountry table found row f) (RepeatedFault table earlier row) := by
  have hcode : f.countryCode = String.ofList f.countryCode.toList := String.ofList_toList.symm
  have hany := any_iff_of_gathered h hf.countryCode
  rw [← hcode] at hany
  intro e
  unfold checkCountry
  constructor
  · intro herror
    split at herror
    · next htaken =>
      cases herror
      exact ⟨f.countryCode.toList, hf.countryCode, (hf.leads_iff hf.countryCode).2 hcode,
        hany.1 htaken, by rw [← hcode]⟩
    · cases herror
  · rintro ⟨country, hcountry, hleads, htaken, rfl⟩
    have hsame := (hf.leads_iff hcountry).1 hleads
    rw [hsame, if_pos ((any_iff_of_gathered h hcountry).2 htaken)]

theorem failsBy_readRow (h : Gathered FormatOf found earlier) :
    FailsBy (readFormats table found [row]).result (FirstOf (rowFaults table earlier row)) ∧
      ∀ next, (readFormats table found [row]).result = .ok next →
        Gathered FormatOf next (earlier ++ [row]) := by
  constructor
  · rw [readFormats_singleton]
    exact failsBy_readFormat.bind fun f hf =>
      ((failsBy_checkCountry h (readFormat_eq_ok_iff.1 hf)).map _).single
  · intro next hnext
    obtain ⟨f, hf, -, hrest⟩ := readFormats_cons_eq_ok_iff.1 hnext
    cases hrest
    exact h.add hf fun _ => mem_insertFormat

theorem failsBy_load (table text : String) :
    FailsBy (load table text).result (FirstOf (faults table text)) := by
  have hread : FailsBy (readFormats table [] (records text)).result
      (FirstOf (inTurn (rowFaults table) [] (records text))) :=
    failsBy_rows (fun found rows => (readFormats table found rows).result)
      (fun found => rfl) (readFormats_cons table) (fun found earlier row h => failsBy_readRow h)
      gathered_nil (records text)
  refine Table.failsBy_load table text tableWidth hread fun formats hformats => ?_
  have hlength := length_readFormats hformats
  rw [List.length_nil, Nat.zero_add] at hlength
  exact failsBy_entries hlength.symm ⟨_, rfl⟩

end Iban.Registry

namespace Currency.Registry

variable {table : String} {row : Record} {earlier : List Record} {found : Registry} {c : Currency}

/-- A code that is not three capital letters. -/
def CodeFault (table : String) (row : Record) : Fault := fun e =>
  ¬ ((row.field 0).toList.length = 3 ∧ ∀ c ∈ (row.field 0).toList, c.isUpper = true) ∧
    e = .invalidValue table row.line .currencyCode (row.field 0)

/-- The code of an earlier row. -/
def RepeatedCode (table : String) (earlier : List Record) (row : Record) : Fault := fun e =>
  (∃ p ∈ earlier, p.field 0 = row.field 0) ∧
    e = .duplicateKey table row.line (.currency (row.field 0))

/-- The number of an earlier row, however either writes it. -/
def RepeatedNumber (table : String) (earlier : List Record) (row : Record) : Fault := fun e =>
  ∃ n, Denotes (row.field 1).toList n ∧ ∃ p ∈ earlier, Denotes (p.field 1).toList n ∧
    e = .duplicateKey table row.line (.numeric n (row.field 0) (p.field 0))

def rowFaults (table : String) (earlier : List Record) (row : Record) : List Fault :=
  [CodeFault table row, NumberFault table 1 65536 .numericCode row, RepeatedCode table earlier row,
    RepeatedNumber table earlier row]

/-- All that can be wrong with a table of currencies, in order. -/
def faults (table text : String) : List Fault :=
  Table.faults 4 (rowFaults table) table text

theorem aboutRows_rowFaults : AboutRows (rowFaults table) := by
  intro earlier row
  simp only [rowFaults, List.forall_mem_cons]
  refine ⟨?_, ?_, ?_, ?_, by simp⟩
  · rintro e ⟨-, rfl⟩
    exact .value ..
  · rintro e ⟨-, rfl⟩
    exact .value ..
  · rintro e ⟨-, rfl⟩
    exact .repeated ..
  · rintro e ⟨n, -, p, -, -, rfl⟩
    exact .repeated ..

/-- The code of a row, or the error that it is none. -/
def readCode (table : String) (row : Record) : Except LoadError String :=
  if isCode (row.field 0).toList then .ok (row.field 0)
  else .error (.invalidValue table row.line .currencyCode (row.field 0))

theorem failsBy_readCode : FailsBy (readCode table row) (CodeFault table row) := by
  intro e
  unfold readCode CodeFault
  rw [← isCode_iff]
  by_cases hcode : isCode (row.field 0).toList = true
  · simp [hcode]
  · simp [hcode, eq_comm]

theorem failsBy_readCurrency :
    FailsBy (readCurrency table row)
      (FirstOf [CodeFault table row, NumberFault table 1 65536 .numericCode row]) := by
  have hsplit : readCurrency table row = (readCode table row).bind fun code =>
      (row.number 1 numericBound table .numericCode).map fun n =>
        ⟨code, n, row.field 2, row.field 3⟩ := by
    unfold readCurrency readCode
    split
    · cases row.number 1 numericBound table .numericCode <;> rfl
    · rfl
  rw [hsplit]
  exact failsBy_readCode.single.bind fun code _ => (failsBy_number.map _).single

/-- The currencies found so far are those of the rows so far, and both indexes agree on them. -/
structure InStep (found : Registry) (earlier : List Record) : Prop where
  indexed : found.Indexed
  gathered : Gathered CurrencyOf found.currencies earlier

theorem InStep.add (h : InStep found earlier) (hc : CurrencyOf row c) (hnew : found.New c) :
    InStep (found.add c) (earlier ++ [row]) :=
  ⟨h.indexed.add hnew.code hnew.number, h.gathered.add hc fun _ => mem_add⟩

/-- The code of a currency is looked for first. -/
def checkCode (table : String) (found : Registry) (row : Record) (c : Currency) :
    Except LoadError Unit :=
  if found.contains c.code then .error (.duplicateKey table row.line (.currency c.code)) else .ok ()

def checkNumber (table : String) (found : Registry) (row : Record) (c : Currency) :
    Except LoadError Unit :=
  match found.codeOf? c.numericCode with
  | some existing => .error (.duplicateKey table row.line (.numeric c.numericCode c.code existing))
  | none => .ok ()

theorem readCurrencies_singleton (table : String) (found : Registry) (row : Record) :
    (readCurrencies table found [row]).result = (readCurrency table row).bind fun c =>
      (checkCode table found row c).bind fun _ =>
        (checkNumber table found row c).map fun _ => found.add c := by
  rw [readCurrencies, Traced.result_bind, Traced.result_ofExcept]
  congr
  funext c
  unfold checkCode checkNumber
  split
  · rfl
  · cases found.codeOf? c.numericCode <;> rfl

theorem failsBy_checkCode (h : InStep found earlier) (hc : CurrencyOf row c) :
    FailsBy (checkCode table found row c) (RepeatedCode table earlier row) := by
  have htaken : (∃ p ∈ earlier, p.field 0 = row.field 0) ↔ found.contains c.code = true := by
    rw [contains_iff_exists_mem, hc.2.code]
    refine (h.gathered.exists_iff fun p d hd => ?_).symm
    rw [hd.2.code]
  intro e
  unfold RepeatedCode checkCode
  rw [htaken, ← hc.2.code]
  by_cases hcode : found.contains c.code = true
  · simp [hcode, eq_comm]
  · simp [hcode]

theorem failsBy_checkNumber (h : InStep found earlier) (hc : CurrencyOf row c) :
    FailsBy (checkNumber table found row c) (RepeatedNumber table earlier row) := by
  have htaken : ∀ existing, found.codeOf? c.numericCode = some existing ↔
      ∃ p ∈ earlier, Denotes (p.field 1).toList c.numericCode ∧ existing = p.field 0 := by
    intro existing
    rw [h.indexed.codeOf?_iff]
    refine h.gathered.exists_iff fun p d hd => ?_
    rw [hd.2.code, and_comm, eq_comm (a := existing)]
    refine and_congr_left fun _ => ⟨fun hnumber => ?_, hd.2.number.unique⟩
    rw [← hnumber]
    exact hd.2.number
  intro e
  unfold checkNumber
  constructor
  · intro herror
    split at herror
    · next existing hfound =>
      cases herror
      obtain ⟨p, hp, hnumber, rfl⟩ := (htaken existing).1 hfound
      exact ⟨c.numericCode, hc.2.number, p, hp, hnumber, by rw [hc.2.code]⟩
    · cases herror
  · rintro ⟨n, hn, p, hp, hnumber, rfl⟩
    rw [hn.unique hc.2.number] at hnumber ⊢
    rw [(htaken _).2 ⟨p, hp, hnumber, rfl⟩, hc.2.code]

theorem failsBy_readRow (h : InStep found earlier) :
    FailsBy (readCurrencies table found [row]).result (FirstOf (rowFaults table earlier row)) ∧
      ∀ next, (readCurrencies table found [row]).result = .ok next →
        InStep next (earlier ++ [row]) := by
  constructor
  · rw [readCurrencies_singleton]
    refine failsBy_readCurrency.bind fun c hc => ?_
    have hrow := readCurrency_eq_ok_iff.1 hc
    exact (failsBy_checkCode h hrow).single.bind fun _ _ =>
      ((failsBy_checkNumber h hrow).map _).single
  · intro next hnext
    obtain ⟨c, hc, hnew, hrest⟩ := (readCurrencies_cons_eq_ok_iff h.indexed).1 hnext
    cases hrest
    exact h.add hc hnew

theorem failsBy_load (table text : String) :
    FailsBy (load table text).result (FirstOf (faults table text)) := by
  have hstart : InStep {} [] := ⟨indexed_empty, gathered_nil⟩
  have hread : FailsBy (readCurrencies table {} (records text)).result
      (FirstOf (inTurn (rowFaults table) [] (records text))) :=
    failsBy_rows (fun found rows => (readCurrencies table found rows).result)
      (fun found => rfl) (readCurrencies_cons table) (fun found earlier row h => failsBy_readRow h)
      hstart (records text)
  refine Table.failsBy_load table text tableWidth hread fun registry hregistry => ?_
  have hsize := (readCurrencies_eq_ok indexed_empty hregistry).2.2.2
  rw [show size {} = 0 from rfl, Nat.zero_add] at hsize
  exact failsBy_entries hsize.symm ⟨_, rfl⟩

end Currency.Registry

namespace ReferenceTables

/-- What can be wrong with the texts of both tables. -/
def textFaults (ibans currencies : TableText) : List Fault :=
  [FirstOf (Iban.Registry.faults ibans.name ibans.text),
    FirstOf (Currency.Registry.faults currencies.name currencies.text)]

def Missing (files : Files) (dir : String) : Fault := fun e =>
  files.isDirectory dir = false ∧ e = .directoryNotFound dir

def Unreadable (files : Files) (path : String) : Fault := fun e =>
  ∃ fault, files.readText path = .error fault ∧ e = .unreadable path fault

/-- A file with a text that makes no registry. -/
def Spoilt (files : Files) (path : String) (faults : String → String → List Fault) : Fault :=
  fun e => ∃ text, files.readText path = .ok text ∧ FirstOf (faults path text) e

/-- All that can be wrong with a directory, in order. -/
def directoryFaults (files : Files) (dir : String) : List Fault :=
  let ibans := Files.inside dir BuiltIn.ibanFileName
  let currencies := Files.inside dir BuiltIn.currencyFileName
  [Missing files dir, Unreadable files ibans, Unreadable files currencies,
    Spoilt files ibans Iban.Registry.faults, Spoilt files currencies Currency.Registry.faults]

theorem failsBy_ofTexts (ibans currencies : TableText) :
    FailsBy (ofTexts ibans currencies).result (FirstOf (textFaults ibans currencies)) := by
  unfold ofTexts
  rw [Traced.result_bind]
  refine (Iban.Registry.failsBy_load ibans.name ibans.text).single.bind fun _ _ => ?_
  rw [← Traced.map_eq_bind, Traced.result_map]
  exact ((Currency.Registry.failsBy_load currencies.name currencies.text).map _).single

/-- The text of a file, or the error that there is none. -/
def readFile (files : Files) (path : String) : Except LoadError String :=
  match files.readText path with
  | .ok text => .ok text
  | .error fault => .error (.unreadable path fault)

theorem readFile_eq_ok_iff {files : Files} {path text : String} :
    readFile files path = .ok text ↔ files.readText path = .ok text := by
  unfold readFile
  cases files.readText path <;> simp

theorem failsBy_readFile (files : Files) (path : String) :
    FailsBy (readFile files path) (Unreadable files path) := by
  intro e
  unfold readFile Unreadable
  cases files.readText path <;> simp [eq_comm]

def findDirectory (files : Files) (dir : String) : Except LoadError Unit :=
  if files.isDirectory dir then .ok () else .error (.directoryNotFound dir)

theorem failsBy_findDirectory (files : Files) (dir : String) :
    FailsBy (findDirectory files dir) (Missing files dir) := by
  intro e
  unfold findDirectory Missing
  cases files.isDirectory dir <;> simp [eq_comm]

theorem load_directory_eq_bind (files : Files) (dir : String) :
    (load files (.directory dir)).result = (findDirectory files dir).bind fun _ =>
      (readFile files (Files.inside dir BuiltIn.ibanFileName)).bind fun ibans =>
        (readFile files (Files.inside dir BuiltIn.currencyFileName)).bind fun currencies =>
          (ofTexts ⟨Files.inside dir BuiltIn.ibanFileName, ibans⟩
            ⟨Files.inside dir BuiltIn.currencyFileName, currencies⟩).result := by
  unfold load findDirectory readFile
  rw [Traced.result_bind, Traced.result_ofExcept, Source.readTables, Source.readTable,
    Source.readTable]
  cases files.isDirectory dir with
  | false => rfl
  | true =>
    simp only [if_true]
    cases files.readText (Files.inside dir BuiltIn.ibanFileName) with
    | error fault => rfl
    | ok ibans => cases files.readText (Files.inside dir BuiltIn.currencyFileName) <;> rfl

theorem failsBy_spoilt {α : Type} {x : Except LoadError α} {files : Files} {path text : String}
    {faults : String → String → List Fault} (hread : files.readText path = .ok text)
    (h : FailsBy x (FirstOf (faults path text))) : FailsBy x (Spoilt files path faults) := by
  intro e
  rw [h e]
  constructor
  · exact fun he => ⟨text, hread, he⟩
  · rintro ⟨other, hother, he⟩
    cases hread.symm.trans hother
    exact he

theorem failsBy_load (files : Files) (dir : String) :
    FailsBy (load files (.directory dir)).result (FirstOf (directoryFaults files dir)) := by
  rw [load_directory_eq_bind]
  refine (failsBy_findDirectory files dir).single.bind fun _ _ => ?_
  refine (failsBy_readFile files _).single.bind fun ibans hibans => ?_
  refine (failsBy_readFile files _).single.bind fun currencies hcurrencies => ?_
  unfold ofTexts
  rw [Traced.result_bind]
  refine (failsBy_spoilt (readFile_eq_ok_iff.1 hibans)
    (Iban.Registry.failsBy_load _ ibans)).single.bind fun _ _ => ?_
  rw [← Traced.map_eq_bind, Traced.result_map]
  exact ((failsBy_spoilt (readFile_eq_ok_iff.1 hcurrencies)
    (Currency.Registry.failsBy_load _ currencies)).map _).single

/-- A load from a directory fails with the first that is wrong, and so does one from two texts. It
succeeds exactly when nothing is. In a table all numbers of fields come before the rows, and a row
has its own order. A table is empty exactly when its text has no records. To take a text apart into
records never fails, but for numbers of fields, and no pattern is malformed. -/
theorem load_first_fault :
    (∀ files dir, FailsBy (load files (.directory dir)).result
        (FirstOf (directoryFaults files dir)) ∧
      ((∃ t, (load files (.directory dir)).result = .ok t) ↔
        ∀ fault ∈ directoryFaults files dir, ∀ e, ¬ fault e)) ∧
    (∀ ibans currencies, FailsBy (ofTexts ibans currencies).result
        (FirstOf (textFaults ibans currencies)) ∧
      ((∃ t, (ofTexts ibans currencies).result = .ok t) ↔
        ∀ fault ∈ textFaults ibans currencies, ∀ e, ¬ fault e)) ∧
    ∀ table text,
      FailsBy (Iban.Registry.load table text).result (FirstOf (Iban.Registry.faults table text)) ∧
      FailsBy (Currency.Registry.load table text).result
        (FirstOf (Currency.Registry.faults table text)) ∧
      (∀ name, (Iban.Registry.load table text).result = .error (.emptyTable name) ↔
        name = table ∧ Table.records text = []) ∧
      (∀ name, (Currency.Registry.load table text).result = .error (.emptyTable name) ↔
        name = table ∧ Table.records text = []) ∧
      (∀ width e, (Table.load table width text).result = .error e →
        ∃ row ∈ Table.records text, Table.CountFault table width row e) ∧
      ∀ country, (Iban.Registry.load table text).result ≠ .error (.malformedPattern country) ∧
        (Currency.Registry.load table text).result ≠ .error (.malformedPattern country) := by
  refine ⟨?_, ?_, fun table text => ?_⟩
  · intro files dir
    have h := failsBy_load files dir
    exact ⟨h, h.exists_ok_iff.trans forall_not_firstOf_iff⟩
  · intro ibans currencies
    have h := failsBy_ofTexts ibans currencies
    exact ⟨h, h.exists_ok_iff.trans forall_not_firstOf_iff⟩
  · have hibans := Iban.Registry.failsBy_load table text
    have hcurrencies := Currency.Registry.failsBy_load table text
    refine ⟨hibans, hcurrencies, ?_, ?_, ?_, ?_⟩
    · exact fun name => (hibans _).trans (emptyTable_iff Iban.Registry.aboutRows_rowFaults)
    · exact fun name => (hcurrencies _).trans (emptyTable_iff Currency.Registry.aboutRows_rowFaults)
    · intro width e he
      obtain ⟨fault, hfault, h⟩ :=
        exists_mem_of_firstOf ((Table.failsBy_checkWidth table width _ e).1 he)
      obtain ⟨row, hrow, rfl⟩ := List.mem_map.1 hfault
      exact ⟨row, hrow, h⟩
    · intro country
      exact ⟨fun h => not_malformedPattern Iban.Registry.aboutRows_rowFaults ((hibans _).1 h),
        fun h => not_malformedPattern Currency.Registry.aboutRows_rowFaults ((hcurrencies _).1 h)⟩

/-- The first row has no number and no grammar, but the second is too short. -/
example : (Iban.Registry.load "t" "Utopia\tx\t4z\tUT\nNowhere\t1").result =
    .error (.fieldCount "t" 2 4 2) := by decide +kernel

end ReferenceTables

end FieldFormats
