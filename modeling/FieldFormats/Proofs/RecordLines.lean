import FieldFormats.Proofs.CurrencyIndexes
import FieldFormats.Proofs.RecordPlaces
import FieldFormats.Proofs.RegistryLoading
/-! # The lines of records

A record carries the number of the line on which the search for it began. The search passes over
blank lines and comments, and over the LF of a CR LF that ended the record before; by as many lines
the number is short of the line on which the record stands. Errors about a row show its number. -/
namespace FieldFormats

/-- A run that fails was at fault at one element, up to which it went well. -/
theorem exists_first_error {σ α ε : Type} {run : σ → List α → Except ε σ}
    (hnil : ∀ s, run s [] = .ok s)
    (hcons : ∀ s a as, run s (a :: as) = (run s [a]).bind fun t => run t as)
    {s : σ} {as : List α} {e : ε} (h : run s as = .error e) :
    ∃ front a back t, as = front ++ a :: back ∧ run s front = .ok t ∧ run t [a] = .error e ∧
      run s (front ++ [a]) = .error e := by
  induction as generalizing s with
  | nil =>
    rw [hnil] at h
    cases h
  | cons a as ih =>
    cases hfirst : run s [a] with
    | error d =>
      rw [hcons, hfirst] at h
      cases h
      exact ⟨[], a, as, s, rfl, hnil s, hfirst, hfirst⟩
    | ok t =>
      rw [hcons, hfirst] at h
      obtain ⟨front, b, back, u, rfl, hfront, hb, hboth⟩ := ih h
      refine ⟨a :: front, b, back, u, rfl, ?_, hb, ?_⟩
      · rw [hcons, hfirst]
        exact hfront
      · rw [List.cons_append, hcons, hfirst]
        exact hboth

/-- The line in an error about a single row: a value that is not one, or a key that a row before has
taken. -/
def LoadError.rowLine? : LoadError → Option ℕ
  | .invalidValue _ line _ _ => some line
  | .duplicateKey _ line _ => some line
  | _ => none

theorem Table.Record.line_of_number {r : Table.Record} {i bound line : ℕ} {table : String}
    {column : Column} {e : LoadError} (h : r.number i bound table column = .error e)
    (hline : e.rowLine? = some line) : line = r.line := by
  unfold number at h
  split at h <;> cases h
  cases hline
  rfl

/-- Errors about a row come up while the rows of a table are gone through, neither before nor after
that. -/
theorem Table.read_of_rowLine {σ ρ : Type} {read : List Table.Record → Traced σ}
    {finish : σ → Traced ρ} {table text : String} {width line : ℕ} {e : LoadError}
    (hfinish : ∀ s, (finish s).result = .error e → e.rowLine? = none)
    (h : (Table.load table width text >>= fun rows => read rows >>= finish).result = .error e)
    (hline : e.rowLine? = some line) : (read (Table.records text)).result = .error e := by
  rcases Traced.bind_eq_error_iff.1 h with h | ⟨rows, hrows, h⟩
  · obtain ⟨r, -, rfl⟩ := fieldCount_of_checkWidth h
    cases hline
  · rw [(load_eq_ok_iff.1 hrows).1] at h
    rcases Traced.bind_eq_error_iff.1 h with h | ⟨s, -, h⟩
    · exact h
    · cases (hfinish s h).symm.trans hline

namespace Iban.Registry

open FieldFormats.Table

variable {table : String} {found : List Format} {row : Record} {e : LoadError} {line : ℕ}

theorem readFormats_cons (table : String) (found : List Format) (row : Record)
    (rows : List Record) :
    (readFormats table found (row :: rows)).result =
      (readFormats table found [row]).result.bind fun next =>
        (readFormats table next rows).result := by
  simp only [readFormats, Traced.result_bind, Traced.result_ofExcept]
  cases readFormat table row with
  | error e => rfl
  | ok f =>
    simp only [Except.bind]
    split <;> rfl

theorem line_of_readFormat (h : readFormat table row = .error e) (hline : e.rowLine? = some line) :
    line = row.line := by
  unfold readFormat at h
  split at h
  · next d hd =>
    cases h
    exact Record.line_of_number hd hline
  · split at h
    · next d hd =>
      cases h
      cases Grammar.refuses_of_parse hd <;> cases hline
    · split at h
      · cases h
        cases hline
        rfl
      · unfold Format.make Grammar.compile at h
        split at h
        · cases h
          cases hline
        · split at h
          · next d hd =>
            cases h
            split at hd <;> cases hd
            cases hline
          · cases h

theorem line_of_readFormats (h : (readFormats table found [row]).result = .error e)
    (hline : e.rowLine? = some line) : line = row.line := by
  rw [readFormats] at h
  rcases Traced.bind_eq_error_iff.1 h with h | ⟨f, -, h⟩
  · exact line_of_readFormat h hline
  · split at h
    · cases h
      cases hline
      rfl
    · rcases Traced.bind_eq_error_iff.1 h with h | ⟨-, -, h⟩ <;> cases h

theorem readFormats_of_load {text : String} (h : (load table text).result = .error e)
    (hline : e.rowLine? = some line) : (readFormats table [] (records text)).result = .error e := by
  refine read_of_rowLine ?_ h hline
  intro formats h
  split at h
  · cases h
    rfl
  · rcases Traced.bind_eq_error_iff.1 h with h | ⟨-, -, h⟩ <;> cases h

end Iban.Registry

namespace Currency.Registry

open FieldFormats.Table

variable {table : String} {found : Registry} {row : Record} {e : LoadError} {line : ℕ}

theorem readCurrencies_cons (table : String) (found : Registry) (row : Record)
    (rows : List Record) :
    (readCurrencies table found (row :: rows)).result =
      (readCurrencies table found [row]).result.bind fun next =>
        (readCurrencies table next rows).result := by
  simp only [readCurrencies, Traced.result_bind, Traced.result_ofExcept]
  cases readCurrency table row with
  | error e => rfl
  | ok c =>
    simp only [Except.bind]
    split
    · rfl
    · cases found.codeOf? c.numericCode <;> rfl

theorem line_of_readCurrency (h : readCurrency table row = .error e)
    (hline : e.rowLine? = some line) : line = row.line := by
  unfold readCurrency at h
  split at h
  · split at h
    · next d hd =>
      cases h
      exact Record.line_of_number hd hline
    · cases h
  · cases h
    cases hline
    rfl

theorem line_of_readCurrencies (h : (readCurrencies table found [row]).result = .error e)
    (hline : e.rowLine? = some line) : line = row.line := by
  rw [readCurrencies] at h
  rcases Traced.bind_eq_error_iff.1 h with h | ⟨c, -, h⟩
  · exact line_of_readCurrency h hline
  · split at h
    · cases h
      cases hline
      rfl
    · split at h <;> rcases Traced.bind_eq_error_iff.1 h with h | ⟨-, -, h⟩ <;> cases h
      cases hline
      rfl

theorem readCurrencies_of_load {text : String} (h : (load table text).result = .error e)
    (hline : e.rowLine? = some line) :
    (readCurrencies table {} (records text)).result = .error e := by
  refine read_of_rowLine ?_ h hline
  intro registry h
  split at h
  · cases h
    rfl
  · rcases Traced.bind_eq_error_iff.1 h with h | ⟨-, -, h⟩ <;> cases h

end Currency.Registry

namespace Table

/-- The place at which a run over records fails: it goes well as far as the records before. -/
def FailsAt {σ : Type} (run : List Record → Except LoadError σ) (ps : List Place) (e : LoadError)
    (p : Place) : Prop :=
  ∃ front back found, ps = front ++ p :: back ∧ run (front.map Place.record) = .ok found ∧
    run ((front ++ [p]).map Place.record) = .error e

theorem exists_failsAt {σ : Type} (run : σ → List Record → Except LoadError σ)
    (hnil : ∀ s, run s [] = .ok s)
    (hcons : ∀ s r rs, run s (r :: rs) = (run s [r]).bind fun t => run t rs)
    {e : LoadError} {n : ℕ} (hline : ∀ s r, run s [r] = .error e → n = r.line) {s : σ}
    {ps : List Place} (h : run s (ps.map Place.record) = .error e) :
    ∃ p, FailsAt (run s) ps e p ∧ p.record.line = n := by
  obtain ⟨front, r, back, found, hsplit, hfront, hr, hboth⟩ := exists_first_error hnil hcons h
  obtain ⟨qs, ts, rfl, rfl, hts⟩ := List.map_eq_append_iff.1 hsplit
  obtain ⟨p, us, rfl, rfl, -⟩ := List.map_eq_cons_iff.1 hts
  refine ⟨p, ⟨qs, us, found, rfl, hfront, ?_⟩, (hline found _ hr).symm⟩
  rw [List.map_append]
  exact hboth

/-- Every text has places. The records that are read from it have the lines at which the searches
for them began, which is right where no LF was passed over and else too low. An error about a row
shows the line of the record at which loading fails. -/
theorem record_lines (table text : String) :
    (∃ ps, Stand [] (dropMark text.toList) ps) ∧
    ∀ ps, Stand [] (dropMark text.toList) ps →
      (∀ width out, (load table width text).result = .ok out → out = ps.map Place.record) ∧
      (∀ p ∈ ps, p.record.line + p.skipped.count '\n' = p.lineNumber) ∧
      (∀ e n, (Iban.Registry.load table text).result = .error e → e.rowLine? = some n →
        ∃ p, FailsAt (fun rows => (Iban.Registry.readFormats table [] rows).result) ps e p ∧
          p.record.line = n) ∧
      ∀ e n, (Currency.Registry.load table text).result = .error e → e.rowLine? = some n →
        ∃ p, FailsAt (fun rows => (Currency.Registry.readCurrencies table {} rows).result) ps e p ∧
          p.record.line = n := by
  refine ⟨exists_stand [] _, ?_⟩
  intro ps hps
  have hrecords := hps.records
  refine ⟨?_, ?_, ?_, ?_⟩
  · intro width out hload
    rw [(load_eq_ok_iff.1 hload).1, hrecords]
  · intro p _
    rw [Place.lineNumber, List.count_append, ← Nat.add_assoc]
    rfl
  · intro e n hload hline
    have hread := Iban.Registry.readFormats_of_load hload hline
    rw [hrecords] at hread
    exact exists_failsAt (fun s rows => (Iban.Registry.readFormats table s rows).result)
      (fun s => rfl) (Iban.Registry.readFormats_cons table)
      (fun s r h => Iban.Registry.line_of_readFormats h hline) hread
  · intro e n hload hline
    have hread := Currency.Registry.readCurrencies_of_load hload hline
    rw [hrecords] at hread
    exact exists_failsAt (fun s rows => (Currency.Registry.readCurrencies table s rows).result)
      (fun s => rfl) (Currency.Registry.readCurrencies_cons table)
      (fun s r h => Currency.Registry.line_of_readCurrencies h hline) hread

/-- A text each line of which is ended, by LF or by CR LF. -/
def Terminated (cs : List Char) : Prop :=
  ∃ lines : List (List Char × Ending),
    (∀ l ∈ lines, (∀ c ∈ l.1, c ≠ '\n' ∧ c ≠ '\r') ∧ l.2 ≠ .cr) ∧
      cs = lines.flatMap fun l => l.1 ++ l.2.text

section Repeated

/-- A header, a record, a blank line and a record with the same key. -/
def repeatedKey : String :=
  "# header\nEUR\t978\tEuro\tEU\n\nEUR\t979\tEuro\tEU\n"

def firstKey : Place where
  before := []
  skipped := "# header\n".toList
  line := "EUR\t978\tEuro\tEU".toList

def secondKey : Place where
  before := "# header\nEUR\t978\tEuro\tEU\n".toList
  skipped := ['\n']
  line := "EUR\t979\tEuro\tEU".toList

theorem stand_repeatedKey : Stand [] (dropMark repeatedKey.toList) [firstKey, secondKey] := by
  have hopens : '\n' ∉ " header".toList := by simp
  have hheader : Skips firstKey.skipped := .comment hopens .nil
  have hfirst : IsLine "EUR\t978\tEuro\tEU".toList := ⟨by simp, by simp, by simp⟩
  have hblank : Skips ['\n'] := .blank (Or.inl rfl) .nil
  have hsecond : IsLine "EUR\t979\tEuro\tEU".toList := ⟨by simp, by simp, by simp⟩
  exact .ended hheader hfirst (Or.inl rfl) (.ended hblank hsecond (Or.inl rfl) (.none .nil))

/-- The second record stands on line 4, and the error about its key shows line 3. -/
theorem record_lines_repeatedKey :
    Stand [] (dropMark repeatedKey.toList) [firstKey, secondKey] ∧ secondKey.lineNumber = 4 ∧
      (Currency.Registry.load "currencies.tsv" repeatedKey).result =
        .error (.duplicateKey "currencies.tsv" 3 (.currency "EUR")) ∧
      ∃ p, FailsAt
          (fun rows => (Currency.Registry.readCurrencies "currencies.tsv" {} rows).result)
          [firstKey, secondKey] (.duplicateKey "currencies.tsv" 3 (.currency "EUR")) p ∧
        p.record.line = 3 := by
  have hload : (Currency.Registry.load "currencies.tsv" repeatedKey).result =
      .error (.duplicateKey "currencies.tsv" 3 (.currency "EUR")) := by
    decide +kernel
  have hnumber : secondKey.lineNumber = 4 := by decide +kernel
  obtain ⟨-, hplaces⟩ := record_lines "currencies.tsv" repeatedKey
  obtain ⟨-, -, -, hcurrency⟩ := hplaces _ stand_repeatedKey
  exact ⟨stand_repeatedKey, hnumber, hload, hcurrency _ 3 hload rfl⟩

/-- Not every record of a text whose lines end in LF has the number of its line. -/
theorem lines_short_of_header :
    Terminated repeatedKey.toList ∧
      (load "currencies.tsv" 4 repeatedKey).result =
        .ok [⟨1, ["EUR", "978", "Euro", "EU"]⟩, ⟨3, ["EUR", "979", "Euro", "EU"]⟩] ∧
      [firstKey, secondKey].map Place.lineNumber = [2, 4] ∧
      ¬ ∀ table text width out ps, Terminated text.toList →
        (load table width text).result = .ok out → Stand [] (dropMark text.toList) ps →
          out.map (·.line) = ps.map Place.lineNumber := by
  have hlines : Terminated repeatedKey.toList := by
    refine ⟨[("# header".toList, .lf), ("EUR\t978\tEuro\tEU".toList, .lf), ([], .lf),
      ("EUR\t979\tEuro\tEU".toList, .lf)], ?_, rfl⟩
    simp
  have hload : (load "currencies.tsv" 4 repeatedKey).result =
      .ok [⟨1, ["EUR", "978", "Euro", "EU"]⟩, ⟨3, ["EUR", "979", "Euro", "EU"]⟩] := by
    decide +kernel
  have hnumbers : [firstKey, secondKey].map Place.lineNumber = [2, 4] := by decide +kernel
  refine ⟨hlines, hload, hnumbers, ?_⟩
  intro h
  have hall := h _ _ _ _ _ hlines hload stand_repeatedKey
  rw [hnumbers] at hall
  exact absurd hall (by simp)

end Repeated

end Table

end FieldFormats
