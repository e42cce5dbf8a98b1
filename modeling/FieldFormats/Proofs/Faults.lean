import FieldFormats.Proofs.NumberReading
import FieldFormats.Proofs.TableReading
/-! # Faults

Each fault of a table is said by itself here, whatever else is wrong, and some faults in order have
a first. A result that consists of parts fails by the first fault of its parts. In a table the
numbers of fields come first, wherever they stand, and then row after row. -/
namespace FieldFormats

open FieldFormats.Text FieldFormats.Table

/-- Something that can be wrong, by the error that reports it. -/
abbrev Fault := LoadError → Prop

/-- The first of some faults that there is. -/
inductive FirstOf : List Fault → LoadError → Prop where
  | here {fault : Fault} {faults : List Fault} {e : LoadError} (h : fault e) :
      FirstOf (fault :: faults) e
  | later {fault : Fault} {faults : List Fault} {e : LoadError} (none : ∀ d, ¬ fault d)
      (h : FirstOf faults e) : FirstOf (fault :: faults) e

section FirstOf

variable {fault : Fault} {faults others : List Fault} {e : LoadError}

theorem not_firstOf_nil : ¬ FirstOf [] e := by
  rintro ⟨⟩

theorem firstOf_cons_iff :
    FirstOf (fault :: faults) e ↔ fault e ∨ (∀ d, ¬ fault d) ∧ FirstOf faults e := by
  constructor
  · intro h
    cases h with
    | here h => exact Or.inl h
    | later none h => exact Or.inr ⟨none, h⟩
  · rintro (h | ⟨none, h⟩)
    · exact .here h
    · exact .later none h

theorem firstOf_singleton_iff : FirstOf [fault] e ↔ fault e := by
  rw [firstOf_cons_iff, or_iff_left]
  rintro ⟨-, h⟩
  exact not_firstOf_nil h

theorem forall_not_firstOf_iff : (∀ d, ¬ FirstOf faults d) ↔ ∀ f ∈ faults, ∀ d, ¬ f d := by
  induction faults with
  | nil => exact iff_of_true (fun _ => not_firstOf_nil) (by simp)
  | cons f faults ih =>
    rw [List.forall_mem_cons, ← ih]
    constructor
    · intro h
      have hnone : ∀ d, ¬ f d := fun d hd => h d (.here hd)
      exact ⟨hnone, fun d hd => h d (.later hnone hd)⟩
    · rintro ⟨hnone, hrest⟩ d hd
      rcases firstOf_cons_iff.1 hd with hd | ⟨-, hd⟩
      · exact hnone d hd
      · exact hrest d hd

theorem exists_mem_of_firstOf (h : FirstOf faults e) : ∃ f ∈ faults, f e := by
  induction h with
  | here h => exact ⟨_, List.mem_cons_self, h⟩
  | later _ _ ih =>
    obtain ⟨f, hf, he⟩ := ih
    exact ⟨f, List.mem_cons_of_mem _ hf, he⟩

theorem firstOf_append_iff :
    FirstOf (faults ++ others) e ↔
      FirstOf faults e ∨ (∀ d, ¬ FirstOf faults d) ∧ FirstOf others e := by
  induction faults with
  | nil =>
    rw [List.nil_append, or_iff_right not_firstOf_nil, and_iff_right fun _ => not_firstOf_nil]
  | cons f faults ih =>
    rw [List.cons_append, firstOf_cons_iff, ih, firstOf_cons_iff, forall_not_firstOf_iff,
      forall_not_firstOf_iff, List.forall_mem_cons]
    tauto

end FirstOf

/-- A result that is an error exactly by reason of a fault. -/
def FailsBy {α : Type} (x : Except LoadError α) (fault : Fault) : Prop :=
  ∀ e, x = .error e ↔ fault e

namespace FailsBy

variable {α β : Type} {x : Except LoadError α} {f : α → Except LoadError β} {fault : Fault}
  {faults others : List Fault}

theorem exists_ok_iff (h : FailsBy x fault) : (∃ a, x = .ok a) ↔ ∀ e, ¬ fault e := by
  simp only [← h _]
  cases x <;> simp

theorem ok (a : α) : FailsBy (.ok a : Except LoadError α) (FirstOf []) := by
  intro e
  exact iff_of_false (by simp) not_firstOf_nil

/-- Where two parts follow each other, so do their faults. -/
theorem bind (hx : FailsBy x (FirstOf faults))
    (hf : ∀ a, x = .ok a → FailsBy (f a) (FirstOf others)) :
    FailsBy (x.bind f) (FirstOf (faults ++ others)) := by
  intro e
  rw [firstOf_append_iff, ← hx e]
  cases x with
  | error d =>
    have hd : FirstOf faults d := (hx d).1 rfl
    rw [or_iff_left fun h => h.1 d hd, Except.error.injEq]
    exact Iff.of_eq (Except.error.injEq d e)
  | ok a =>
    have hnone : ∀ d, ¬ FirstOf faults d := by
      intro d hd
      cases (hx d).2 hd
    rw [and_iff_right hnone, or_iff_right (by simp), ← hf a rfl e]
    rfl

theorem map (h : FailsBy x fault) (g : α → β) : FailsBy (x.map g) fault := by
  intro e
  rw [← h e]
  cases x <;> simp [Except.map]

theorem single (h : FailsBy x fault) : FailsBy x (FirstOf [fault]) := by
  intro e
  rw [firstOf_singleton_iff, h e]

end FailsBy

namespace Table

variable {table : String} {width i bound : ℕ} {column : Column} {row : Record}

/-- A row that has not as many fields as it should. -/
def CountFault (table : String) (width : ℕ) (row : Record) : Fault := fun e =>
  row.fields.length ≠ width ∧ e = .fieldCount table row.line width row.fields.length

/-- A field that denotes no number below a bound. -/
def NumberFault (table : String) (i bound : ℕ) (column : Column) (row : Record) : Fault := fun e =>
  (¬ ∃ n < bound, Denotes (row.field i).toList n) ∧
    e = .invalidValue table row.line column (row.field i)

/-- The faults of rows, one row after the other. What is wrong with a row can depend on the rows in
front of it. -/
def inTurn (faults : List Record → Record → List Fault) (earlier : List Record) :
    List Record → List Fault
  | [] => []
  | row :: rows => FirstOf (faults earlier row) :: inTurn faults (earlier ++ [row]) rows

/-- The faults of a table: a row with the wrong number of fields, wherever it stands, then the rows
in turn, and no rows at all. -/
def faults (width : ℕ) (rowFaults : List Record → Record → List Fault) (table text : String) :
    List Fault :=
  [FirstOf ((records text).map (CountFault table width)),
    FirstOf (inTurn rowFaults [] (records text)),
    fun e => records text = [] ∧ e = .emptyTable table]

theorem exists_row_of_inTurn {faults : List Record → Record → List Fault}
    {earlier rows : List Record} {e : LoadError} (h : FirstOf (inTurn faults earlier rows) e) :
    ∃ before row, ∃ fault ∈ faults before row, fault e := by
  induction rows generalizing earlier with
  | nil => cases h
  | cons row rows ih =>
    rcases firstOf_cons_iff.1 h with h | ⟨-, h⟩
    · exact ⟨earlier, row, exists_mem_of_firstOf h⟩
    · exact ih h

/-- The errors that are about the content of one row. -/
inductive OfRow : LoadError → Prop where
  | value (table : String) (line : ℕ) (column : Column) (value : String) :
      OfRow (.invalidValue table line column value)
  | token (token grammar : String) : OfRow (.invalidToken token grammar)
  | letter (letter : Char) (grammar : String) : OfRow (.unknownClass letter grammar)
  | mismatch (country : String) (declared implied : ℕ) :
      OfRow (.lengthMismatch country declared implied)
  | repeated (table : String) (line : ℕ) (key : SharedKey) : OfRow (.duplicateKey table line key)

/-- All that can be wrong with a row is about its content. -/
def AboutRows (rowFaults : List Record → Record → List Fault) : Prop :=
  ∀ earlier row, ∀ fault ∈ rowFaults earlier row, ∀ e, fault e → OfRow e

section faults

variable {rowFaults : List Record → Record → List Fault} {text : String} {e : LoadError}

/-- What is wrong with a table is wrong with a row, or it is that there is none. -/
theorem cases_of_faults (hrows : AboutRows rowFaults)
    (h : FirstOf (faults width rowFaults table text) e) :
    (∃ row ∈ records text, CountFault table width row e) ∨ OfRow e ∨
      records text = [] ∧ e = .emptyTable table := by
  rcases firstOf_cons_iff.1 h with h | ⟨-, h⟩
  · obtain ⟨fault, hfault, he⟩ := exists_mem_of_firstOf h
    obtain ⟨row, hrow, rfl⟩ := List.mem_map.1 hfault
    exact Or.inl ⟨row, hrow, he⟩
  · rcases firstOf_cons_iff.1 h with h | ⟨-, h⟩
    · obtain ⟨earlier, row, fault, hfault, he⟩ := exists_row_of_inTurn h
      exact Or.inr (Or.inl (hrows earlier row fault hfault e he))
    · exact Or.inr (Or.inr (firstOf_singleton_iff.1 h))

theorem emptyTable_iff (hrows : AboutRows rowFaults) {name : String} :
    FirstOf (faults width rowFaults table text) (.emptyTable name) ↔
      name = table ∧ records text = [] := by
  constructor
  · intro h
    rcases cases_of_faults hrows h with ⟨row, -, -, h⟩ | h | ⟨hnone, h⟩
    · cases h
    · cases h
    · cases h
      exact ⟨rfl, hnone⟩
  · rintro ⟨rfl, hnone⟩
    unfold faults
    rw [hnone]
    exact .later (fun _ => not_firstOf_nil) (.later (fun _ => not_firstOf_nil) (.here ⟨rfl, rfl⟩))

theorem not_malformedPattern (hrows : AboutRows rowFaults) {country : String} :
    ¬ FirstOf (faults width rowFaults table text) (.malformedPattern country) := by
  intro h
  rcases cases_of_faults hrows h with ⟨row, -, -, h⟩ | h | ⟨-, h⟩
  · cases h
  · cases h
  · cases h

end faults

theorem failsBy_number :
    FailsBy (row.number i bound table column) (NumberFault table i bound column row) := by
  have hread : (∃ n < bound, Denotes (row.field i).toList n) ↔
      ∃ n, readNumber? bound (trim (row.field i).toList) = some n := by
    simp only [readNumber?_trim_eq_some_iff, and_comm]
  intro e
  unfold NumberFault Record.number
  rw [hread]
  cases readNumber? bound (trim (row.field i).toList) with
  | none => simp [eq_comm]
  | some n => simp

/-- The number of fields of one row. -/
def checkCount (table : String) (width : ℕ) (row : Record) : Except LoadError Unit :=
  if row.fields.length = width then .ok ()
  else .error (.fieldCount table row.line width row.fields.length)

theorem failsBy_checkCount :
    FailsBy (checkCount table width row) (CountFault table width row) := by
  intro e
  unfold CountFault checkCount
  by_cases hrow : row.fields.length = width
  · simp [hrow]
  · simp [hrow, eq_comm]

theorem checkWidth_cons (table : String) (width : ℕ) (row : Record) (rows : List Record) :
    (checkWidth table width (row :: rows)).result = (checkCount table width row).bind fun _ =>
      (checkWidth table width rows).result.map (row :: ·) := by
  rw [checkWidth, checkCount]
  by_cases hrow : row.fields.length = width
  · rw [if_pos hrow, if_pos hrow]
    rfl
  · rw [if_neg hrow, if_neg hrow]
    rfl

theorem failsBy_checkWidth (table : String) (width : ℕ) (rows : List Record) :
    FailsBy (checkWidth table width rows).result
      (FirstOf (rows.map (CountFault table width))) := by
  induction rows with
  | nil => exact .ok []
  | cons row rows ih =>
    rw [checkWidth_cons]
    exact failsBy_checkCount.single.bind fun _ _ => ih.map (row :: ·)

/-- A run over rows that keeps in step with what the rows so far have brought. -/
theorem failsBy_rows {σ : Type} (run : σ → List Record → Except LoadError σ)
    (hnil : ∀ s, run s [] = .ok s)
    (hcons : ∀ s r rs, run s (r :: rs) = (run s [r]).bind fun t => run t rs)
    {rowFaults : List Record → Record → List Fault} {Follows : σ → List Record → Prop}
    (hrow : ∀ s earlier r, Follows s earlier →
      FailsBy (run s [r]) (FirstOf (rowFaults earlier r)) ∧
        ∀ t, run s [r] = .ok t → Follows t (earlier ++ [r])) {s : σ} {earlier : List Record}
    (hs : Follows s earlier) (rows : List Record) :
    FailsBy (run s rows) (FirstOf (inTurn rowFaults earlier rows)) := by
  induction rows generalizing s earlier with
  | nil =>
    rw [hnil]
    exact .ok s
  | cons r rows ih =>
    obtain ⟨hfails, hnext⟩ := hrow s earlier r hs
    rw [hcons]
    exact hfails.single.bind fun t ht => ih (hnext t ht)

/-- What has been found so far is of the rows so far, and of each of them something. -/
structure Gathered {α : Type} (Of : Record → α → Prop) (found : List α) (earlier : List Record) :
    Prop where
  total : ∀ p ∈ earlier, ∃ a ∈ found, Of p a
  origin : ∀ a ∈ found, ∃ p ∈ earlier, Of p a

section Gathered

variable {α : Type} {Of : Record → α → Prop} {found next : List α} {earlier : List Record} {a : α}

theorem gathered_nil : Gathered Of [] [] :=
  ⟨by simp, by simp⟩

theorem Gathered.add (h : Gathered Of found earlier) (ha : Of row a)
    (hnext : ∀ b, b ∈ next ↔ b = a ∨ b ∈ found) : Gathered Of next (earlier ++ [row]) where
  total := by
    rw [List.forall_mem_append, List.forall_mem_singleton]
    refine ⟨?_, a, (hnext a).2 (Or.inl rfl), ha⟩
    intro p hp
    obtain ⟨b, hb, hbp⟩ := h.total p hp
    exact ⟨b, (hnext b).2 (Or.inr hb), hbp⟩
  origin := by
    intro b hb
    rcases (hnext b).1 hb with rfl | hb
    · exact ⟨row, by simp, ha⟩
    · obtain ⟨p, hp, hbp⟩ := h.origin b hb
      exact ⟨p, List.mem_append_left _ hp, hbp⟩

/-- A property of what was found is a property of the rows. -/
theorem Gathered.exists_iff (h : Gathered Of found earlier) {P : α → Prop} {Q : Record → Prop}
    (hsame : ∀ p a, Of p a → (P a ↔ Q p)) : (∃ a ∈ found, P a) ↔ ∃ p ∈ earlier, Q p := by
  constructor
  · rintro ⟨a, ha, hP⟩
    obtain ⟨p, hp, hap⟩ := h.origin a ha
    exact ⟨p, hp, (hsame p a hap).1 hP⟩
  · rintro ⟨p, hp, hQ⟩
    obtain ⟨a, ha, hap⟩ := h.total p hp
    exact ⟨a, ha, (hsame p a hap).2 hQ⟩

end Gathered

/-- A table with no rows has no entries. -/
theorem failsBy_entries {α ρ : Type} [DecidableEq α] {entries : List α} {table text : String}
    {done : Traced ρ} (hlength : (records text).length = entries.length)
    (hdone : ∃ a, done.result = .ok a) :
    FailsBy (if entries = [] then Traced.fail (.emptyTable table) else done).result
      fun e => records text = [] ∧ e = .emptyTable table := by
  obtain ⟨a, ha⟩ := hdone
  have hrows : records text = [] ↔ entries = [] := by
    rw [← List.length_eq_zero_iff, hlength, List.length_eq_zero_iff]
  intro e
  rw [hrows]
  by_cases hempty : entries = []
  · simp [hempty, eq_comm]
  · simp [hempty, ha]

/-- A load goes through the fields, then the rows, and last sees whether there were any. -/
theorem failsBy_load {σ ρ : Type} {read : List Record → Traced σ} {finish : σ → Traced ρ}
    {rowFaults : List Record → Record → List Fault} (table text : String) (width : ℕ)
    (hread : FailsBy (read (records text)).result
      (FirstOf (inTurn rowFaults [] (records text))))
    (hfinish : ∀ s, (read (records text)).result = .ok s → FailsBy (finish s).result
      fun e => records text = [] ∧ e = .emptyTable table) :
    FailsBy (load table width text >>= fun rows => read rows >>= finish).result
      (FirstOf (faults width rowFaults table text)) := by
  have hrest : FailsBy (read (records text) >>= finish).result
      (FirstOf ([FirstOf (inTurn rowFaults [] (records text))] ++
        [fun e => records text = [] ∧ e = .emptyTable table])) := by
    rw [Traced.result_bind]
    exact hread.single.bind fun s hs => (hfinish s hs).single
  rw [Traced.result_bind]
  refine (failsBy_checkWidth table width (records text)).single.bind ?_
  intro rows hrows
  rw [(load_eq_ok_iff.1 hrows).1]
  exact hrest

end Table

end FieldFormats
