import FieldFormats.Table.Record
import Mathlib.Tactic.Common
/-! # Reading what was written

A table can be written in many ways: with comments and blank lines between the records, with three
ways to end a line, with or without a byte order mark and an end of the last line. Whichever way
is taken, the same records are read. -/
namespace FieldFormats

namespace Table

open FieldFormats.Text

theorem checkWidth_eq_ok_iff {table : String} {width : ℕ} {rs out : List Record} :
    (checkWidth table width rs).result = .ok out ↔
      out = rs ∧ ∀ r ∈ rs, r.fields.length = width := by
  induction rs generalizing out with
  | nil => simp [checkWidth, eq_comm]
  | cons r rs ih =>
    rw [checkWidth]
    by_cases hr : r.fields.length = width
    · rw [if_pos hr, Traced.bind_eq_ok_iff]
      constructor
      · rintro ⟨⟨⟩, -, h⟩
        rw [Traced.map_eq_bind, Traced.bind_eq_ok_iff] at h
        obtain ⟨ts, hts, h⟩ := h
        cases h
        obtain ⟨rfl, hall⟩ := ih.1 hts
        exact ⟨rfl, List.forall_mem_cons.2 ⟨hr, hall⟩⟩
      · rintro ⟨rfl, hall⟩
        refine ⟨(), rfl, ?_⟩
        rw [Traced.result_map, ih.2 ⟨rfl, (List.forall_mem_cons.1 hall).2⟩]
        rfl
    · rw [if_neg hr]
      constructor
      · intro h
        cases h
      · rintro ⟨-, hall⟩
        exact absurd (hall r (by simp)) hr

theorem checkWidth_eq_error {table : String} {width : ℕ} {before after : List Record}
    {r : Record} (hbefore : ∀ q ∈ before, q.fields.length = width)
    (hr : r.fields.length ≠ width) :
    (checkWidth table width (before ++ r :: after)).result =
      .error (.fieldCount table r.line width r.fields.length) := by
  induction before with
  | nil =>
    rw [List.nil_append, checkWidth, if_neg hr]
    rfl
  | cons q before ih =>
    obtain ⟨hq, hrest⟩ := List.forall_mem_cons.1 hbefore
    rw [List.cons_append, checkWidth, if_pos hq, Traced.result_bind, Traced.result_note]
    change ((_ :: ·) <$> _ : Traced _).result = _
    rw [Traced.result_map, ih hrest]
    rfl

theorem fieldCount_of_checkWidth {table : String} {width : ℕ} {rs : List Record} {e : LoadError}
    (h : (checkWidth table width rs).result = .error e) :
    ∃ r ∈ rs, e = .fieldCount table r.line width r.fields.length := by
  induction rs with
  | nil => cases h
  | cons r rs ih =>
    rw [checkWidth] at h
    split at h
    · rcases Traced.bind_eq_error_iff.1 h with h | ⟨-, -, h⟩
      · cases h
      · rw [Traced.map_eq_bind] at h
        rcases Traced.bind_eq_error_iff.1 h with h | ⟨ts, -, h⟩
        · obtain ⟨q, hq, he⟩ := ih h
          exact ⟨q, List.mem_cons_of_mem r hq, he⟩
        · cases h
    · cases h
      exact ⟨r, List.mem_cons_self, rfl⟩

theorem load_eq_ok_iff {table text : String} {width : ℕ} {out : List Record} :
    (load table width text).result = .ok out ↔
      out = records text ∧ ∀ r ∈ records text, r.fields.length = width :=
  checkWidth_eq_ok_iff

theorem Record.number_eq_ok_iff {r : Record} {i bound n : ℕ} {table : String} {column : Column} :
    r.number i bound table column = .ok n ↔
      readNumber? bound (trim (r.field i).toList) = some n := by
  unfold Record.number
  cases readNumber? bound (trim (r.field i).toList) with
  | none => simp
  | some m => simp

/-- The line of some fields, without its end. -/
def line (fields : List String) : List Char :=
  joined '\t' (fields.map String.toList)

/-- A line that is neither blank nor a comment. -/
structure IsLine (line : List Char) : Prop where
  visible : line ≠ []
  unbroken : ∀ c ∈ line, c ≠ '\n' ∧ c ≠ '\r'
  no_comment : line.head? ≠ some '#'

/-- Fields that make a record: none holds a tab or an end of line, and their line is neither
blank nor a comment. -/
structure Row where
  fields : List String
  plain : ∀ f ∈ fields, '\t' ∉ f.toList ∧ '\n' ∉ f.toList ∧ '\r' ∉ f.toList
  visible : line fields ≠ []
  no_comment : (line fields).head? ≠ some '#'

inductive Ending where
  | lf | crlf | cr
  deriving DecidableEq, Repr

def Ending.text : Ending → List Char
  | lf => ['\n']
  | crlf => ['\r', '\n']
  | cr => ['\r']

inductive Item where
  | row (r : Row) (e : Ending)
  | blank (e : Ending)
  | comment (text : List Char) (one_line : '\n' ∉ text)

namespace Item

def text : Item → List Char
  | row r e => line r.fields ++ e.text
  | blank e => e.text
  | comment text _ => '#' :: text ++ ['\n']

def row? : Item → Option Row
  | row r _ => some r
  | _ => none

end Item

/-- Items one after the other, and perhaps a last record whose line is not ended. -/
def write (items : List Item) (last : Option Row) : List Char :=
  items.flatMap Item.text ++ last.elim [] (line ·.fields)

/-- A table as someone wrote it. Without a byte order mark it must not happen to begin with one. -/
structure Draft where
  marked : Bool
  items : List Item
  last : Option Row
  unmistakable : marked = false → (write items last).head? ≠ some '\ufeff'

namespace Draft

def text (d : Draft) : String :=
  String.ofList (if d.marked then '\ufeff' :: write d.items d.last else write d.items d.last)

def rows (d : Draft) : List Row :=
  d.items.filterMap Item.row? ++ d.last.toList

end Draft

namespace Row

theorem fields_ne_nil (r : Row) : r.fields ≠ [] := by
  intro h
  apply r.visible
  rw [h]
  rfl

theorem fieldsOf_line (r : Row) : Record.fieldsOf (line r.fields) = r.fields := by
  have hpieces : pieces '\t' (line r.fields) = r.fields.map String.toList := by
    apply pieces_joined
    · simpa using r.fields_ne_nil
    · intro p hp
      obtain ⟨f, hf, rfl⟩ := List.mem_map.1 hp
      exact (r.plain f hf).1
  rw [Record.fieldsOf, hpieces, List.map_map]
  simp [Function.comp_def]

theorem unbroken (r : Row) {c : Char} (h : c ∈ line r.fields) : c ≠ '\n' ∧ c ≠ '\r' := by
  rcases mem_joined h with rfl | ⟨p, hp, hc⟩
  · decide
  · obtain ⟨f, hf, rfl⟩ := List.mem_map.1 hp
    obtain ⟨-, hlf, hcr⟩ := r.plain f hf
    constructor
    · rintro rfl
      exact hlf hc
    · rintro rfl
      exact hcr hc

theorem isLine (r : Row) : IsLine (line r.fields) where
  visible := r.visible
  unbroken _ := r.unbroken
  no_comment := r.no_comment

end Row

section Scanning

variable (start n : ℕ) (rest : List Char)

theorem scan_comment {text : List Char} (h : '\n' ∉ text) :
    scan start n .comment (text ++ '\n' :: rest) = scan start (n + 1) .between rest := by
  induction text with
  | nil => simp [scan]
  | cons c text ih =>
    rw [List.mem_cons, not_or] at h
    rw [List.cons_append, scan, if_neg (Ne.symm h.1), ih h.2]

theorem scan_inside {cs seen : List Char} (h : ∀ c ∈ cs, c ≠ '\n' ∧ c ≠ '\r') :
    scan start n (.inside seen) (cs ++ rest) =
      scan start n (.inside (cs.reverse ++ seen)) rest := by
  induction cs generalizing seen with
  | nil => rfl
  | cons c cs ih =>
    obtain ⟨⟨hlf, hcr⟩, hcs⟩ := List.forall_mem_cons.1 h
    rw [List.cons_append, scan, if_neg hlf, if_neg hcr, ih hcs, List.reverse_cons,
      List.append_assoc]
    rfl

theorem IsLine.scan {line : List Char} (h : IsLine line) :
    scan start n .between (line ++ rest) = scan start n (.inside line.reverse) rest := by
  cases line with
  | nil => exact absurd rfl h.visible
  | cons c cs =>
    obtain ⟨⟨hlf, hcr⟩, hcs⟩ := List.forall_mem_cons.1 h.unbroken
    have hhash : c ≠ '#' := by
      rintro rfl
      exact h.no_comment rfl
    rw [List.cons_append, Table.scan, if_neg hlf, if_neg hcr, if_neg hhash, scan_inside _ _ _ hcs,
      List.reverse_cons]

theorem scan_line (r : Row) :
    scan start n .between (line r.fields ++ rest) =
      scan start n (.inside (line r.fields).reverse) rest :=
  r.isLine.scan start n rest

theorem scan_blank (e : Ending) :
    ∃ m, scan start n .between (e.text ++ rest) = scan start m .between rest := by
  cases e with
  | lf => exact ⟨n + 1, by simp [Ending.text, scan]⟩
  | crlf => exact ⟨n + 1, by simp [Ending.text, scan]⟩
  | cr => exact ⟨n, by simp [Ending.text, scan]⟩

theorem scan_row (r : Row) (e : Ending) :
    ∃ s m, scan start n .between (line r.fields ++ (e.text ++ rest)) =
      ⟨start, r.fields⟩ :: scan s m .between rest := by
  rw [scan_line]
  cases e with
  | lf => exact ⟨n + 1, n + 1, by simp [Ending.text, scan, r.fieldsOf_line]⟩
  | crlf =>
    -- The record ends at CR already; the LF is then taken for a blank line.
    exact ⟨n, n + 1, by simp [Ending.text, scan, r.fieldsOf_line]⟩
  | cr => exact ⟨n, n, by simp [Ending.text, scan, r.fieldsOf_line]⟩

theorem scan_last (last : Option Row) :
    (scan start n .between (last.elim [] (line ·.fields))).map (·.fields) =
      last.toList.map (·.fields) := by
  cases last with
  | none => rfl
  | some r =>
    have h := scan_line start n [] r
    rw [List.append_nil] at h
    simp [h, scan, r.fieldsOf_line]

theorem scan_write (items : List Item) (last : Option Row) :
    (scan start n .between (write items last)).map (·.fields) =
      (items.filterMap Item.row? ++ last.toList).map (·.fields) := by
  -- On the items; lines are counted on the way but do not matter.
  induction items generalizing start n with
  | nil => exact scan_last start n last
  | cons item items ih =>
    have hw : write (item :: items) last = item.text ++ write items last := by
      simp [write]
    rw [hw]
    cases item with
    | row r e =>
      obtain ⟨s, m, h⟩ := scan_row start n (write items last) r e
      rw [Item.text, List.append_assoc, h, List.map_cons, ih]
      rfl
    | blank e =>
      obtain ⟨m, h⟩ := scan_blank start n (write items last) e
      rw [Item.text, h, ih]
      rfl
    | comment text one_line =>
      have h : scan start n .between ('#' :: text ++ ['\n'] ++ write items last) =
          scan start n .comment (text ++ '\n' :: write items last) := by
        simp [scan]
      rw [Item.text, h, scan_comment _ _ _ one_line, ih]
      rfl

end Scanning

theorem dropMark_of_head? {cs : List Char} (h : cs.head? ≠ some '\ufeff') : dropMark cs = cs := by
  unfold dropMark
  split
  · exact absurd rfl h
  · rfl

namespace Draft

/-- Whatever way a table is written, its records are read as they are. -/
theorem records_text (d : Draft) :
    (records d.text).map (·.fields) = d.rows.map (·.fields) := by
  have h : dropMark d.text.toList = write d.items d.last := by
    rw [text, String.toList_ofList]
    cases hm : d.marked with
    | true => rfl
    | false => exact dropMark_of_head? (d.unmistakable hm)
  rw [records, h, scan_write, rows]

/-- A draft loads to its rows in order if all have the right width. Otherwise the first that has
not is reported with the number of its fields. -/
theorem load_text (d : Draft) (table : String) (width : ℕ) :
    ((∀ r ∈ d.rows, r.fields.length = width) →
      ∃ out, (load table width d.text).result = .ok out ∧
        out.map (·.fields) = d.rows.map (·.fields)) ∧
    (∀ before r after, d.rows = before ++ r :: after →
      (∀ q ∈ before, q.fields.length = width) → r.fields.length ≠ width →
      ∃ n, (load table width d.text).result =
        .error (.fieldCount table n width r.fields.length)) := by
  have hrecords := d.records_text
  constructor
  · intro hall
    refine ⟨records d.text, load_eq_ok_iff.2 ⟨rfl, ?_⟩, hrecords⟩
    intro q hq
    have hmem : q.fields ∈ d.rows.map (·.fields) := by
      rw [← hrecords]
      exact List.mem_map_of_mem hq
    obtain ⟨r, hr, hfields⟩ := List.mem_map.1 hmem
    rw [← hfields]
    exact hall r hr
  · intro before r after hrows hbefore hr
    rw [hrows, List.map_append, List.map_cons] at hrecords
    obtain ⟨qs, ts, hsplit, hqs, hts⟩ := List.map_eq_append_iff.1 hrecords
    obtain ⟨q, us, rfl, hq, -⟩ := List.map_eq_cons_iff.1 hts
    refine ⟨q.line, ?_⟩
    rw [load, hsplit, ← hq]
    refine checkWidth_eq_error ?_ (by rwa [hq])
    intro p hp
    have hmem : p.fields ∈ before.map (·.fields) := by
      rw [← hqs]
      exact List.mem_map_of_mem hp
    obtain ⟨o, ho, hfields⟩ := List.mem_map.1 hmem
    rw [← hfields]
    exact hbefore o ho

end Draft

section Mixed

def euroRow : Row where
  fields := ["EUR", "\"Euro\""]
  plain := by simp
  visible := by simp [line, joined]
  no_comment := by simp [line, joined]

def crownRow : Row where
  fields := ["SEK", ""]
  plain := by simp
  visible := by simp [line, joined]
  no_comment := by simp [line, joined]

/-- A draft with a byte order mark, a comment that CR does not end and all three endings. -/
def mixedDraft : Draft where
  marked := true
  items := [.comment ['\r'] (by simp), .row euroRow .crlf, .blank .cr, .row crownRow .cr]
  last := some euroRow
  unmistakable := by simp

theorem load_mixedDraft :
    mixedDraft.text = "\ufeff#\r\nEUR\t\"Euro\"\r\n\rSEK\t\rEUR\t\"Euro\"" ∧
    (∃ out, (load "currencies.tsv" 2 mixedDraft.text).result = .ok out ∧
      out.map (·.fields) = [["EUR", "\"Euro\""], ["SEK", ""], ["EUR", "\"Euro\""]]) ∧
    ∃ n, (load "currencies.tsv" 1 mixedDraft.text).result =
      .error (.fieldCount "currencies.tsv" n 1 2) := by
  have hrows : mixedDraft.rows = [euroRow, crownRow, euroRow] := rfl
  refine ⟨rfl, ?_, ?_⟩
  · apply (Draft.load_text mixedDraft "currencies.tsv" 2).1
    rw [hrows]
    simp [euroRow, crownRow]
  · exact (Draft.load_text mixedDraft "currencies.tsv" 1).2 [] euroRow [crownRow, euroRow] hrows
      (by simp) (by simp [euroRow])

end Mixed

end Table

end FieldFormats
