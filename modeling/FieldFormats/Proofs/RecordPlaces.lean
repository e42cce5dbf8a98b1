import FieldFormats.Proofs.TableReading
/-! # Where records stand

A text is blank lines, comments and lines of records, one after the other. Every text is of this
form in some way, and the records that are read from it are those at the places so found. A comment
that the end of the text cuts off stands in the place of a record. -/
namespace FieldFormats.Table

open FieldFormats.Text

def IsBreak (c : Char) : Prop :=
  c = '\n' ∨ c = '\r'

instance (c : Char) : Decidable (IsBreak c) :=
  inferInstanceAs (Decidable (_ ∨ _))

/-- Blank lines and comments. A comment goes on to its LF. -/
inductive Skips : List Char → Prop where
  | nil : Skips []
  | blank {c : Char} {cs : List Char} : IsBreak c → Skips cs → Skips (c :: cs)
  | comment {text cs : List Char} : '\n' ∉ text → Skips cs → Skips ('#' :: text ++ '\n' :: cs)

structure Place where
  /-- What had been read when the search for the record began. -/
  before : List Char
  /-- Blank lines and comments that the search passed over. -/
  skipped : List Char
  line : List Char

namespace Place

/-- Fields between tabs. A comment makes one empty field. -/
def fields (p : Place) : List String :=
  if p.line.head? = some '#' then [""] else Record.fieldsOf p.line

/-- The record as it is read, with the line at which the search for it began. -/
def record (p : Place) : Record :=
  ⟨1 + p.before.count '\n', p.fields⟩

/-- The number of the line on which the record stands. -/
def lineNumber (p : Place) : ℕ :=
  1 + (p.before ++ p.skipped).count '\n'

end Place

/-- Places in a text, the first of which is searched for after what was read `before`. -/
inductive Stand : List Char → List Char → List Place → Prop where
  | none {before rest : List Char} : Skips rest → Stand before rest []
  | last {before skipped line : List Char} : Skips skipped → IsLine line →
      Stand before (skipped ++ line) [⟨before, skipped, line⟩]
  | cutOff {before skipped text : List Char} : Skips skipped → '\n' ∉ text →
      Stand before (skipped ++ '#' :: text) [⟨before, skipped, '#' :: text⟩]
  | ended {before skipped line rest : List Char} {c : Char} {ps : List Place} :
      Skips skipped → IsLine line → IsBreak c →
      Stand (before ++ skipped ++ line ++ [c]) rest ps →
      Stand before (skipped ++ (line ++ c :: rest)) (⟨before, skipped, line⟩ :: ps)

section Existence

theorem Skips.append {cs ds : List Char} (hcs : Skips cs) (hds : Skips ds) : Skips (cs ++ ds) := by
  induction hcs with
  | nil => exact hds
  | blank hc _ ih => exact .blank hc ih
  | @comment text cs htext _ ih =>
    have hsplit : '#' :: text ++ '\n' :: cs ++ ds = '#' :: text ++ '\n' :: (cs ++ ds) := by simp
    rw [hsplit]
    exact .comment htext ih

theorem exists_unbroken (cs : List Char) :
    ∃ front more, cs = front ++ more ∧ (∀ c ∈ front, c ≠ '\n' ∧ c ≠ '\r') ∧
      (more = [] ∨ ∃ c rest, more = c :: rest ∧ IsBreak c) := by
  induction cs with
  | nil => exact ⟨[], [], rfl, by simp, Or.inl rfl⟩
  | cons c cs ih =>
    by_cases hc : IsBreak c
    · exact ⟨[], c :: cs, rfl, by simp, Or.inr ⟨c, cs, rfl, hc⟩⟩
    · obtain ⟨front, more, rfl, hfront, hmore⟩ := ih
      exact ⟨c :: front, more, rfl, List.forall_mem_cons.2 ⟨not_or.1 hc, hfront⟩, hmore⟩

/-- What follows the next blank lines and comments. -/
inductive Follows : List Char → Prop where
  | nothing : Follows []
  | openComment {text : List Char} : '\n' ∉ text → Follows ('#' :: text)
  | lastLine {line : List Char} : IsLine line → Follows line
  | endedLine {line rest : List Char} {c : Char} : IsLine line → IsBreak c →
      Follows (line ++ c :: rest)

theorem exists_skips (cs : List Char) :
    ∃ skipped tail, cs = skipped ++ tail ∧ Skips skipped ∧ Follows tail := by
  induction hlength : cs.length using Nat.strongRecOn generalizing cs with
  | _ n ih =>
    subst hlength
    cases cs with
    | nil => exact ⟨[], [], rfl, .nil, .nothing⟩
    | cons c cs =>
      by_cases hc : IsBreak c
      · obtain ⟨skipped, tail, rfl, hskipped, htail⟩ := ih _ (Nat.lt_succ_self _) cs rfl
        exact ⟨c :: skipped, tail, rfl, .blank hc hskipped, htail⟩
      · by_cases hhash : c = '#'
        · subst hhash
          by_cases hlf : '\n' ∈ cs
          · obtain ⟨text, more, rfl, htext⟩ := List.eq_append_cons_of_mem hlf
            obtain ⟨skipped, tail, rfl, hskipped, htail⟩ := ih _ (by simp; omega) more rfl
            exact ⟨'#' :: text ++ '\n' :: skipped, tail, by simp, .comment htext hskipped, htail⟩
          · exact ⟨[], _, rfl, .nil, .openComment hlf⟩
        · obtain ⟨front, more, rfl, hfront, hmore⟩ := exists_unbroken cs
          have hline : IsLine (c :: front) :=
            ⟨by simp, List.forall_mem_cons.2 ⟨not_or.1 hc, hfront⟩, by simpa using hhash⟩
          refine ⟨[], c :: front ++ more, rfl, .nil, ?_⟩
          rcases hmore with rfl | ⟨d, rest, rfl, hd⟩
          · rw [List.append_nil]
            exact .lastLine hline
          · exact .endedLine hline hd

/-- Every text has places, whatever was read before it. -/
theorem exists_stand (before cs : List Char) : ∃ ps, Stand before cs ps := by
  induction hlength : cs.length using Nat.strongRecOn generalizing before cs with
  | _ n ih =>
    subst hlength
    obtain ⟨skipped, tail, rfl, hskipped, htail⟩ := exists_skips cs
    cases htail with
    | nothing =>
      rw [List.append_nil]
      exact ⟨[], .none hskipped⟩
    | openComment htext => exact ⟨_, .cutOff hskipped htext⟩
    | lastLine hline => exact ⟨_, .last hskipped hline⟩
    | @endedLine line rest c hline hc =>
      obtain ⟨ps, hps⟩ := ih _ (by simp; omega) (before ++ skipped ++ line ++ [c]) rest rfl
      exact ⟨_, .ended hskipped hline hc hps⟩

end Existence

section Scanning

variable (start n : ℕ) (rest : List Char)

theorem IsBreak.scan {c : Char} (hc : IsBreak c) :
    scan start n .between (c :: rest) = scan start (n + [c].count '\n') .between rest := by
  rcases hc with rfl | rfl <;> simp [Table.scan]

theorem Skips.scan {skipped : List Char} (h : Skips skipped) :
    scan start n .between (skipped ++ rest) =
      scan start (n + skipped.count '\n') .between rest := by
  induction h generalizing n with
  | nil => rfl
  | @blank c cs hc _ ih =>
    rw [List.cons_append, hc.scan, ih, Nat.add_assoc, ← List.count_append, List.singleton_append]
  | @comment text cs htext _ ih =>
    have hsplit : '#' :: text ++ '\n' :: cs ++ rest = '#' :: (text ++ '\n' :: (cs ++ rest)) := by
      simp
    have hopens : Table.scan start n .between ('#' :: (text ++ '\n' :: (cs ++ rest))) =
        Table.scan start n .comment (text ++ '\n' :: (cs ++ rest)) := by
      simp [Table.scan]
    have hcount : ('#' :: text ++ '\n' :: cs).count '\n' = 1 + cs.count '\n' := by
      simp [List.count_append, List.count_eq_zero_of_not_mem htext, Nat.add_comm]
    rw [hsplit, hopens, scan_comment _ _ _ htext, ih, hcount, Nat.add_assoc]

theorem scan_openComment {text : List Char} (h : '\n' ∉ text) :
    scan start n .comment text = [⟨start, [""]⟩] := by
  induction text with
  | nil => rfl
  | cons c text ih =>
    rw [List.mem_cons, not_or] at h
    rw [Table.scan, if_neg (Ne.symm h.1), ih h.2]

/-- After a line's end the next search begins, on the line below if the end is an LF. -/
theorem scan_break (seen : List Char) {c : Char} (hc : IsBreak c) :
    scan start n (.inside seen) (c :: rest) =
      ⟨start, Record.fieldsOf seen.reverse⟩ ::
        scan (n + [c].count '\n') (n + [c].count '\n') .between rest := by
  rcases hc with rfl | rfl <;> simp [Table.scan]

end Scanning

theorem IsLine.fields {before skipped line : List Char} (h : IsLine line) :
    (Place.mk before skipped line).fields = Record.fieldsOf line :=
  if_neg h.no_comment

theorem Stand.scan {before cs : List Char} {ps : List Place} (h : Stand before cs ps) :
    scan (1 + before.count '\n') (1 + before.count '\n') .between cs = ps.map Place.record := by
  induction h with
  | @none before rest hrest =>
    have hscan := hrest.scan (1 + before.count '\n') (1 + before.count '\n') []
    rw [List.append_nil] at hscan
    rw [hscan]
    rfl
  | @last before skipped line hskipped hline =>
    have hscan := hline.scan (1 + before.count '\n')
      (1 + before.count '\n' + skipped.count '\n') []
    rw [List.append_nil] at hscan
    rw [hskipped.scan, hscan, Table.scan, List.reverse_reverse, ← hline.fields]
    rfl
  | @cutOff before skipped text hskipped htext =>
    have hopens : ∀ start n, Table.scan start n .between ('#' :: text) = [⟨start, [""]⟩] := by
      intro start n
      rw [← scan_openComment start n htext]
      simp [Table.scan]
    rw [hskipped.scan, hopens]
    rfl
  | @ended before skipped line rest c ps hskipped hline hc _ ih =>
    have hnone : line.count '\n' = 0 :=
      List.count_eq_zero_of_not_mem fun hlf => (hline.unbroken _ hlf).1 rfl
    have hcount : 1 + (before ++ skipped ++ line ++ [c]).count '\n' =
        1 + before.count '\n' + skipped.count '\n' + [c].count '\n' := by
      simp only [List.count_append, hnone]
      omega
    rw [hcount] at ih
    rw [hskipped.scan, hline.scan, scan_break _ _ _ _ hc, ih, List.reverse_reverse, ← hline.fields]
    rfl

theorem Stand.records {text : String} {ps : List Place}
    (h : Stand [] (dropMark text.toList) ps) : records text = ps.map Place.record :=
  h.scan

end FieldFormats.Table
