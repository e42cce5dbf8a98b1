import FieldFormats.Pattern.Notation
/-! # Reading plain patterns

What the reader makes of the plain parts of the notation outside groups: characters that stand for
themselves, the anchors at both ends, and counts in braces. The lexemes of such parts come one after
the other, and so do the expressions put together from them. A sequence stays within the limits if
its parts are shallow and small.
-/
namespace FieldFormats.Pattern

open FieldFormats.Text

namespace Reader

/-- The lexemes of a text are those of its first step and then those of the rest. -/
theorem readAll_of_next {r s : Reader} {c : Char} {cs rest : List Char} {ls : List Lexeme}
    (h : r.next (c :: cs) = some (ls, s, rest)) (hl : rest.length ≤ cs.length) :
    r.readAll (c :: cs) = (s.readAll rest).map (ls ++ ·) := by
  rw [readAll, h]
  simp only [List.length_cons]
  rw [dif_pos (by omega)]

/-- The characters that have a meaning of their own outside brackets. -/
def specials : List Char := ['(', ')', '[', '|', '?', '*', '+', '\x7b', '\\', '.', '^', '$']

theorem next_literal {c : Char} (h : c ∉ specials) (cs : List Char) :
    next {} (c :: cs) = some ([.literal ⟨c, false⟩], {}, cs) := by
  simp only [specials, List.mem_cons, not_or] at h
  change nextOutside {} (c :: cs) = _
  unfold nextOutside skip
  simp only [Bool.false_eq_true, if_false]
  split <;> simp_all

theorem readAll_literals {ds : List Char} (h : ∀ d ∈ ds, d ∉ specials) (cs : List Char) :
    readAll {} (ds ++ cs) = (readAll {} cs).map (ds.map (fun d => .literal ⟨d, false⟩) ++ ·) := by
  induction ds with
  | nil => simp
  | cons d ds ih =>
    rw [List.cons_append, readAll_of_next (next_literal (h d (by simp)) _) (Nat.le_refl _),
      ih fun e he => h e (by simp [he])]
    simp [Function.comp_def]

theorem readAll_caret (cs : List Char) :
    readAll {} ('^' :: cs) = (readAll {} cs).map ([.anchor .caret] ++ ·) :=
  readAll_of_next rfl (Nat.le_refl _)

theorem readAll_dollar : readAll {} ['$'] = some [.anchor .dollar] := by
  have h : next {} ['$'] = some ([.anchor .dollar], {}, []) := rfl
  rw [readAll_of_next h (Nat.le_refl _)]
  simp [readAll]

def inBrackets : Reader :=
  { brackets := 1 }

theorem readAll_setOpen {c : Char} (h : c ∉ ['^', '-', ']']) (cs : List Char) :
    readAll {} ('[' :: c :: cs) = (readAll inBrackets (c :: cs)).map ([.setOpen false] ++ ·) := by
  simp only [List.mem_cons, not_or] at h
  refine readAll_of_next ?_ (Nat.le_refl _)
  change readSetOpen {} (c :: cs) = _
  simp [readSetOpen, skip, leadingDashes, h, inBrackets]

theorem countDigits_of_isDigit {ds : List Char} (h : ∀ d ∈ ds, d.isDigit = true) {c : Char}
    (hc : c.isDigit = false) (cs : List Char) :
    countDigits false false (ds ++ c :: cs) = (ds, c :: cs) := by
  induction ds with
  | nil => simp [countDigits, hc]
  | cons d ds ih =>
    rw [List.cons_append, countDigits, if_pos (h d (by simp)), ih fun e he => h e (by simp [he])]

theorem readCount_numeral {n : Nat} (h : n < countBound) {c : Char} (hc : c.isDigit = false)
    (hb : isBlank c = false) (cs : List Char) :
    readCount false (numeral n ++ c :: cs) = (some n, c :: cs) := by
  have hd : (numeral n ++ c :: cs).dropWhile isBlank = numeral n ++ c :: cs := by
    match hn : numeral n with
    | [] => exact absurd hn (numeral_ne_nil n)
    | d :: ds =>
      have : d ∈ numeral n := by simp [hn]
      simp [isBlank_eq_false_of_isDigit (isDigit_of_mem_numeral this)]
  simp [readCount, hd, countDigits_of_isDigit (fun d => isDigit_of_mem_numeral) hc, hb, skip,
    numeral_ne_nil, decimal_numeral, h]

/-- A count in braces is read as a repetition of exactly so many times. -/
theorem readAll_braces {n : Nat} (h : n < countBound) {cs : List Char} (hq : dropLazy cs = cs) :
    readAll {} ('\x7b' :: numeral n ++ '\x7d' :: cs) =
      (readAll {} cs).map ([.repetition n (some n)] ++ ·) := by
  refine readAll_of_next ?_ (by simp; omega)
  have hc := readCount_numeral h (c := '\x7d') (by decide) (by decide) cs
  change (readBounds false (numeral n ++ '\x7d' :: cs)).map _ = _
  simp [readBounds, skip, hc, hq]

end Reader

namespace Assembly

def ofParts (xs : List Measured) : Assembly :=
  { parts := (xs.map some).reverse }

theorem addAll_append (a : Assembly) (ls ms : List Lexeme) :
    a.addAll (ls ++ ms) = (a.addAll ls).bind (·.addAll ms) := by
  induction ls generalizing a with
  | nil => rfl
  | cons l ls ih =>
    rw [List.cons_append, addAll, addAll]
    cases a.add l with
    | none => rfl
    | some b => exact ih b

theorem addAll_caret : addAll {} [.anchor .caret] = some (ofParts [.ofLook .textStart]) :=
  rfl

theorem addAll_dollar (xs : List Measured) :
    (ofParts xs).addAll [.anchor .dollar] = some (ofParts (xs ++ [.ofLook .textEnd])) := by
  simp [ofParts, addAll, add, push, Flags.look]

theorem addAll_literals (xs : List Measured) (ds : List Char) :
    (ofParts xs).addAll (ds.map fun d => .literal ⟨d, false⟩) =
      some (ofParts (xs ++ ds.map .ofChar)) := by
  induction ds generalizing xs with
  | nil => simp [addAll]
  | cons d ds ih =>
    have h : (ofParts xs).add (.literal ⟨d, false⟩) = some (ofParts (xs ++ [.ofChar d])) := by
      simp [ofParts, add, Flags.literal, push]
    rw [List.map_cons, addAll, h]
    simp [ih]

theorem whole_ofParts (xs : List Measured) :
    (ofParts xs).whole = .sequence (xs.map some) := by
  simp [ofParts, whole, Measured.alternatives]

end Assembly

namespace Measured

def totalRoom (xs : List Measured) : Nat :=
  xs.foldr (fun x room => x.room + room) 0

theorem totalRoom_cons (x : Measured) (xs : List Measured) :
    totalRoom (x :: xs) = x.room + totalRoom xs :=
  rfl

theorem totalRoom_append (xs ys : List Measured) :
    totalRoom (xs ++ ys) = totalRoom xs + totalRoom ys := by
  induction xs with
  | nil => simp [totalRoom]
  | cons x xs ih => rw [List.cons_append, totalRoom_cons, totalRoom_cons, ih, Nat.add_assoc]

theorem room_sequence {xs : List Measured} (h : xs ≠ []) :
    (sequence (xs.map some)).room = totalRoom xs := by
  simp [sequence, totalRoom, h]

theorem totalRoom_literals_le (ds : List Char) :
    totalRoom (ds.map ofChar) ≤ 128 * ds.length := by
  induction ds with
  | nil => exact Nat.le_refl _
  | cons d ds ih =>
    have := Char.utf8Size_le_four d
    simp only [totalRoom, ofChar, stateRoom, List.map_cons, List.foldr_cons,
      List.length_cons] at ih ⊢
    omega

theorem foldr_max_le {ns : List Nat} {b : Nat} (h : ∀ n ∈ ns, n ≤ b) : ns.foldr max 0 ≤ b := by
  induction ns with
  | nil => exact Nat.zero_le b
  | cons n ns ih => exact Nat.max_le.2 ⟨h n (by simp), ih fun m hm => h m (by simp [hm])⟩

/-- A sequence is nested one deeper than its parts at most. -/
theorem nesting_sequence_le {xs : List Measured} {b : Nat} (h : ∀ x ∈ xs, x.nesting ≤ b) :
    (sequence (xs.map some)).nesting ≤ 1 + b := by
  have : (xs.map (·.nesting)).foldr max 0 ≤ b := foldr_max_le (by simpa using h)
  simp only [sequence, level, List.map_map, Function.comp_def, Option.map_some, Option.getD_some]
  split <;> omega

end Measured

end FieldFormats.Pattern
