import FieldFormats.Pattern.Expression
/-! # Matching a chain of sets

An expression that takes one character of each of some sets in turn leads from a single place to a
single place. Between the anchors of both ends it matches the texts that have one character of each
set, and no others.
-/
namespace FieldFormats.Pattern

open FieldFormats.Text

/-- Whether a text begins with one character of each set in turn. -/
def begins : List CharSet → List Char → Bool
  | [], _ => true
  | _ :: _, [] => false
  | s :: ss, c :: cs => s.contains c && begins ss cs

/-- Whether a text is one character of each set in turn. -/
def spells (ss : List CharSet) (cs : List Char) : Bool :=
  cs.length = ss.length && begins ss cs

theorem begins_append (ss ts : List CharSet) (cs : List Char) :
    begins (ss ++ ts) cs = (begins ss cs && begins ts (cs.drop ss.length)) := by
  induction ss generalizing cs with
  | nil => simp [begins]
  | cons s ss ih =>
    match cs with
    | [] => rfl
    | c :: cs => simp [begins, ih, Bool.and_assoc]

theorem iterate_of_fixed {α : Type} [DecidableEq α] {step : α → α} {x : α} (h : step x = x)
    (n : Nat) : iterate step n x = x := by
  cases n with
  | zero => rfl
  | succ n => simp [iterate, h]

theorem iterate_succ {α : Type} [DecidableEq α] (step : α → α) (n : Nat) (x : α) :
    iterate step (n + 1) x = iterate step n (step x) := by
  rw [iterate]
  by_cases h : step x = x
  · rw [if_pos h, h, iterate_of_fixed h]
  · rw [if_neg h]

namespace Places

/-- The place number `k` alone among those of a text of length `n`, or none. -/
def only (n k : Nat) (b : Bool) : Places :=
  (List.range (n + 1)).map fun i => b && i == k

theorem length_only (n k : Nat) (b : Bool) : (only n k b).length = n + 1 := by
  simp [only]

theorem getElem?_only {n i : Nat} (h : i ≤ n) (k : Nat) (b : Bool) :
    (only n k b)[i]? = some (b && i == k) := by
  rw [only, List.getElem?_map, List.getElem?_range (by omega)]
  rfl

/-- Beyond the end of the text there is no place. -/
theorem only_of_lt {n k j : Nat} (hk : n < k) (hj : n < j) (b c : Bool) :
    only n k b = only n j c := by
  refine List.map_congr_left fun i hi => ?_
  have := List.mem_range.1 hi
  rw [show (i == k) = false by simp; omega, show (i == j) = false by simp; omega]
  simp

theorem any_only (n : Nat) (b : Bool) : (only n n b).any id = b := by
  cases b with
  | false => simp [only]
  | true => simp [only, List.any_map]

theorem advance_only (s : CharSet) (text : List Char) (k : Nat) (b : Bool) :
    (only text.length k b).advance s text =
      only text.length (k + 1) (b && begins [s] (text.drop k)) := by
  refine List.ext_getElem? fun i => ?_
  cases i with
  | zero => simp [advance, only]
  | succ i =>
    by_cases hi : i < text.length
    · rw [getElem?_only (by omega), advance, List.getElem?_cons_succ, List.getElem?_zipWith,
        getElem?_only (by omega), List.getElem?_eq_getElem hi]
      by_cases hk : i = k
      · subst hk
        rw [List.drop_eq_getElem_cons hi]
        simp [begins]
      · have : (i == k) = false := by simpa using hk
        simp [this]
    · simp [advance, only, hi]

theorem length_neighbours (text : List Char) : (neighbours text).length = text.length + 1 := by
  simp [neighbours]

theorem getElem?_neighbours {text : List Char} {i : Nat} (h : i ≤ text.length) :
    (neighbours text)[i]? = some (if i = 0 then none else text[i - 1]?, text[i]?) := by
  have ha : (text.map some ++ [none])[i]? = some text[i]? := by
    by_cases hi : i < text.length
    · simp [hi, List.getElem?_append_left]
    · have : i = text.length := by omega
      subst this
      simp
  cases i with
  | zero =>
    rw [neighbours, List.zip, List.getElem?_zipWith, ha]
    rfl
  | succ i =>
    have hi : i < text.length := by omega
    rw [neighbours, List.zip, List.getElem?_zipWith, ha]
    simp [hi]

theorem length_keep {l : Look} {text : List Char} {p : Places} (h : p.length = text.length + 1) :
    (p.keep l text).length = text.length + 1 := by
  simp [keep, length_neighbours, h]

theorem getElem?_keep {l : Look} {text : List Char} {p : Places} {b : Bool} {i : Nat}
    (h : i ≤ text.length) (hp : p[i]? = some b) :
    (p.keep l text)[i]? =
      some (b && l.holds (if i = 0 then none else text[i - 1]?) text[i]?) := by
  rw [keep, List.getElem?_zipWith, getElem?_neighbours h, hp]

theorem ext_of_length {n : Nat} {p q : Places} (hp : p.length = n + 1) (hq : q.length = n + 1)
    (h : ∀ i, i ≤ n → p[i]? = q[i]?) : p = q := by
  refine List.ext_getElem? fun i => ?_
  by_cases hi : i ≤ n
  · exact h i hi
  · rw [List.getElem?_eq_none (by omega), List.getElem?_eq_none (by omega)]

theorem keep_textStart (text : List Char) :
    Places.keep .textStart text (List.replicate (text.length + 1) true) =
      only text.length 0 true := by
  refine ext_of_length (length_keep (by simp)) (length_only _ _ _) fun i hi => ?_
  rw [getElem?_keep (b := true) hi (by rw [List.getElem?_replicate, if_pos (by omega)]),
    getElem?_only hi]
  by_cases h : i = 0
  · simp [h, Look.holds]
  · have hi : i - 1 < text.length := by omega
    simp [h, Look.holds, hi]

theorem keep_textEnd (text : List Char) (k : Nat) (b : Bool) :
    (only text.length k b).keep .textEnd text =
      only text.length text.length (b && k == text.length) := by
  refine ext_of_length (length_keep (length_only _ _ _)) (length_only _ _ _) fun i hi => ?_
  rw [getElem?_keep hi (getElem?_only hi k b), getElem?_only hi]
  by_cases h : i = text.length
  · subst h
    simp [Look.holds, Bool.beq_comm]
  · have hi : i < text.length := by omega
    simp [h, Look.holds, hi]

end Places

namespace Expression

/-- Whether the expression leads from each place to the one behind one character of each set. -/
def Walks (e : Expression) (ss : List CharSet) : Prop :=
  ∀ (text : List Char) (k : Nat) (b : Bool),
    e.ends text (.only text.length k b) =
      .only text.length (k + ss.length) (b && begins ss (text.drop k))

theorem walks_empty : Walks .empty [] := by
  intro text k b
  simp [ends, begins]

theorem walks_set (s : CharSet) : Walks (.set s) [s] :=
  fun text k b => Places.advance_only s text k b

theorem Walks.seq {d e : Expression} {ss ts : List CharSet} (hd : d.Walks ss) (he : e.Walks ts) :
    (Expression.seq d e).Walks (ss ++ ts) := by
  intro text k b
  rw [ends, hd, he, begins_append, List.drop_drop, List.length_append, Nat.add_assoc,
    Bool.and_assoc]

theorem iterate_advance (s : CharSet) (text : List Char) (n k : Nat) (b : Bool) :
    iterate (Places.advance s text) n (.only text.length k b) =
      .only text.length (k + n) (b && begins (List.replicate n s) (text.drop k)) := by
  induction n generalizing k b with
  | zero => simp [iterate, begins]
  | succ n ih =>
    rw [iterate_succ, Places.advance_only, ih, List.replicate_succ,
      show s :: List.replicate n s = [s] ++ List.replicate n s from rfl, begins_append,
      List.drop_drop, Bool.and_assoc]
    simp [Nat.add_assoc, Nat.add_comm 1 n]

/-- More rounds than the text has places lead nowhere, so the bound on them does no harm. -/
theorem walks_rep (s : CharSet) (n : Nat) :
    Walks (.rep (.set s) n (some n)) (List.replicate n s) := by
  intro text k b
  have h : ends text (.rep (.set s) n (some n)) (.only text.length k b) =
      iterate (Places.advance s text) (min n (text.length + 1)) (.only text.length k b) := by
    simp [ends, iterate]
  rw [h, iterate_advance, List.length_replicate]
  by_cases hn : n ≤ text.length + 1
  · rw [Nat.min_eq_left hn]
  · rw [Nat.min_eq_right (by omega)]
    exact Places.only_of_lt (by omega) (by omega) _ _

theorem ends_sequence_append (es fs : List Expression) (text : List Char) (p : Places) :
    (sequence (es ++ fs)).ends text p = (sequence fs).ends text ((sequence es).ends text p) := by
  induction es generalizing p with
  | nil => simp [sequence, ends]
  | cons e es ih => exact ih _

theorem Walks.append {es fs : List Expression} {ss ts : List CharSet}
    (he : (sequence es).Walks ss) (hf : (sequence fs).Walks ts) :
    (sequence (es ++ fs)).Walks (ss ++ ts) := by
  intro text k b
  rw [ends_sequence_append, he, hf, begins_append, List.drop_drop, List.length_append,
    Nat.add_assoc, Bool.and_assoc]

/-- Between the anchors of both ends a chain of sets matches the texts that spell it out. -/
theorem occursIn_anchored {es : List Expression} {ss : List CharSet} (h : (sequence es).Walks ss)
    (text : List Char) :
    (sequence (.look .textStart :: (es ++ [.look .textEnd]))).occursIn text = spells ss text := by
  change ((sequence (es ++ [.look .textEnd])).ends text
    (Places.keep .textStart text (List.replicate (text.length + 1) true))).any id = _
  rw [ends_sequence_append, Places.keep_textStart, h]
  change (Places.keep .textEnd text _).any id = _
  rw [Places.keep_textEnd, Places.any_only, Nat.zero_add, List.drop_zero, spells, Bool.true_and,
    Bool.and_comm]
  by_cases hl : text.length = ss.length
  · simp [hl]
  · simp [hl, Ne.symm hl]

end Expression

end FieldFormats.Pattern
