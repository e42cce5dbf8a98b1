import FieldFormats.Log.Layout
import Mathlib.Data.List.Forall2
import Mathlib.Tactic.Common
/-! # Reading JSON back

A reader of JSON as far as log lines go: texts, whole numbers and objects. Texts may have any of the
escapes of JSON in them, but no control character as it is. What a layout writes reads back. -/
namespace FieldFormats.Log

open FieldFormats.Text

inductive Json where
  | text (cs : List Char)
  | number (digits : List Char)
  | object (members : List (List Char × Json))

namespace Json

def isSpace (c : Char) : Bool :=
  c = ' ' || c = '\n' || c = '\r' || c = '\t'

def skip (cs : List Char) : List Char :=
  cs.dropWhile isSpace

/-- The character that a letter after a backslash stands for. -/
def escaped? : Char → Option Char
  | '"' => some '"'
  | '\\' => some '\\'
  | '/' => some '/'
  | 'b' => some '\x08'
  | 'f' => some '\x0c'
  | 'n' => some '\n'
  | 'r' => some '\r'
  | 't' => some '\t'
  | _ => none

def prepend (c : Char) (read : Option (List Char × List Char)) : Option (List Char × List Char) :=
  read.map fun p => (c :: p.1, p.2)

/-- A text up to its closing quote, and what follows it. A character beyond the sixteen bits of an
escape takes two of them: `high` is the first one, which has to be followed by the second. -/
def readText (high : Option ℕ) : List Char → Option (List Char × List Char)
  | '\\' :: 'u' :: a :: b :: c :: d :: rest =>
    match hexadecimal? [a, b, c, d], high with
    | none, _ => none
    | some unit, none =>
      if 0xd800 ≤ unit ∧ unit < 0xdc00 then readText (some unit) rest
      else if 0xdc00 ≤ unit ∧ unit < 0xe000 then none
      else prepend (Char.ofNat unit) (readText none rest)
    | some unit, some first =>
      if 0xdc00 ≤ unit ∧ unit < 0xe000 then
        prepend (Char.ofNat (0x10000 + (first - 0xd800) * 0x400 + (unit - 0xdc00)))
          (readText none rest)
      else none
  | '\\' :: c :: rest =>
    match escaped? c, high with
    | some d, none => prepend d (readText none rest)
    | _, _ => none
  | '"' :: rest => if high.isSome then none else some ([], rest)
  | c :: rest => if high.isSome ∨ c.toNat < 32 then none else prepend c (readText none rest)
  | [] => none

mutual

/-- A value at the front of a text, and what follows it. As far as `fuel` goes, which the length of
the text is enough for. -/
def readValue (fuel : ℕ) (cs : List Char) : Option (Json × List Char) :=
  match fuel with
  | 0 => none
  | fuel + 1 =>
    match skip cs with
    | '"' :: rest => (readText none rest).map fun p => (.text p.1, p.2)
    | '\x7b' :: rest =>
      match skip rest with
      | '\x7d' :: rest => some (.object [], rest)
      | _ => (readMembers fuel rest).map fun p => (.object p.1, p.2)
    | c :: rest =>
      if c.isDigit then
        some (.number ((c :: rest).takeWhile Char.isDigit), (c :: rest).dropWhile Char.isDigit)
      else none
    | [] => none

/-- Members of an object up to its closing brace. -/
def readMembers (fuel : ℕ) (cs : List Char) : Option (List (List Char × Json) × List Char) :=
  match fuel with
  | 0 => none
  | fuel + 1 =>
    match skip cs with
    | '"' :: rest => do
      let (name, rest) ← readText none rest
      match skip rest with
      | ':' :: rest => do
        let (value, rest) ← readValue fuel rest
        match skip rest with
        | ',' :: rest => do
          let (others, rest) ← readMembers fuel rest
          pure ((name, value) :: others, rest)
        | '\x7d' :: rest => pure ([(name, value)], rest)
        | _ => none
      | _ => none
    | _ => none

end

/-- The value that a whole text is, blanks around it aside. -/
def decode? (cs : List Char) : Option Json :=
  match readValue cs.length cs with
  | some (value, rest) => if skip rest = [] then some value else none
  | none => none

/-- A member of an object by its name. -/
def at? (name : String) : Json → Option Json
  | object members => (members.find? (·.1 = name.toList)).map (·.2)
  | _ => none

theorem readText_plain {c : Char} (hquote : c ≠ '"') (hbackslash : c ≠ '\\') (hc : ¬ c.toNat < 32)
    (rest : List Char) : readText none (c :: rest) = prepend c (readText none rest) := by
  rw [readText]
  · simp [hc]
  · rintro _ _ _ _ _ rfl
    exact absurd rfl hbackslash
  · rintro _ _ rfl
    exact absurd rfl hbackslash
  · rintro rfl
    exact absurd rfl hquote

theorem hexValue?_hexDigit {n : ℕ} (h : n < 16) : hexValue? (hexDigit n) = some n := by
  have hall : ∀ n < 16, hexValue? (hexDigit n) = some n := by decide
  exact hall n h

theorem readText_unit {a b c d : Char} {unit : ℕ} (h : hexadecimal? [a, b, c, d] = some unit)
    (hunit : unit < 0xd800) (rest : List Char) :
    readText none ('\\' :: 'u' :: a :: b :: c :: d :: rest) =
      prepend (Char.ofNat unit) (readText none rest) := by
  rw [readText.eq_def]
  simp only [h]
  rw [if_neg (by omega), if_neg (by omega)]

theorem readText_control {c : Char} (hc : c.toNat < 32) (rest : List Char) :
    readText none ('\\' :: 'u' :: '0' :: '0' :: controlDigits c ++ rest) =
      prepend c (readText none rest) := by
  have hhigh : hexValue? (hexDigit (c.toNat / 16 % 16)) = some (c.toNat / 16 % 16) :=
    hexValue?_hexDigit (Nat.mod_lt _ (by decide))
  have hlow : hexValue? (hexDigit (c.toNat % 16)) = some (c.toNat % 16) :=
    hexValue?_hexDigit (Nat.mod_lt _ (by decide))
  have hunit : hexadecimal? ['0', '0', hexDigit (c.toNat / 16 % 16), hexDigit (c.toNat % 16)] =
      some c.toNat := by
    have hzero : hexValue? '0' = some 0 := rfl
    simp only [hexadecimal?, hexadecimalFrom, hzero, hhigh, hlow, reduceCtorEq, if_false]
    congr 1
    omega
  have hread := readText_unit hunit (by omega) rest
  rwa [Char.ofNat_toNat] at hread

/-- One character is read back, escaped or not. -/
theorem readText_escapeJson (c : Char) (rest : List Char) :
    readText none (escapeJson c ++ rest) = prepend c (readText none rest) := by
  by_cases hquote : c = '"'
  · subst hquote
    rfl
  by_cases hbackslash : c = '\\'
  · subst hbackslash
    rfl
  by_cases hletter : c = '\n' ∨ c = '\r' ∨ c = '\t' ∨ c = '\x08' ∨ c = '\x0c'
  · rcases hletter with rfl | rfl | rfl | rfl | rfl <;> rfl
  simp only [not_or] at hletter
  obtain ⟨hn, hr, ht, hb, hf⟩ := hletter
  unfold escapeJson
  simp only [if_neg hquote, if_neg hbackslash, if_neg hn, if_neg hr, if_neg ht, if_neg hb,
    if_neg hf]
  by_cases hcontrol : c.toNat < 32
  · rw [if_pos hcontrol]
    exact readText_control hcontrol rest
  · rw [if_neg hcontrol]
    exact readText_plain hquote hbackslash hcontrol rest

theorem readText_quoteJson (cs rest : List Char) :
    readText none (cs.flatMap escapeJson ++ '"' :: rest) = some (cs, rest) := by
  induction cs with
  | nil => rfl
  | cons c cs ih =>
    rw [List.flatMap_cons, List.append_assoc, readText_escapeJson, ih]
    rfl

/-- In front of anything but a digit the text reads as the value. -/
def Writes (text : List Char) (value : Json) : Prop :=
  ∀ fuel rest, text.length ≤ fuel → (∀ c ∈ rest.head?, c.isDigit = false) →
    readValue fuel (text ++ rest) = some (value, rest)

theorem exists_fuel {text : List Char} {fuel : ℕ} (hne : text ≠ []) (h : text.length ≤ fuel) :
    ∃ n, fuel = n + 1 :=
  Nat.exists_eq_add_one.2 (Nat.lt_of_lt_of_le (List.length_pos_iff.2 hne) h)

theorem skip_of_not_isSpace {c : Char} (h : isSpace c = false) (cs : List Char) :
    skip (c :: cs) = c :: cs :=
  List.dropWhile_cons_of_neg (by simp [h])

theorem writes_quoteJson (cs : List Char) : Writes (quoteJson cs) (.text cs) := by
  intro fuel rest hfuel _
  obtain ⟨fuel, rfl⟩ := exists_fuel (by simp [quoteJson]) hfuel
  rw [quoteJson, List.cons_append, List.cons_append, List.append_assoc, readValue,
    skip_of_not_isSpace rfl]
  simp only [List.singleton_append, readText_quoteJson, Option.map_some]

theorem span_digits {ds rest : List Char} (hds : ∀ c ∈ ds, c.isDigit = true)
    (hrest : ∀ c ∈ rest.head?, c.isDigit = false) :
    (ds ++ rest).takeWhile Char.isDigit = ds ∧ (ds ++ rest).dropWhile Char.isDigit = rest := by
  rw [List.takeWhile_append_of_pos hds, List.dropWhile_append_of_pos hds]
  cases rest with
  | nil => simp
  | cons c rest =>
    have hc : c.isDigit = false := hrest c rfl
    simp [hc]

theorem writes_numeral (n : ℕ) : Writes (numeral n) (.number (numeral n)) := by
  intro fuel rest hfuel hrest
  have hdigits : ∀ c ∈ numeral n, c.isDigit = true := fun c => isDigit_of_mem_numeral
  obtain ⟨htake, hdrop⟩ := span_digits hdigits hrest
  obtain ⟨d, ds, hnumeral⟩ := List.exists_cons_of_ne_nil (numeral_ne_nil n)
  rw [hnumeral] at hfuel hdigits htake hdrop ⊢
  have hd := hdigits d List.mem_cons_self
  have hspace : isSpace d = false := by
    rw [Bool.eq_false_iff]
    intro hd'
    simp only [isSpace, Bool.or_eq_true, decide_eq_true_eq] at hd'
    rcases hd' with ((rfl | rfl) | rfl) | rfl <;> cases hd
  obtain ⟨fuel, rfl⟩ := exists_fuel (List.cons_ne_nil d ds) hfuel
  rw [List.cons_append] at htake hdrop ⊢
  rw [readValue, skip_of_not_isSpace hspace]
  split
  · next heq =>
    cases heq
    cases hd
  · next heq =>
    cases heq
    cases hd
  · next c tail _ _ heq =>
    cases heq
    rw [if_pos hd, htake, hdrop]
  · next heq => cases heq

/-- The members of an object that is written down. -/
abbrev WritesMembers (ms : List (String × List Char)) (members : List (List Char × Json)) : Prop :=
  List.Forall₂ (fun m n => m.1.toList = n.1 ∧ Writes m.2 n.2) ms members

section Members

variable {k : String} {v tail : List Char} {value : Json} {fuel : ℕ}
  {ms : List (String × List Char)} {members : List (List Char × Json)}

theorem readMembers_member (hv : Writes v value) (hfuel : v.length ≤ fuel)
    (htail : ∀ c ∈ tail.head?, c.isDigit = false) :
    readMembers (fuel + 1) (quoteJson k.toList ++ ':' :: v ++ tail) =
      match skip tail with
      | ',' :: rest => do
        let (others, rest) ← readMembers fuel rest
        pure ((k.toList, value) :: others, rest)
      | '\x7d' :: rest => pure ([(k.toList, value)], rest)
      | _ => none := by
  have hname : quoteJson k.toList ++ ':' :: v ++ tail =
      '"' :: (k.toList.flatMap escapeJson ++ '"' :: ':' :: (v ++ tail)) := by
    simp [quoteJson]
  rw [hname, readMembers, skip_of_not_isSpace rfl]
  simp only [readText_quoteJson, Option.bind_eq_bind, Option.bind_some,
    skip_of_not_isSpace (c := ':') rfl, hv fuel tail hfuel htail]

theorem jsonMembers_cons_cons (k : String) (v : List Char) (m : String × List Char)
    (ms : List (String × List Char)) :
    Layout.jsonMembers ((k, v) :: m :: ms) =
      quoteJson k.toList ++ ':' :: v ++ ',' :: Layout.jsonMembers (m :: ms) :=
  rfl

theorem exists_quote_jsonMembers (m : String × List Char) (ms : List (String × List Char)) :
    ∃ tail, Layout.jsonMembers (m :: ms) = '"' :: tail := by
  obtain ⟨k, v⟩ := m
  cases ms <;> exact ⟨_, rfl⟩

theorem readMembers_jsonMembers (h : WritesMembers ms members) (hne : ms ≠ [])
    (hfuel : (Layout.jsonMembers ms).length ≤ fuel) (rest : List Char) :
    readMembers fuel (Layout.jsonMembers ms ++ '\x7d' :: rest) = some (members, rest) := by
  induction h generalizing fuel with
  | nil => exact absurd rfl hne
  | @cons m n ms members hm hms ih =>
    obtain ⟨k, v⟩ := m
    obtain ⟨name, value⟩ := n
    obtain ⟨rfl, hv⟩ := hm
    obtain ⟨tail, htail⟩ := exists_quote_jsonMembers (k, v) ms
    obtain ⟨fuel, rfl⟩ := exists_fuel (by simp [htail]) hfuel
    cases ms with
    | nil =>
      cases hms
      have hlength : v.length ≤ fuel := by
        simp only [Layout.jsonMembers, List.length_append, List.length_cons] at hfuel
        omega
      rw [Layout.jsonMembers, readMembers_member hv hlength (by simp),
        skip_of_not_isSpace rfl]
      rfl
    | cons m ms =>
      have hlengths : v.length ≤ fuel ∧ (Layout.jsonMembers (m :: ms)).length ≤ fuel := by
        simp only [jsonMembers_cons_cons, List.length_append, List.length_cons] at hfuel
        omega
      have hrest := ih (by simp) hlengths.2
      rw [jsonMembers_cons_cons, List.append_assoc, List.cons_append,
        readMembers_member hv hlengths.1 (by simp), skip_of_not_isSpace rfl]
      simp only [hrest]
      rfl

/-- An object reads as its members, if each of them reads as its own value. -/
theorem writes_jsonObject (h : WritesMembers ms members) :
    Writes (Layout.jsonObject ms) (.object members) := by
  intro fuel rest hfuel _
  obtain ⟨fuel, rfl⟩ := exists_fuel (by simp [Layout.jsonObject]) hfuel
  have hobject : Layout.jsonObject ms ++ rest =
      '\x7b' :: (Layout.jsonMembers ms ++ '\x7d' :: rest) := by
    simp [Layout.jsonObject]
  have hlength : (Layout.jsonMembers ms).length ≤ fuel := by
    simp only [Layout.jsonObject, List.length_append, List.length_cons] at hfuel
    omega
  rw [hobject, readValue, skip_of_not_isSpace rfl]
  cases h with
  | nil => rfl
  | @cons m n ms members hm hms =>
    have hmembers := readMembers_jsonMembers (.cons hm hms) (List.cons_ne_nil _ _) hlength rest
    obtain ⟨tail, htail⟩ := exists_quote_jsonMembers m ms
    rw [htail, List.cons_append] at hmembers ⊢
    simp only [skip_of_not_isSpace (c := '"') rfl, hmembers, Option.map_some]
    rfl

end Members

theorem decode?_of_writes {text : List Char} {value : Json} (h : Writes text value) :
    decode? text = some value := by
  have hread := h text.length [] (Nat.le_refl _) (by simp)
  rw [List.append_nil] at hread
  rw [decode?, hread]
  rfl

end Json

end FieldFormats.Log
