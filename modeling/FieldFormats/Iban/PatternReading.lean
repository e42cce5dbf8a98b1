import FieldFormats.Iban.Pattern
import FieldFormats.Pattern.Matching
import FieldFormats.Pattern.Reading
/-! # The meaning of IBAN patterns

The pattern that a grammar writes for a country code without special characters is read back as a
sequence: the start of the text, the characters of the code, two digits, the characters that the
tokens describe, and the end of the text. It accepts the texts that spell out these characters.
-/
namespace FieldFormats.Iban

open FieldFormats.Text FieldFormats.Pattern

namespace CharClass

/-- The lexemes of the class in brackets. -/
def lexemes (k : CharClass) : List Lexeme :=
  .setOpen false :: k.ranges.map (fun r => .setRange ⟨r.1, false⟩ ⟨r.2, false⟩) ++ [.setClose]

/-- The class as a set. -/
def set : CharClass → CharSet
  | digit => .ranges [('0', '9')]
  | upper => .ranges [('A', 'Z')]
  | alphanumeric => .union (.ranges [('A', 'Z')]) (.ranges [('0', '9')])

/-- So many characters of the class. -/
def part (k : CharClass) (n : Nat) : Measured :=
  (Measured.ofSet k.set (if k = alphanumeric then 2 else 1)).rep n (some n)

theorem contains_set (k : CharClass) (c : Char) : k.set.contains c = k.admits c := by
  have hd : c.isDigit = (decide ('0' ≤ c) && decide (c ≤ '9')) := rfl
  have hu : c.isUpper = (decide ('A' ≤ c) && decide (c ≤ 'Z')) := Bool.decide_and _ _
  cases k <;> simp [set, CharSet.contains, admits, hd, hu]

theorem readAll_bracketed (k : CharClass) (cs : List Char) :
    Reader.readAll {} (k.bracketed ++ cs) = (Reader.readAll {} cs).map (k.lexemes ++ ·) := by
  cases k with
  | digit =>
    change Reader.readAll {} ('[' :: '0' :: '-' :: '9' :: ']' :: cs) = _
    rw [Reader.readAll_setOpen (by decide),
      Reader.readAll_of_next (s := .inBrackets) rfl (by simp),
      Reader.readAll_of_next (s := {}) rfl (Nat.le_refl _)]
    simp [Function.comp_def, lexemes, ranges]
  | upper =>
    change Reader.readAll {} ('[' :: 'A' :: '-' :: 'Z' :: ']' :: cs) = _
    rw [Reader.readAll_setOpen (by decide),
      Reader.readAll_of_next (s := .inBrackets) rfl (by simp),
      Reader.readAll_of_next (s := {}) rfl (Nat.le_refl _)]
    simp [Function.comp_def, lexemes, ranges]
  | alphanumeric =>
    change Reader.readAll {} ('[' :: 'A' :: '-' :: 'Z' :: '0' :: '-' :: '9' :: ']' :: cs) = _
    rw [Reader.readAll_setOpen (by decide),
      Reader.readAll_of_next (s := .inBrackets) rfl (by simp),
      Reader.readAll_of_next (s := .inBrackets) rfl (by simp),
      Reader.readAll_of_next (s := {}) rfl (Nat.le_refl _)]
    simp [Function.comp_def, lexemes, ranges]

theorem addAll_lexemes (xs : List Measured) (k : CharClass) (n : Nat) :
    (Assembly.ofParts xs).addAll (k.lexemes ++ [.repetition n (some n)]) =
      some (Assembly.ofParts (xs ++ [k.part n])) := by
  simp only [Assembly.ofParts, List.map_append, List.reverse_append]
  cases k <;> rfl

theorem nesting_part_le (k : CharClass) (n : Nat) : (k.part n).nesting ≤ 3 := by
  cases k <;> simp [part, Measured.rep, Measured.ofSet]

theorem room_part_le (k : CharClass) {n : Nat} (h : 1 ≤ n) : (k.part n).room ≤ 112 * n := by
  cases k <;> simp [part, set, Measured.rep, Measured.ofSet, Expression.isWidthless, CharSet.room,
    rangeRoom, stateRoom] <;> omega

end CharClass

namespace Grammar

/-- The tokens of a grammar in the notation of patterns, up to the end of the text. -/
def tail (ts : List Token) : List Char :=
  ts.flatMap (fun t => t.charClass.bracketed ++ repeated t.count) ++ ['$']

/-- The lexemes of tokens. -/
def tokenLexemes (ts : List Token) : List Lexeme :=
  ts.flatMap fun t => t.charClass.lexemes ++ [.repetition t.count (some t.count)]

/-- The lexemes of a pattern. -/
def lexemes (g : Grammar) (country : List Char) : List Lexeme :=
  [.anchor .caret] ++ (country.map (fun c => .literal ⟨c, false⟩) ++
    ((CharClass.digit.lexemes ++ [.repetition 2 (some 2)]) ++
      (tokenLexemes g.tokens ++ [.anchor .dollar])))

/-- The parts of a pattern between the ends of the text. -/
def innerParts (g : Grammar) (country : List Char) : List Measured :=
  country.map .ofChar ++
    (CharClass.digit.part 2 :: g.tokens.map fun t => t.charClass.part t.count)

/-- The parts of a pattern. -/
def parts (g : Grammar) (country : List Char) : List Measured :=
  .ofLook .textStart :: (g.innerParts country ++ [.ofLook .textEnd])

theorem dropLazy_tail (ts : List Token) : dropLazy (tail ts) = tail ts := by
  match ts with
  | [] => rfl
  | ⟨_, k⟩ :: _ => cases k <;> rfl

theorem readAll_tail {ts : List Token} (h : ∀ t ∈ ts, t.count < countBound) :
    Reader.readAll {} (tail ts) = some (tokenLexemes ts ++ [.anchor .dollar]) := by
  induction ts with
  | nil => exact Reader.readAll_dollar
  | cons t ts ih =>
    have hs : tail (t :: ts) =
        t.charClass.bracketed ++ ('\x7b' :: numeral t.count ++ '\x7d' :: tail ts) := by
      simp [tail, repeated]
    rw [hs, CharClass.readAll_bracketed,
      Reader.readAll_braces (h t (by simp)) (dropLazy_tail ts), ih fun u hu => h u (by simp [hu])]
    simp [tokenLexemes]

theorem readAll_pattern (g : Grammar) {country : List Char}
    (hc : ∀ c ∈ country, c ∉ Reader.specials) (ht : ∀ t ∈ g.tokens, t.count < countBound) :
    Reader.readAll {} (g.pattern country) = some (g.lexemes country) := by
  have hs : g.pattern country = '^' :: (country ++ (CharClass.digit.bracketed ++
      ('\x7b' :: numeral 2 ++ '\x7d' :: tail g.tokens))) := by
    simp [pattern, tail, repeated]
  rw [hs, Reader.readAll_caret, Reader.readAll_literals hc, CharClass.readAll_bracketed,
    Reader.readAll_braces (by decide) (dropLazy_tail _), readAll_tail ht]
  simp [lexemes]

theorem addAll_tokenLexemes (xs : List Measured) (ts : List Token) :
    (Assembly.ofParts xs).addAll (tokenLexemes ts) =
      some (Assembly.ofParts (xs ++ ts.map fun t => t.charClass.part t.count)) := by
  induction ts generalizing xs with
  | nil => simp [tokenLexemes, Assembly.addAll]
  | cons t ts ih =>
    rw [tokenLexemes, List.flatMap_cons, Assembly.addAll_append, CharClass.addAll_lexemes]
    exact (ih _).trans (by simp)

theorem addAll_lexemes (g : Grammar) (country : List Char) :
    Assembly.addAll {} (g.lexemes country) = some (Assembly.ofParts (g.parts country)) := by
  rw [lexemes, Assembly.addAll_append, Assembly.addAll_caret, Option.bind_some,
    Assembly.addAll_append, Assembly.addAll_literals, Option.bind_some, Assembly.addAll_append,
    CharClass.addAll_lexemes, Option.bind_some, Assembly.addAll_append, addAll_tokenLexemes,
    Option.bind_some, Assembly.addAll_dollar]
  simp [parts, innerParts]

theorem nesting_le_of_mem_parts {g : Grammar} {country : List Char} {x : Measured}
    (h : x ∈ g.parts country) : x.nesting ≤ 3 := by
  simp only [parts, innerParts, List.mem_cons, List.mem_append, List.mem_map, List.not_mem_nil,
    or_false] at h
  rcases h with rfl | (⟨c, _, rfl⟩ | rfl | ⟨t, _, rfl⟩) | rfl
  · exact Nat.zero_le _
  · exact Nat.zero_le _
  · exact CharClass.nesting_part_le _ _
  · exact CharClass.nesting_part_le _ _
  · exact Nat.zero_le _

theorem nesting_sequence_parts_le (g : Grammar) (country : List Char) :
    (Measured.sequence ((g.parts country).map some)).nesting ≤ 4 :=
  Measured.nesting_sequence_le fun _ => nesting_le_of_mem_parts

theorem totalRoom_tokens_le {ts : List Token} (h : ∀ t ∈ ts, 1 ≤ t.count) :
    Measured.totalRoom (ts.map fun t => t.charClass.part t.count) ≤ 112 * totalCount ts := by
  induction ts with
  | nil => exact Nat.le_refl _
  | cons t ts ih =>
    have ht := t.charClass.room_part_le (h t (by simp))
    have hs := ih fun u hu => h u (by simp [hu])
    simp only [Measured.totalRoom, List.map_cons, List.foldr_cons, totalCount] at hs ⊢
    omega

theorem room_sequence_parts_le {g : Grammar} (h : ∀ t ∈ g.tokens, 1 ≤ t.count)
    (country : List Char) :
    (Measured.sequence ((g.parts country).map some)).room ≤
      288 + 128 * country.length + 112 * g.width := by
  have hc := Measured.totalRoom_literals_le country
  have hd := CharClass.digit.room_part_le (n := 2) (by decide)
  have ht := totalRoom_tokens_le h
  rw [Measured.room_sequence (by simp [parts]), parts, innerParts, Measured.totalRoom_cons,
    Measured.totalRoom_append, Measured.totalRoom_append, Measured.totalRoom_cons,
    Measured.totalRoom_cons]
  simp only [width, Measured.totalRoom, Measured.ofLook, stateRoom, List.foldr_nil] at hc ht ⊢
  omega

/-- A grammar's pattern for a short country code is within the limits, and it means the sequence of
its parts. -/
theorem compile?_pattern {g : Grammar} {country : List Char}
    (hc : ∀ c ∈ country, c ∉ Reader.specials) (hl : country.length ≤ 2)
    (ht : ∀ t ∈ g.tokens, 1 ≤ t.count) (hw : g.width ≤ maxBbanLength) :
    Pattern.compile? (g.pattern country) =
      some ⟨String.ofList (g.pattern country),
        .sequence ((g.parts country).map (·.expression))⟩ := by
  have hb : maxBbanLength = 30 := rfl
  have hr := room_sequence_parts_le ht country
  have hn := nesting_sequence_parts_le g country
  have hx : (Measured.sequence ((g.parts country).map some)).isWithinLimits = true := by
    rw [Measured.isWithinLimits, Bool.and_eq_true, decide_eq_true_iff, decide_eq_true_iff]
    simp only [nestingLimit, roomLimit, stateRoom]
    omega
  have hread : read? (g.pattern country) = some (.sequence ((g.parts country).map some)) := by
    have hcount : ∀ t ∈ g.tokens, t.count < countBound := fun t h => by
      have : t.count ≤ g.width := count_le_totalCount h
      simp only [countBound]
      omega
    simp only [read?, readAll_pattern g hc hcount, addAll_lexemes, Assembly.whole_ofParts,
      Option.bind_eq_bind, Option.bind_some]
    exact if_pos (Nat.le_trans hn (by decide))
  simp only [Pattern.compile?, hread, hx, if_true]
  simp [Measured.sequence]

/-- The sets that the characters of an IBAN have to be in, one for each position. -/
def sets (g : Grammar) (country : List Char) : List CharSet :=
  country.map .single ++ (List.replicate 2 CharClass.digit.set ++ g.positions.map CharClass.set)

theorem walks_literals (country : List Char) :
    (Expression.sequence ((country.map Measured.ofChar).map (·.expression))).Walks
      (country.map .single) := by
  induction country with
  | nil => exact Expression.walks_empty
  | cons c country ih => exact (Expression.walks_set (.single c)).seq ih

theorem walks_tokens (ts : List Token) :
    (Expression.sequence
      ((ts.map fun t => t.charClass.part t.count).map (·.expression))).Walks
      ((ts.flatMap fun t => List.replicate t.count t.charClass).map CharClass.set) := by
  induction ts with
  | nil => exact Expression.walks_empty
  | cons t ts ih =>
    have h := (Expression.walks_rep t.charClass.set t.count).seq ih
    rw [List.flatMap_cons, List.map_append, List.map_replicate]
    exact h

/-- A pattern accepts the texts with the code, two digits, and a character of the right class at
each further position. -/
theorem occursIn_parts (g : Grammar) (country cs : List Char) :
    (Expression.sequence ((g.parts country).map (·.expression))).occursIn cs =
      spells (g.sets country) cs := by
  have hd : (Expression.sequence ((CharClass.digit.part 2 ::
      g.tokens.map fun t => t.charClass.part t.count).map (·.expression))).Walks
      (List.replicate 2 CharClass.digit.set ++ g.positions.map CharClass.set) :=
    (Expression.walks_rep CharClass.digit.set 2).seq (walks_tokens g.tokens)
  have h := (walks_literals country).append hd
  rw [← List.map_append] at h
  rw [parts, List.map_cons, List.map_append]
  exact Expression.occursIn_anchored h cs

end Grammar

end FieldFormats.Iban
