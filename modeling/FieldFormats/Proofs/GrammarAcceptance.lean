import FieldFormats.Iban.WordGrammar
import FieldFormats.Proofs.GrammarReading
import Mathlib.Data.List.Forall2
import Mathlib.Data.List.TakeWhile
/-! # Which texts are grammars

A text is a grammar if each of its pieces writes a token and the tokens have room in an IBAN. The
first piece that breaks this is the one that is reported. Sums of counts stay small on the way,
whatever numerals the text holds. -/
namespace FieldFormats.Iban

open FieldFormats.Text

/-- Digits for the count, with leading zeros or without, and the letter of the class. -/
def Token.WrittenAs (t : Token) (piece : List Char) : Prop :=
  ∃ digits, piece = digits ++ [t.charClass.letter] ∧ digits ≠ [] ∧
    (∀ d ∈ digits, d.isDigit = true) ∧ decimal digits = t.count

namespace Grammar

/-- Pieces that write tokens one by one, each of them for a character at least and all of them for
thirty at most. -/
structure Lists (ps : List (List Char)) (ts : List Token) : Prop where
  written : List.Forall₂ Token.WrittenAs ts ps
  counts : ∀ t ∈ ts, 1 ≤ t.count
  total : totalCount ts ≤ 30

/-- Digits for a count that has room in an IBAN, and then one character that is neither a digit nor
the letter of a class. -/
def StrangeLetter (piece : List Char) (c : Char) : Prop :=
  ∃ digits, piece = digits ++ [c] ∧ digits ≠ [] ∧ (∀ d ∈ digits, d.isDigit = true) ∧
    1 ≤ decimal digits ∧ decimal digits ≤ 30 ∧ c.isDigit = false ∧ c ∉ ['n', 'a', 'c']

/-- The error for a piece at fault: a strange letter is shown by itself, and else the piece is. -/
def Blames (source : String) (piece : List Char) (e : LoadError) : Prop :=
  (∃ c, StrangeLetter piece c ∧ e = .unknownClass c source) ∨
    (∀ c, ¬ StrangeLetter piece c) ∧ e = .invalidToken (String.ofList piece) source

theorem StrangeLetter.unique {piece : List Char} {c d : Char} (hc : StrangeLetter piece c)
    (hd : StrangeLetter piece d) : c = d := by
  obtain ⟨digits, rfl, -⟩ := hc
  obtain ⟨others, hpiece, -⟩ := hd
  exact (List.append_inj' hpiece rfl).2 |> List.singleton_inj.1

theorem Blames.unique {source : String} {piece : List Char} {d e : LoadError}
    (hd : Blames source piece d) (he : Blames source piece e) : d = e := by
  rcases hd with ⟨c, hc, rfl⟩ | ⟨hnone, rfl⟩
  · rcases he with ⟨b, hb, rfl⟩ | ⟨hnone, -⟩
    · rw [hc.unique hb]
    · exact absurd hc (hnone c)
  · rcases he with ⟨b, hb, -⟩ | ⟨-, rfl⟩
    · exact absurd hb (hnone b)
    · rfl

theorem isDigit_letter (k : CharClass) : k.letter.isDigit = false := by
  cases k <;> rfl

theorem ofLetter?_eq_none_iff {c : Char} :
    CharClass.ofLetter? c = none ↔ c ∉ ['n', 'a', 'c'] := by
  unfold CharClass.ofLetter?
  split <;> simp_all

/-- A piece is cut after its leading digits. -/
theorem readToken_append {digits : List Char} {c : Char} (source : String)
    (hdigits : ∀ d ∈ digits, d.isDigit = true) (hc : c.isDigit = false) :
    readToken source (digits ++ [c]) =
      if digits ≠ [] ∧ 1 ≤ decimal digits ∧ decimal digits ≤ 30 then
        match CharClass.ofLetter? c with
        | some k => .ok ⟨decimal digits, k⟩
        | none => .error (.unknownClass c source)
      else .error (.invalidToken (String.ofList (digits ++ [c])) source) := by
  have hneg : ¬ c.isDigit = true := by simp [hc]
  have htake : (digits ++ [c]).takeWhile Char.isDigit = digits := by
    rw [List.takeWhile_append_of_pos hdigits, List.takeWhile_cons_of_neg hneg, List.append_nil]
  have hdrop : (digits ++ [c]).dropWhile Char.isDigit = [c] := by
    rw [List.dropWhile_append_of_pos hdigits, List.dropWhile_cons_of_neg hneg]
  have hroom : (digits = [] ∨ decimal digits = 0 ∨ maxBbanLength < decimal digits) ↔
      ¬ (digits ≠ [] ∧ 1 ≤ decimal digits ∧ decimal digits ≤ 30) := by
    have hmax : maxBbanLength = 30 := rfl
    rw [hmax, not_and_or, not_not, not_and_or, Nat.not_le, Nat.lt_one_iff, Nat.not_le]
  rw [readToken, htake, hdrop]
  exact (if_congr hroom rfl rfl).trans (ite_not ..)

theorem exists_digits_append_or (source : String) (piece : List Char) :
    (∃ digits c, piece = digits ++ [c] ∧ (∀ d ∈ digits, d.isDigit = true) ∧ c.isDigit = false) ∨
      readToken source piece = .error (.invalidToken (String.ofList piece) source) := by
  unfold readToken
  dsimp only
  split
  · next c hc =>
    left
    refine ⟨piece.takeWhile Char.isDigit, c, ?_, fun d => List.mem_takeWhile_imp, ?_⟩
    · rw [← hc, List.takeWhile_append_dropWhile]
    · have hhead := List.dropWhile_get_zero_not Char.isDigit piece (by simp [hc])
      simpa [hc] using hhead
  · exact Or.inr rfl

theorem readToken_eq_ok_iff {source : String} {piece : List Char} {t : Token} :
    readToken source piece = .ok t ↔ t.WrittenAs piece ∧ 1 ≤ t.count ∧ t.count ≤ 30 := by
  constructor
  · intro h
    refine ⟨?_, readToken_count h⟩
    rcases exists_digits_append_or source piece with ⟨digits, c, rfl, hdigits, hc⟩ | hinvalid
    · rw [readToken_append source hdigits hc] at h
      split at h
      · next hroom =>
        split at h
        · next k hk =>
          cases h
          rw [← CharClass.letter_of_ofLetter? hk]
          exact ⟨digits, rfl, hroom.1, hdigits, rfl⟩
        · cases h
      · cases h
    · cases hinvalid.symm.trans h
  · rintro ⟨⟨digits, rfl, hne, hdigits, hcount⟩, hlow, hhigh⟩
    rw [readToken_append source hdigits (isDigit_letter t.charClass), hcount,
      if_pos ⟨hne, hlow, hhigh⟩, CharClass.ofLetter?_letter]

theorem blames_of_readToken {source : String} {piece : List Char} {e : LoadError}
    (h : readToken source piece = .error e) : Blames source piece e := by
  rcases exists_digits_append_or source piece with ⟨digits, c, rfl, hdigits, hc⟩ | hinvalid
  · rw [readToken_append source hdigits hc] at h
    split at h
    · next hroom =>
      obtain ⟨hne, hlow, hhigh⟩ := hroom
      split at h
      · cases h
      · next hnone =>
        cases h
        left
        exact ⟨c, ⟨digits, rfl, hne, hdigits, hlow, hhigh, hc, ofLetter?_eq_none_iff.1 hnone⟩, rfl⟩
    · next hroom =>
      cases h
      refine Or.inr ⟨?_, rfl⟩
      rintro d ⟨others, hpiece, hne, -, hlow, hhigh, -⟩
      obtain ⟨rfl, -⟩ := List.append_inj' hpiece rfl
      exact hroom ⟨hne, hlow, hhigh⟩
  · cases hinvalid.symm.trans h
    refine Or.inr ⟨?_, rfl⟩
    rintro c ⟨digits, rfl, hne, hdigits, hlow, hhigh, hc, -⟩
    rw [readToken_append source hdigits hc, if_pos ⟨hne, hlow, hhigh⟩] at hinvalid
    split at hinvalid <;> cases hinvalid

/-- A token's own piece is not at fault for its letter. -/
theorem not_strangeLetter {t : Token} {piece : List Char} (h : t.WrittenAs piece)
    (c : Char) : ¬ StrangeLetter piece c := by
  obtain ⟨digits, rfl, -⟩ := h
  rintro ⟨others, hpiece, -, -, -, -, -, hc⟩
  obtain ⟨-, hletter⟩ := List.append_inj' hpiece rfl
  rw [← List.singleton_inj.1 hletter] at hc
  cases hclass : t.charClass <;> simp [hclass, CharClass.letter] at hc

theorem readTokens_eq_ok_iff {source : String} {used : ℕ} {ps : List (List Char)}
    {ts : List Token} (hused : used ≤ 30) :
    readTokens source used ps = .ok ts ↔
      List.Forall₂ Token.WrittenAs ts ps ∧ (∀ t ∈ ts, 1 ≤ t.count) ∧ used + totalCount ts ≤ 30 := by
  constructor
  · intro h
    refine ⟨?_, readTokens_legal hused h⟩
    induction ps generalizing used ts with
    | nil =>
      cases h
      exact .nil
    | cons piece rest ih =>
      simp only [readTokens] at h
      split at h
      · cases h
      · next t ht =>
        split at h
        · cases h
        · next hfits =>
          split at h
          · cases h
          · next us hus =>
            cases h
            exact .cons (readToken_eq_ok_iff.1 ht).1 (ih (Nat.le_of_not_lt hfits) hus)
  · rintro ⟨hwritten, hcounts, htotal⟩
    induction hwritten generalizing used with
    | nil => rfl
    | @cons t piece ts rest ht hrest ih =>
      obtain ⟨hcount, hcounts⟩ := List.forall_mem_cons.1 hcounts
      rw [totalCount] at htotal
      have hfits : ¬ maxBbanLength < used + t.count := by
        have hmax : maxBbanLength = 30 := rfl
        omega
      rw [readTokens, readToken_eq_ok_iff.2 ⟨ht, hcount, by omega⟩]
      dsimp only
      rw [if_neg hfits, ih (by omega) hcounts (by omega)]

theorem totalCount_append (ts us : List Token) :
    totalCount (ts ++ us) = totalCount ts + totalCount us := by
  induction ts with
  | nil => simp [totalCount]
  | cons t ts ih => rw [List.cons_append, totalCount, totalCount, ih, Nat.add_assoc]

theorem readTokens_append (source : String) (used : ℕ) (ps qs : List (List Char)) :
    readTokens source used (ps ++ qs) =
      (readTokens source used ps).bind fun ts =>
        (readTokens source (used + totalCount ts) qs).map (ts ++ ·) := by
  induction ps generalizing used with
  | nil =>
    simp only [List.nil_append, readTokens, Except.bind, totalCount, Nat.add_zero]
    cases readTokens source used qs <;> rfl
  | cons piece ps ih =>
    simp only [List.cons_append, readTokens]
    cases readToken source piece with
    | error e => rfl
    | ok t =>
      dsimp only
      split
      · rfl
      · rw [ih]
        cases readTokens source (used + t.count) ps with
        | error e => rfl
        | ok ts =>
          simp only [Except.bind, totalCount, ← Nat.add_assoc]
          cases readTokens source (used + t.count + totalCount ts) qs <;> rfl

theorem readTokens_append_of_ok {source : String} {used : ℕ} {ps : List (List Char)}
    {ts : List Token} (h : readTokens source used ps = .ok ts) (qs : List (List Char)) :
    readTokens source used (ps ++ qs) =
      (readTokens source (used + totalCount ts) qs).map (ts ++ ·) := by
  rw [readTokens_append, h]
  rfl

theorem readTokens_singleton_eq_error {source : String} {used : ℕ} {piece : List Char}
    {e : LoadError} (h : readTokens source used [piece] = .error e) : Blames source piece e := by
  simp only [readTokens] at h
  split at h
  · next d hd =>
    cases h
    exact blames_of_readToken hd
  · next t ht =>
    split at h
    · cases h
      exact Or.inr ⟨not_strangeLetter (readToken_eq_ok_iff.1 ht).1, rfl⟩
    · cases h

theorem exists_faulty_piece {source : String} {used : ℕ} {ps : List (List Char)} {e : LoadError}
    (h : readTokens source used ps = .error e) :
    ∃ before ts piece after, ps = before ++ piece :: after ∧
      readTokens source used before = .ok ts ∧
      readTokens source (used + totalCount ts) [piece] = .error e := by
  -- On the pieces: either the first one is at fault or it is read and the fault comes later.
  induction ps generalizing used with
  | nil => cases h
  | cons piece rest ih =>
    cases hfirst : readTokens source used [piece] with
    | error d =>
      rw [← List.singleton_append, readTokens_append, hfirst] at h
      cases h
      exact ⟨[], [], piece, rest, rfl, rfl, hfirst⟩
    | ok us =>
      rw [← List.singleton_append, readTokens_append_of_ok hfirst] at h
      cases hrest : readTokens source (used + totalCount us) rest with
      | ok vs =>
        rw [hrest] at h
        cases h
      | error d =>
        rw [hrest] at h
        cases h
        obtain ⟨before, ts, other, after, rfl, hbefore, hother⟩ := ih hrest
        refine ⟨piece :: before, us ++ ts, other, after, rfl, ?_, ?_⟩
        · rw [← List.singleton_append, readTokens_append_of_ok hfirst, hbefore]
          rfl
        · rw [totalCount_append, ← Nat.add_assoc]
          exact hother

theorem readTokens_eq_ok_iff_lists {source : String} {ps : List (List Char)} {ts : List Token} :
    readTokens source 0 ps = .ok ts ↔ Lists ps ts := by
  rw [readTokens_eq_ok_iff (Nat.zero_le 30), Nat.zero_add]
  constructor
  · rintro ⟨hwritten, hcounts, htotal⟩
    exact ⟨hwritten, hcounts, htotal⟩
  · rintro ⟨hwritten, hcounts, htotal⟩
    exact ⟨hwritten, hcounts, htotal⟩

theorem parse_eq_ok_iff {source : String} {g : Grammar} :
    parse source = .ok g ↔ g.source = source ∧ Lists (pieces ',' source.toList) g.tokens := by
  rw [← readTokens_eq_ok_iff_lists, parse]
  obtain ⟨text, tokens⟩ := g
  cases readTokens source 0 (pieces ',' source.toList) with
  | error e => simp
  | ok ts =>
    simp only [Except.ok.injEq, Grammar.mk.injEq]
    exact and_congr_left' eq_comm

/-- The pieces before the one at fault are tokens with room in an IBAN; with it they are not. -/
theorem parse_eq_error_iff {source : String} {e : LoadError} :
    parse source = .error e ↔
      ∃ before ts piece after, pieces ',' source.toList = before ++ piece :: after ∧
        Lists before ts ∧ (∀ us, ¬ Lists (before ++ [piece]) us) ∧ Blames source piece e := by
  have hparse : parse source = .error e ↔
      readTokens source 0 (pieces ',' source.toList) = .error e := by
    unfold parse
    cases readTokens source 0 (pieces ',' source.toList) <;> simp
  rw [hparse]
  constructor
  · intro h
    obtain ⟨before, ts, piece, after, hpieces, hbefore, hpiece⟩ := exists_faulty_piece h
    refine ⟨before, ts, piece, after, hpieces, readTokens_eq_ok_iff_lists.1 hbefore, ?_,
      readTokens_singleton_eq_error hpiece⟩
    intro us hus
    rw [← readTokens_eq_ok_iff_lists, readTokens_append_of_ok hbefore, hpiece] at hus
    cases hus
  · rintro ⟨before, ts, piece, after, hpieces, hbefore, hnone, hblames⟩
    replace hbefore : readTokens source 0 before = .ok ts := readTokens_eq_ok_iff_lists.2 hbefore
    cases hpiece : readTokens source (0 + totalCount ts) [piece] with
    | ok us =>
      have hboth : readTokens source 0 (before ++ [piece]) = .ok (ts ++ us) := by
        rw [readTokens_append_of_ok hbefore, hpiece]
        rfl
      exact absurd (readTokens_eq_ok_iff_lists.1 hboth) (hnone (ts ++ us))
    | error d =>
      rw [hblames.unique (readTokens_singleton_eq_error hpiece), hpieces,
        readTokens_append_of_ok hbefore, ← List.singleton_append, readTokens_append, hpiece]
      rfl

theorem writtenAs_text (t : Token) : t.WrittenAs t.text :=
  ⟨numeral t.count, rfl, numeral_ne_nil t.count, fun _ => isDigit_of_mem_numeral,
    decimal_numeral t.count⟩

theorem comma_not_mem_text (t : Token) : ',' ∉ t.text := by
  intro h
  rcases List.mem_append.1 h with h | h
  · exact absurd (isDigit_of_mem_numeral h) (by decide)
  · have hletter := List.mem_singleton.1 h
    cases hclass : t.charClass <;> simp [hclass, CharClass.letter] at hletter

theorem parse_render {ts : List Token} (hne : ts ≠ []) (hcounts : ∀ t ∈ ts, 1 ≤ t.count)
    (htotal : totalCount ts ≤ 30) :
    parse (String.ofList (render ts)) = .ok ⟨String.ofList (render ts), ts⟩ := by
  have hpieces : pieces ',' (render ts) = ts.map Token.text := by
    apply pieces_joined
    · rwa [ne_eq, List.map_eq_nil_iff]
    · intro p hp
      obtain ⟨t, -, rfl⟩ := List.mem_map.1 hp
      exact comma_not_mem_text t
  rw [parse_eq_ok_iff, String.toList_ofList, hpieces]
  refine ⟨rfl, ?_, hcounts, htotal⟩
  rw [List.forall₂_map_right_iff]
  exact List.forall₂_same.2 fun t _ => writtenAs_text t

end Grammar

namespace Word

theorem addCount_ofNat {a b : ℕ} (h : a + b < UInt64.size) :
    addCount (.ofNat a) (.ofNat b) = .ok (.ofNat (a + b)) := by
  rw [addCount, UInt64.toNat_ofNat_of_lt' (by omega), UInt64.toNat_ofNat_of_lt' (by omega),
    if_pos h, UInt64.ofNat_add]

theorem le_ofDigitChars (v : ℕ) (cs : List Char) : v ≤ Nat.ofDigitChars 10 cs v := by
  induction cs generalizing v with
  | nil => exact Nat.le_refl v
  | cons c cs ih =>
    rw [Nat.ofDigitChars_cons]
    have := ih (10 * v + (c.toNat - '0'.toNat))
    omega

theorem appendDigits?_eq {v : ℕ} (hv : v < UInt64.size) (cs : List Char) :
    appendDigits? (.ofNat v) cs =
      if Nat.ofDigitChars 10 cs v < UInt64.size then some (.ofNat (Nat.ofDigitChars 10 cs v))
      else none := by
  -- Digits that follow never make a numeral smaller, so the first step that does not fit decides.
  induction cs generalizing v with
  | nil => rw [appendDigits?, Nat.ofDigitChars_nil, if_pos hv]
  | cons c cs ih =>
    have hswap : v * 10 + (c.toNat - '0'.toNat) = 10 * v + (c.toNat - '0'.toNat) := by omega
    rw [appendDigits?, Nat.ofDigitChars_cons, UInt64.toNat_ofNat_of_lt' hv, hswap]
    split
    · next hfits =>
      rw [← ih hfits, UInt64.ofNat_add, UInt64.ofNat_mul, UInt64.mul_comm]
      rfl
    · next hlarge =>
      have hle := le_ofDigitChars (10 * v + (c.toNat - '0'.toNat)) cs
      rw [if_neg (by omega)]

theorem appendDigits?_zero (digits : List Char) :
    appendDigits? 0 digits =
      if decimal digits < UInt64.size then some (.ofNat (decimal digits)) else none :=
  appendDigits?_eq (by decide) digits

theorem ofNat_eq_zero_iff {n : ℕ} (h : n < UInt64.size) : UInt64.ofNat n = 0 ↔ n = 0 := by
  rw [← UInt64.toNat_inj, UInt64.toNat_ofNat_of_lt' h]
  rfl

theorem max_lt_ofNat_iff {n : ℕ} (h : n < UInt64.size) :
    UInt64.ofNat maxBbanLength < .ofNat n ↔ maxBbanLength < n := by
  rw [UInt64.lt_iff_toNat_lt, UInt64.toNat_ofNat_of_lt' h]
  rfl

theorem readToken_eq (source : String) (piece : List Char) :
    readToken source piece = (Grammar.readToken source piece).map Token.inWord := by
  unfold readToken Grammar.readToken
  dsimp only
  cases piece.dropWhile Char.isDigit with
  | nil => rfl
  | cons letter rest =>
    cases rest with
    | cons other rest => rfl
    | nil =>
      dsimp only
      rw [appendDigits?_zero]
      by_cases hnil : piece.takeWhile Char.isDigit = []
      · rw [if_pos hnil, if_pos (Or.inl hnil)]
        rfl
      · rw [if_neg hnil]
        by_cases hsize : decimal (piece.takeWhile Char.isDigit) < UInt64.size
        · rw [if_pos hsize]
          dsimp only
          simp only [ofNat_eq_zero_iff hsize, max_lt_ofNat_iff hsize, hnil, false_or]
          split
          · rfl
          · cases CharClass.ofLetter? letter <;> rfl
        · have hlarge : maxBbanLength < decimal (piece.takeWhile Char.isDigit) := by
            have hmax : maxBbanLength = 30 := rfl
            have hbound : UInt64.size = 18446744073709551616 := rfl
            omega
          rw [if_neg hsize, if_pos (Or.inr (Or.inr hlarge))]
          rfl

/-- The sum so far is thirty at most and so is every count, which leaves room in a word. -/
theorem readTokens_eq (source : String) {used : ℕ} (hused : used ≤ maxBbanLength)
    (ps : List (List Char)) :
    readTokens source (.ofNat used) ps =
      ((Grammar.readTokens source used ps).map (·.map Token.inWord)).mapError .refused := by
  induction ps generalizing used with
  | nil => rfl
  | cons piece rest ih =>
    rw [readTokens, readToken_eq, Grammar.readTokens]
    cases hpiece : Grammar.readToken source piece with
    | error e => rfl
    | ok t =>
      have hcount := (Grammar.readToken_count hpiece).2
      have hfits : used + t.count < UInt64.size := by
        have hmax : maxBbanLength = 30 := rfl
        have hbound : UInt64.size = 18446744073709551616 := rfl
        omega
      change (addCount (.ofNat used) (.ofNat t.count)).bind _ = _
      rw [addCount_ofNat hfits]
      change (if UInt64.ofNat maxBbanLength < .ofNat (used + t.count) then _ else _) = _
      dsimp only
      rw [if_congr (max_lt_ofNat_iff hfits) rfl rfl]
      split
      · rfl
      · next hroom =>
        rw [ih (Nat.le_of_not_lt hroom)]
        cases Grammar.readTokens source (used + t.count) rest <;> rfl

theorem parse_eq (source : String) :
    parse source = ((Grammar.parse source).map (·.tokens.map Token.inWord)).mapError .refused := by
  have hread := readTokens_eq source (Nat.zero_le maxBbanLength) (pieces ',' source.toList)
  rw [parse, Grammar.parse]
  refine hread.trans ?_
  cases Grammar.readTokens source 0 (pieces ',' source.toList) <;> rfl

end Word

/-- A text is a grammar exactly if its pieces list tokens, which are then the tokens of the grammar.
Else the error is for the first piece that breaks the list. Words of 64 bits give the same answers,
and no sum in them is too large. What is written from tokens is read back as these tokens. -/
theorem Grammar.parse_exact :
    (∀ source : String,
      (∀ g, parse source = .ok g ↔ g.source = source ∧ Lists (pieces ',' source.toList) g.tokens) ∧
      (∀ e, parse source = .error e ↔
        ∃ before ts piece after, pieces ',' source.toList = before ++ piece :: after ∧
          Lists before ts ∧ (∀ us, ¬ Lists (before ++ [piece]) us) ∧ Blames source piece e) ∧
      Word.parse source =
        ((parse source).map (·.tokens.map Token.inWord)).mapError .refused) ∧
    ∀ ts, ts ≠ [] → (∀ t ∈ ts, 1 ≤ t.count) → totalCount ts ≤ 30 →
      parse (String.ofList (render ts)) = .ok ⟨String.ofList (render ts), ts⟩ := by
  refine ⟨fun source => ⟨?_, ?_, Word.parse_eq source⟩, ?_⟩
  · exact fun g => parse_eq_ok_iff
  · exact fun e => parse_eq_error_iff
  · exact fun ts hne hcounts htotal => parse_render hne hcounts htotal

theorem Grammar.parse_exact_leadingZeros :
    parse "004a,10n" = .ok ⟨"004a,10n", [⟨4, .upper⟩, ⟨10, .digit⟩]⟩ ∧
      String.ofList (render [⟨4, .upper⟩, ⟨10, .digit⟩]) = "4a,10n" ∧
      parse "4a,10n" = .ok ⟨"4a,10n", [⟨4, .upper⟩, ⟨10, .digit⟩]⟩ := by
  have hcounts : ∀ t ∈ [(⟨4, .upper⟩ : Token), ⟨10, .digit⟩], 1 ≤ t.count := by simp
  have htotal : totalCount [⟨4, .upper⟩, ⟨10, .digit⟩] ≤ 30 := by decide
  have hrender : String.ofList (render [⟨4, .upper⟩, ⟨10, .digit⟩]) = "4a,10n" := by
    decide +kernel
  have hpieces : pieces ',' "004a,10n".toList = [['0', '0', '4', 'a'], ['1', '0', 'n']] := by
    decide +kernel
  have hupper : Token.WrittenAs ⟨4, .upper⟩ ['0', '0', '4', 'a'] :=
    ⟨['0', '0', '4'], rfl, by simp, List.all_eq_true.1 rfl, rfl⟩
  have hdigit : Token.WrittenAs ⟨10, .digit⟩ ['1', '0', 'n'] :=
    ⟨['1', '0'], rfl, by simp, List.all_eq_true.1 rfl, rfl⟩
  obtain ⟨hreads, hwrites⟩ := parse_exact
  refine ⟨((hreads _).1 _).2 ⟨rfl, ?_⟩, hrender, ?_⟩
  · rw [hpieces]
    exact ⟨.cons hupper (.cons hdigit .nil), hcounts, htotal⟩
  · have hparse := hwrites _ (List.cons_ne_nil _ _) hcounts htotal
    rwa [hrender] at hparse

end FieldFormats.Iban
