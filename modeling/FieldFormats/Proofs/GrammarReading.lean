import FieldFormats.Iban.Grammar
import Mathlib.Tactic.Common
/-! # Grammars that were read

What reading a grammar ensures, whatever its text: the counts are positive, and the BBANs that it
describes are not too long for an IBAN. -/
namespace FieldFormats.Iban.Grammar

/-- Each token stands for one character at least, and all of them for no more than an IBAN has
room for. -/
structure Legal (g : Grammar) : Prop where
  counts : ∀ t ∈ g.tokens, 1 ≤ t.count
  width : g.width ≤ maxBbanLength

theorem readToken_count {source : String} {piece : List Char} {t : Token}
    (h : readToken source piece = .ok t) : 1 ≤ t.count ∧ t.count ≤ maxBbanLength := by
  unfold readToken at h
  dsimp only at h
  split at h
  · split at h
    · cases h
    · rename_i hcount
      split at h
      · cases h
        obtain ⟨-, hzero, hmax⟩ := not_or.1 hcount |>.imp_right not_or.1
        exact ⟨Nat.pos_of_ne_zero hzero, Nat.le_of_not_lt hmax⟩
      · cases h
  · cases h

theorem readTokens_legal {source : String} {pieces : List (List Char)} {used : ℕ}
    {ts : List Token} (hu : used ≤ maxBbanLength) (h : readTokens source used pieces = .ok ts) :
    (∀ t ∈ ts, 1 ≤ t.count) ∧ used + totalCount ts ≤ maxBbanLength := by
  -- The running total is the invariant: it never passes the length of the longest BBAN.
  induction pieces generalizing used ts with
  | nil =>
    cases h
    simpa [totalCount] using hu
  | cons piece rest ih =>
    simp only [readTokens] at h
    split at h
    · cases h
    · rename_i t ht
      split at h
      · cases h
      · rename_i hfits
        split at h
        · cases h
        · rename_i us hus
          cases h
          obtain ⟨hcounts, htotal⟩ := ih (by omega) hus
          constructor
          · intro u hmem
            rcases List.mem_cons.1 hmem with rfl | hmem
            · exact (readToken_count ht).1
            · exact hcounts u hmem
          · rw [totalCount]
            omega

theorem parse_legal {source : String} {g : Grammar} (h : parse source = .ok g) : g.Legal := by
  unfold parse at h
  split at h
  · cases h
  · rename_i ts hts
    cases h
    obtain ⟨hcounts, htotal⟩ := readTokens_legal (Nat.zero_le _) hts
    rw [Nat.zero_add] at htotal
    exact ⟨hcounts, htotal⟩

theorem source_of_parse {source : String} {g : Grammar} (h : parse source = .ok g) :
    g.source = source := by
  unfold parse at h
  split at h
  · cases h
  · cases h
    rfl

theorem readTokens_ne_nil {source : String} {pieces : List (List Char)} {used : ℕ}
    {ts : List Token} (hne : pieces ≠ []) (h : readTokens source used pieces = .ok ts) :
    ts ≠ [] := by
  obtain ⟨piece, rest, rfl⟩ := List.exists_cons_of_ne_nil hne
  simp only [readTokens] at h
  split at h
  · cases h
  · split at h
    · cases h
    · split at h
      · cases h
      · cases h
        simp

/-- A text has a piece at least, so a grammar has a token at least. -/
theorem one_le_width_of_parse {source : String} {g : Grammar} (h : parse source = .ok g) :
    1 ≤ g.width := by
  have hlegal := parse_legal h
  unfold parse at h
  split at h
  · cases h
  · next ts hts =>
    cases h
    obtain ⟨t, ts, rfl⟩ := List.exists_cons_of_ne_nil (readTokens_ne_nil (Text.pieces_ne_nil _ _) hts)
    have hcount := hlegal.counts t List.mem_cons_self
    have hle := count_le_totalCount (List.mem_cons_self : t ∈ t :: ts)
    exact Nat.le_trans hcount hle

/-- An error about a grammar: it shows the grammar, and the token or the letter at fault. -/
inductive Refuses (source : String) : LoadError → Prop where
  | token (piece : String) : Refuses source (.invalidToken piece source)
  | letter (c : Char) : Refuses source (.unknownClass c source)

theorem refuses_of_readToken {source : String} {piece : List Char} {e : LoadError}
    (h : readToken source piece = .error e) : Refuses source e := by
  unfold readToken at h
  dsimp only at h
  split at h
  · split at h
    · cases h
      exact .token _
    · split at h
      · cases h
      · cases h
        exact .letter _
  · cases h
    exact .token _

theorem refuses_of_readTokens {source : String} {pieces : List (List Char)} {used : ℕ}
    {e : LoadError} (h : readTokens source used pieces = .error e) : Refuses source e := by
  induction pieces generalizing used with
  | nil => cases h
  | cons piece rest ih =>
    simp only [readTokens] at h
    split at h
    · next d hd =>
      cases h
      exact refuses_of_readToken hd
    · split at h
      · cases h
        exact .token _
      · split at h
        · next d hd =>
          cases h
          exact ih hd
        · cases h

theorem refuses_of_parse {source : String} {e : LoadError} (h : parse source = .error e) :
    Refuses source e := by
  unfold parse at h
  split at h
  · next d hd =>
    cases h
    exact refuses_of_readTokens hd
  · cases h

end FieldFormats.Iban.Grammar
