import FieldFormats.Iban.PatternReading
import FieldFormats.Proofs.AsciiText
import FieldFormats.Proofs.GrammarReading
import Mathlib.Data.List.Forall2
/-! # Compiled grammars

The pattern of a grammar that was read, compiled for a country code of two capital letters. A
pattern is independent of how it was written: what it accepts is said here run by run and
position by position, without the notation of patterns. -/
namespace FieldFormats.Iban

open FieldFormats.Text FieldFormats.Pattern

theorem forall₂_append_iff {α β : Type} {R : α → β → Prop} {as bs : List α} {cs : List β} :
    List.Forall₂ R (as ++ bs) cs ↔
      ∃ ds es, cs = ds ++ es ∧ List.Forall₂ R as ds ∧ List.Forall₂ R bs es := by
  constructor
  · intro h
    induction as generalizing cs with
    | nil => exact ⟨[], cs, rfl, .nil, h⟩
    | cons a as ih =>
      obtain ⟨c, rest, hc, hrest, rfl⟩ := List.forall₂_cons_left_iff.1 h
      obtain ⟨ds, es, rfl, hds, hes⟩ := ih hrest
      exact ⟨c :: ds, es, rfl, .cons hc hds, hes⟩
  · rintro ⟨ds, es, rfl, hds, hes⟩
    exact List.rel_append hds hes

/-- The characters of a text are of the given classes, position by position. -/
def Fits (ks : List CharClass) (cs : List Char) : Prop :=
  List.Forall₂ (fun k c => k.admits c = true) ks cs

theorem fits_length {ks : List CharClass} {cs : List Char} (h : Fits ks cs) :
    cs.length = ks.length :=
  h.length_eq.symm

theorem isPlain_of_admits {k : CharClass} {c : Char} (h : k.admits c = true) : IsPlain c := by
  cases k with
  | digit => exact Or.inr h
  | upper => exact Or.inl h
  | alphanumeric => exact Bool.or_eq_true_iff.1 h

theorem isPlain_of_fits {ks : List CharClass} {cs : List Char} (h : Fits ks cs) :
    ∀ c ∈ cs, IsPlain c := by
  induction h with
  | nil => simp
  | cons hc _ ih => exact List.forall_mem_cons.2 ⟨isPlain_of_admits hc, ih⟩

theorem fits_replicate_iff {n : ℕ} {k : CharClass} {cs : List Char} :
    Fits (List.replicate n k) cs ↔ cs.length = n ∧ ∀ c ∈ cs, k.admits c = true := by
  constructor
  · intro h
    refine ⟨by simpa using fits_length h, ?_⟩
    induction n generalizing cs with
    | zero =>
      rw [List.forall₂_nil_left_iff.1 h]
      simp
    | succ n ih =>
      obtain ⟨c, rest, hc, hrest, rfl⟩ := List.forall₂_cons_left_iff.1 h
      intro d hd
      rcases List.mem_cons.1 hd with rfl | hd
      · exact hc
      · exact ih hrest d hd
  · rintro ⟨rfl, h⟩
    induction cs with
    | nil => exact .nil
    | cons c cs ih =>
      exact .cons (h c (by simp)) (ih fun d hd => h d (by simp [hd]))

/-- A text made of one run of characters for each token: as many of its class as it says. -/
inductive Runs : List Token → List Char → Prop where
  | nil : Runs [] []
  | cons {t ts run rest} (length : run.length = t.count)
      (members : ∀ c ∈ run, t.charClass.admits c = true) (more : Runs ts rest) :
      Runs (t :: ts) (run ++ rest)

theorem runs_iff_fits {ts : List Token} {cs : List Char} :
    Runs ts cs ↔ Fits (ts.flatMap fun t => List.replicate t.count t.charClass) cs := by
  constructor
  · intro h
    induction h with
    | nil => exact .nil
    | cons hl hm _ ih => exact List.rel_append (fits_replicate_iff.2 ⟨hl, hm⟩) ih
  · intro h
    induction ts generalizing cs with
    | nil =>
      rw [List.forall₂_nil_left_iff.1 h]
      exact .nil
    | cons t ts ih =>
      obtain ⟨run, rest, rfl, hrun, hrest⟩ := forall₂_append_iff.1 h
      obtain ⟨hl, hm⟩ := fits_replicate_iff.1 hrun
      exact .cons hl hm (ih hrest)

namespace Grammar

/-- The country code, two check digits, the run of each token in turn, and nothing else. -/
def Describes (g : Grammar) (country cs : List Char) : Prop :=
  ∃ check bban, cs = country ++ check ++ bban ∧
    (check.length = 2 ∧ ∀ c ∈ check, c.isDigit = true) ∧ Runs g.tokens bban

theorem describes_iff_fits {g : Grammar} {country cs : List Char} :
    g.Describes country cs ↔ ∃ check bban, cs = country ++ check ++ bban ∧
      (check.length = 2 ∧ ∀ c ∈ check, c.isDigit = true) ∧ Fits g.positions bban := by
  simp only [Describes, runs_iff_fits, positions]

theorem describes_length {g : Grammar} {country cs : List Char} (h : g.Describes country cs) :
    cs.length = country.length + 2 + g.width := by
  obtain ⟨check, bban, rfl, ⟨hcheck, -⟩, hbban⟩ := describes_iff_fits.1 h
  have hlength := fits_length hbban
  rw [length_positions] at hlength
  simp only [List.length_append]
  omega

end Grammar

theorem spells_iff {ss : List CharSet} {cs : List Char} :
    spells ss cs = true ↔ List.Forall₂ (fun s c => s.contains c = true) ss cs := by
  induction ss generalizing cs with
  | nil => simp [spells, begins]
  | cons s ss ih =>
    cases cs with
    | nil => simp [spells]
    | cons c cs =>
      rw [List.forall₂_cons, ← ih]
      simp only [spells, begins, List.length_cons, Nat.add_right_cancel_iff, Bool.and_eq_true,
        decide_eq_true_eq]
      tauto

theorem contains_single {c d : Char} : (CharSet.single c).contains d = true ↔ c = d := by
  simp only [CharSet.single, CharSet.contains, List.any_cons, List.any_nil, Bool.or_false,
    Bool.and_eq_true, decide_eq_true_eq]
  constructor
  · rintro ⟨hcd, hdc⟩
    exact Char.le_antisymm hcd hdc
  · rintro rfl
    exact ⟨Char.le_refl _, Char.le_refl _⟩

theorem forall₂_singles_iff {country ds : List Char} :
    List.Forall₂ (fun s c => CharSet.contains s c = true) (country.map .single) ds ↔
      ds = country := by
  rw [List.forall₂_map_left_iff]
  simp only [contains_single, List.forall₂_eq_eq_eq]
  exact eq_comm

theorem forall₂_sets_iff {ks : List CharClass} {cs : List Char} :
    List.Forall₂ (fun s c => CharSet.contains s c = true) (ks.map CharClass.set) cs ↔
      Fits ks cs := by
  rw [List.forall₂_map_left_iff]
  simp only [CharClass.contains_set, Fits]

namespace Grammar

theorem spells_sets_iff {g : Grammar} {country cs : List Char} :
    spells (g.sets country) cs = true ↔ g.Describes country cs := by
  rw [spells_iff, sets, forall₂_append_iff, describes_iff_fits]
  constructor
  · rintro ⟨ds, es, rfl, hds, hes⟩
    obtain ⟨check, bban, rfl, hcheck, hbban⟩ := forall₂_append_iff.1 hes
    rw [← List.map_replicate, forall₂_sets_iff, fits_replicate_iff] at hcheck
    refine ⟨check, bban, ?_, hcheck, forall₂_sets_iff.1 hbban⟩
    rw [forall₂_singles_iff.1 hds, List.append_assoc]
  · rintro ⟨check, bban, rfl, hcheck, hbban⟩
    refine ⟨country, check ++ bban, List.append_assoc _ _ _, forall₂_singles_iff.2 rfl, ?_⟩
    refine List.rel_append ?_ (forall₂_sets_iff.2 hbban)
    rw [← List.map_replicate, forall₂_sets_iff, fits_replicate_iff]
    exact hcheck

end Grammar

/-- Two capital letters of ASCII. -/
structure IsCountryCode (country : List Char) : Prop where
  length : country.length = 2
  capitals : ∀ c ∈ country, c.isUpper = true

theorem not_mem_specials {c : Char} (h : c.isUpper = true) : c ∉ Reader.specials := by
  intro hmem
  have hall : Reader.specials.all (fun d => !d.isUpper) = true := rfl
  have hc := List.all_eq_true.1 hall c hmem
  rw [h] at hc
  cases hc

namespace Grammar

variable {g : Grammar} {country : List Char}

theorem isPlain_of_describes (hc : IsCountryCode country) {cs : List Char}
    (h : g.Describes country cs) : ∀ c ∈ cs, IsPlain c := by
  obtain ⟨check, bban, rfl, ⟨-, hcheck⟩, hbban⟩ := describes_iff_fits.1 h
  rw [List.forall_mem_append, List.forall_mem_append]
  exact ⟨⟨fun c hmem => Or.inl (hc.capitals c hmem), fun c hmem => Or.inr (hcheck c hmem)⟩,
    isPlain_of_fits hbban⟩

/-- A described text has the length of an IBAN of the grammar, in bytes and in characters. -/
theorem lengths_of_describes (hc : IsCountryCode country) {cs : List Char}
    (h : g.Describes country cs) : byteLength cs = g.ibanLength ∧ cs.length = g.ibanLength := by
  have hlength := describes_length h
  have hl := hc.length
  have hi : cs.length = g.ibanLength := by
    simp only [ibanLength, headLength]
    omega
  rw [byteLength_of_ascii fun c hmem => (isPlain_of_describes hc h c hmem).ascii]
  exact ⟨hi, hi⟩

/-- A legal grammar always compiles, and the pattern accepts what the grammar describes. -/
theorem compile_describes (hg : g.Legal) (hc : IsCountryCode country) :
    ∃ p, g.compile (String.ofList country) = .ok p ∧
      p.text = String.ofList (g.pattern country) ∧
      ∀ cs, p.accepts cs = true ↔ g.Describes country cs := by
  -- Capital letters stand for themselves in patterns.
  have hcompile := compile?_pattern (g := g) (fun c hmem => not_mem_specials (hc.capitals c hmem))
    (Nat.le_of_eq hc.length) hg.counts hg.width
  refine ⟨⟨String.ofList (g.pattern country), .sequence ((g.parts country).map (·.expression))⟩,
    ?_, rfl, ?_⟩
  · unfold compile
    rw [String.toList_ofList, hcompile]
  · intro cs
    rw [← spells_sets_iff]
    exact Bool.eq_iff_iff.1 (occursIn_parts g country cs)

theorem accepts_iff_of_compile (hg : g.Legal) (hc : IsCountryCode country) {p : Pattern}
    (hp : g.compile (String.ofList country) = .ok p) (cs : List Char) :
    p.accepts cs = true ↔ g.Describes country cs := by
  obtain ⟨q, hq, -, haccepts⟩ := compile_describes hg hc
  rw [hq] at hp
  cases hp
  exact haccepts cs

end Grammar

end FieldFormats.Iban
