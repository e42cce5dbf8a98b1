import FieldFormats.Alpha3
import FieldFormats.Proofs.AsciiText
import Mathlib.Data.List.Chain
/-! # The search for country codes

Halving finds a key exactly if it stands among the entries, whatever key it is: the half that is
left out never holds it. So a value passes if it is empty or one of the codes as they are written,
and no part, extension or other spelling of a code does. -/
namespace FieldFormats.Alpha3

open FieldFormats.Text

variable {entries : Array String} {key a b : String} {i j lo hi : ℕ}

/-- Each entry comes before all that stand behind it. -/
def Ascending (entries : Array String) : Prop :=
  entries.toList.Pairwise (· < ·)

/-- A key stands at a place from `lo` to before `hi`. -/
def StandsIn (entries : Array String) (key : String) (lo hi : ℕ) : Prop :=
  ∃ i, lo ≤ i ∧ i < hi ∧ entries[i]? = some key

theorem Ascending.lt (h : Ascending entries) (hij : i < j) (ha : entries[i]? = some a)
    (hb : entries[j]? = some b) : a < b := by
  obtain ⟨hi, rfl⟩ := Array.getElem?_eq_some_iff.1 ha
  obtain ⟨hj, rfl⟩ := Array.getElem?_eq_some_iff.1 hb
  exact List.pairwise_iff_getElem.1 h i j hi hj hij

/-- An entry below the key is in front of it. -/
theorem Ascending.front (h : Ascending entries) (ha : entries[i]? = some a) (hlt : a < key)
    (hkey : entries[j]? = some key) : i < j := by
  by_contra hle
  rcases Nat.lt_or_eq_of_le (Nat.not_lt.1 hle) with hji | rfl
  · exact String.lt_irrefl _ (String.lt_trans hlt (h.lt hji hkey ha))
  · rw [ha] at hkey
    cases hkey
    exact String.lt_irrefl _ hlt

/-- An entry above the key is behind it. -/
theorem Ascending.behind (h : Ascending entries) (ha : entries[i]? = some a) (hne : a ≠ key)
    (hge : ¬ a < key) (hkey : entries[j]? = some key) : j < i := by
  by_contra hle
  rcases Nat.lt_or_eq_of_le (Nat.not_lt.1 hle) with hij | rfl
  · exact hge (h.lt hij ha hkey)
  · rw [ha] at hkey
    exact hne (Option.some.inj hkey)

theorem search_eq_true_iff (h : Ascending entries) (hhi : hi ≤ entries.size) :
    search entries key lo hi = true ↔ StandsIn entries key lo hi := by
  -- On the halvings; what is left of the interval holds the key if the whole did.
  fun_induction search entries key lo hi with
  | case1 lo hi hlt hnone =>
    have hsize := Array.getElem?_eq_none_iff.1 hnone
    omega
  | case2 lo hi hlt hfound => exact iff_of_true rfl ⟨_, by omega, by omega, hfound⟩
  | case3 lo hi hlt entry hentry hne hless ih =>
    rw [ih hhi]
    constructor
    · rintro ⟨i, hlo, hi, hkey⟩
      exact ⟨i, by omega, hi, hkey⟩
    · rintro ⟨i, -, hi, hkey⟩
      have hfront := h.front hentry hless hkey
      exact ⟨i, hfront, hi, hkey⟩
  | case4 lo hi hlt entry hentry hne hge ih =>
    rw [ih (by omega)]
    constructor
    · rintro ⟨i, hlo, hi, hkey⟩
      exact ⟨i, hlo, by omega, hkey⟩
    · rintro ⟨i, hlo, -, hkey⟩
      have hbehind := h.behind hentry hne hge hkey
      exact ⟨i, hlo, hbehind, hkey⟩
  | case5 lo hi hle =>
    refine iff_of_false Bool.false_ne_true ?_
    rintro ⟨i, hlo, hi, -⟩
    omega

theorem ascending_codes : Ascending codes := by
  have hneighbours : codes.toList.IsChain (· < ·) := by decide +kernel
  exact List.isChain_iff_pairwise.1 hneighbours

theorem isCode_iff : isCode key = true ↔ key ∈ codes := by
  rw [isCode, search_eq_true_iff ascending_codes (Nat.le_refl _), Array.mem_iff_getElem?]
  constructor
  · rintro ⟨i, -, -, hkey⟩
    exact ⟨i, hkey⟩
  · rintro ⟨i, hkey⟩
    obtain ⟨hi, -⟩ := Array.getElem?_eq_some_iff.1 hkey
    exact ⟨i, Nat.zero_le i, hi, hkey⟩

/-- Every code has three capital letters. -/
theorem capitals_of_mem (h : key ∈ codes) :
    key.toList.length = 3 ∧ ∀ c ∈ key.toList, c.isUpper = true := by
  have hcodes : ∀ k ∈ codes.toList, k.toList.length = 3 ∧ k.toList.all Char.isUpper = true := by
    decide +kernel
  obtain ⟨hlength, hcapitals⟩ := hcodes key h.val
  exact ⟨hlength, List.all_eq_true.1 hcapitals⟩

theorem isBlankText_of_mem (h : key ∈ codes) : isBlankText key = false := by
  obtain ⟨hlength, hcapitals⟩ := capitals_of_mem h
  obtain ⟨c, hc⟩ := List.exists_mem_of_length_pos (by omega : 0 < key.toList.length)
  refine List.all_eq_false.2 ⟨c, hc, ?_⟩
  rw [isBlank_eq_false_of_isAlphanum (IsPlain.isAlphanum (Or.inl (hcapitals c hc)))]
  exact Bool.false_ne_true

theorem accepts_iff {v : String} : accepts v = true ↔ v = "" ∨ v ∈ codes := by
  by_cases hempty : v = ""
  · subst hempty
    exact iff_of_true rfl (Or.inl rfl)
  · rw [or_iff_right hempty, accepts]
    by_cases hblank : isBlankText v = true
    · rw [Presence.check_blank _ hempty hblank]
      refine iff_of_false Bool.false_ne_true ?_
      intro hmem
      rw [isBlankText_of_mem hmem] at hblank
      cases hblank
    · rw [Presence.check_present _ (Bool.not_eq_true _ ▸ hblank), isCode_iff]

theorem length_pos_of_ne_empty {v : String} (h : v ≠ "") : 0 < v.toList.length :=
  List.length_pos_iff.2 (mt String.toList_eq_nil_iff.1 h)

theorem accepts_eq_false_of_length {v : String} (hne : v ≠ "") (h : v.toList.length ≠ 3) :
    accepts v = false := by
  rw [← Bool.not_eq_true, accepts_iff]
  rintro (hempty | hmem)
  · exact hne hempty
  · exact h (capitals_of_mem hmem).1

theorem toUpper_toLower {c : Char} (h : c.isUpper = true) : c.toLower.toUpper = c := by
  have hall : ∀ n < 128, (Char.ofNat n).isUpper = true →
      (Char.ofNat n).toLower.toUpper = Char.ofNat n := by
    decide
  have hc := hall c.toNat (IsPlain.ascii (Or.inl h))
  rw [Char.ofNat_toNat] at hc
  exact hc h

/-- Capital letters are known by their small ones. -/
theorem map_toUpper_map_toLower {cs : List Char} (h : ∀ c ∈ cs, c.isUpper = true) :
    (cs.map Char.toLower).map Char.toUpper = cs := by
  have hback : cs.map (Char.toUpper ∘ Char.toLower) = cs.map id :=
    List.map_congr_left fun c hc => toUpper_toLower (h c hc)
  rw [List.map_map, hback, List.map_id]

theorem eq_of_map_toLower {v w : String} (hv : v ∈ codes) (hw : w ∈ codes)
    (h : v.toList.map Char.toLower = w.toList.map Char.toLower) : v = w := by
  rw [← String.toList_inj, ← map_toUpper_map_toLower (capitals_of_mem hv).2, h,
    map_toUpper_map_toLower (capitals_of_mem hw).2]

/-- The empty value and the codes pass, letter for letter, and nothing else does: neither of two
parts of a code, nothing that goes on in front of a code or behind it, no other spelling. -/
theorem finds_listed :
    (∀ key, isCode key = true ↔ key ∈ codes) ∧
    (∀ v, accepts v = true ↔ v = "" ∨ v ∈ codes) ∧
    ∀ code ∈ codes,
      (∀ v w, v ≠ "" → w ≠ "" → code = v ++ w → accepts v = false ∧ accepts w = false) ∧
      (∀ v w, v ++ w ≠ "" → accepts (v ++ code ++ w) = false) ∧
      ∀ v, v ≠ code → v.toList.map Char.toLower = code.toList.map Char.toLower →
        accepts v = false := by
  refine ⟨fun key => isCode_iff, fun v => accepts_iff, ?_⟩
  intro code hcode
  obtain ⟨hlength, -⟩ := capitals_of_mem hcode
  refine ⟨?_, ?_, ?_⟩
  · rintro v w hv hw rfl
    rw [String.toList_append, List.length_append] at hlength
    have hv_length := length_pos_of_ne_empty hv
    have hw_length := length_pos_of_ne_empty hw
    exact ⟨accepts_eq_false_of_length hv (by omega), accepts_eq_false_of_length hw (by omega)⟩
  · intro v w hne
    have hlonger := length_pos_of_ne_empty hne
    have hsum : (v ++ code ++ w).toList.length = 3 + (v ++ w).toList.length := by
      simp only [String.toList_append, List.length_append]
      omega
    refine accepts_eq_false_of_length ?_ (by omega)
    intro hempty
    rw [hempty, String.toList_empty, List.length_nil] at hsum
    omega
  · intro v hne hspelling
    rw [← Bool.not_eq_true, accepts_iff]
    rintro (rfl | hv)
    · have hletters := congrArg List.length hspelling
      rw [List.length_map, List.length_map, hlength] at hletters
      cases hletters
    · exact hne (eq_of_map_toLower hv hcode hspelling)

end FieldFormats.Alpha3
