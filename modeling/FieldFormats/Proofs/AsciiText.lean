import FieldFormats.Text.Blank
import FieldFormats.Text.Bytes
import FieldFormats.Text.Cut
import Mathlib.Tactic.Common
/-! # Texts of capital letters and digits

Such texts are ASCII: they have as many bytes as characters, no cut falls inside a character, and
no character is blank. -/
namespace FieldFormats.Text

/-- A capital letter or a digit, as an identifier without separators is made of. -/
def IsPlain (c : Char) : Prop :=
  c.isUpper = true ∨ c.isDigit = true

theorem toNat_of_isUpper {c : Char} (h : c.isUpper = true) : 65 ≤ c.toNat ∧ c.toNat ≤ 90 := by
  exact of_decide_eq_true h

theorem toNat_of_isDigit {c : Char} (h : c.isDigit = true) : 48 ≤ c.toNat ∧ c.toNat ≤ 57 := by
  obtain ⟨hzero, hnine⟩ := Bool.and_eq_true_iff.1 h
  exact ⟨of_decide_eq_true hzero, of_decide_eq_true hnine⟩

theorem toNat_of_isLower {c : Char} (h : c.isLower = true) : 97 ≤ c.toNat ∧ c.toNat ≤ 122 := by
  obtain ⟨ha, hz⟩ := Bool.and_eq_true_iff.1 h
  exact ⟨of_decide_eq_true ha, of_decide_eq_true hz⟩

theorem IsPlain.ascii {c : Char} (h : IsPlain c) : c.toNat < 128 := by
  rcases h with h | h
  · have := toNat_of_isUpper h
    omega
  · have := toNat_of_isDigit h
    omega

theorem IsPlain.isAlphanum {c : Char} (h : IsPlain c) : c.isAlphanum = true := by
  rcases h with h | h
  · exact Bool.or_eq_true_iff.2 (Or.inl (Bool.or_eq_true_iff.2 (Or.inl h)))
  · exact Bool.or_eq_true_iff.2 (Or.inr h)

theorem utf8Size_of_ascii {c : Char} (h : c.toNat < 128) : c.utf8Size = 1 :=
  Char.utf8Size_eq_one_iff.2 (Nat.le_of_lt_succ h)

theorem byteLength_of_ascii {cs : List Char} (h : ∀ c ∈ cs, c.toNat < 128) :
    byteLength cs = cs.length := by
  induction cs with
  | nil => rfl
  | cons c cs ih =>
    obtain ⟨hc, hcs⟩ := List.forall_mem_cons.1 h
    rw [byteLength, utf8Size_of_ascii hc, ih hcs, List.length_cons, Nat.add_comm]

theorem byteLength_toList (s : String) : byteLength s.toList = s.utf8ByteSize := by
  have h : ∀ cs, byteLength cs = (String.ofList cs).utf8ByteSize := by
    intro cs
    induction cs with
    | nil => rfl
    | cons c cs ih =>
      rw [byteLength, ih, String.ofList_cons, String.utf8ByteSize_append,
        String.utf8ByteSize_singleton]
  rw [h, String.ofList_toList]

theorem takeBytes?_of_ascii {cs : List Char} (h : ∀ c ∈ cs, c.toNat < 128) (ds : List Char) :
    takeBytes? cs.length (cs ++ ds) = some cs := by
  induction cs with
  | nil => cases ds <;> rfl
  | cons c cs ih =>
    obtain ⟨hc, hcs⟩ := List.forall_mem_cons.1 h
    rw [List.length_cons, List.cons_append, takeBytes?, if_neg (Nat.succ_ne_zero _),
      if_pos (by rw [utf8Size_of_ascii hc]; omega), utf8Size_of_ascii hc, Nat.add_sub_cancel,
      ih hcs]
    rfl

theorem characterAround?_of_ascii {cs : List Char} (h : ∀ c ∈ cs, c.toNat < 128)
    (offset first : Nat) : characterAround? offset first cs = none := by
  induction cs generalizing first with
  | nil => rfl
  | cons c cs ih =>
    obtain ⟨hc, hcs⟩ := List.forall_mem_cons.1 h
    rw [characterAround?, utf8Size_of_ascii hc]
    by_cases hle : offset ≤ first
    · rw [if_pos hle]
    · rw [if_neg hle, if_neg (by omega), ih hcs]

theorem before_of_ascii {cs : List Char} (h : ∀ c ∈ cs, c.toNat < 128) (n : Nat) :
    before n cs = cs.take n := by
  induction cs generalizing n with
  | nil => simp [before]
  | cons c cs ih =>
    obtain ⟨hc, hcs⟩ := List.forall_mem_cons.1 h
    cases n with
    | zero => rfl
    | succ n => simp [before, utf8Size_of_ascii hc, ih hcs]

theorem behind_of_ascii {cs : List Char} (h : ∀ c ∈ cs, c.toNat < 128) (n : Nat) :
    behind n cs = cs.drop n := by
  induction cs generalizing n with
  | nil => simp [behind]
  | cons c cs ih =>
    obtain ⟨hc, hcs⟩ := List.forall_mem_cons.1 h
    cases n with
    | zero => rfl
    | succ n => simp [behind, utf8Size_of_ascii hc, ih hcs]

/-- In ASCII every offset is a place between two characters. -/
theorem cut_of_ascii {cs : List Char} (h : ∀ c ∈ cs, c.toNat < 128) (start stop : Nat) :
    cut start stop cs = .ok ((cs.take stop).drop start) := by
  have hfront : ∀ c ∈ cs.take stop, c.toNat < 128 := fun c hc => h c (List.mem_of_mem_take hc)
  rw [cut, characterAround?_of_ascii h, characterAround?_of_ascii h, before_of_ascii h,
    behind_of_ascii hfront]

theorem cutFrom_of_ascii {cs : List Char} (h : ∀ c ∈ cs, c.toNat < 128) (start : Nat) :
    cutFrom start cs = .ok (cs.drop start) := by
  rw [cutFrom, cut_of_ascii h, byteLength_of_ascii h, List.take_length]

theorem toNat_of_isAlphanum {c : Char} (h : c.isAlphanum = true) :
    48 ≤ c.toNat ∧ c.toNat ≤ 122 := by
  rcases Bool.or_eq_true_iff.1 h with h | h
  · rcases Bool.or_eq_true_iff.1 h with h | h
    · have := toNat_of_isUpper h
      omega
    · have := toNat_of_isLower h
      omega
  · have := toNat_of_isDigit h
    omega

theorem isBlank_eq_false_of_isAlphanum {c : Char} (h : c.isAlphanum = true) :
    isBlank c = false := by
  have hn := toNat_of_isAlphanum h
  simp only [isBlank, blankRanges, List.any_cons, List.any_nil, Bool.or_false, Bool.or_eq_false_iff,
    Bool.and_eq_false_iff, decide_eq_false_iff_not]
  omega

theorem toUpper_of_not_ascii {c : Char} (h : ¬ c.toNat < 128) : c.toUpper = c := by
  apply dif_neg
  rintro ⟨-, hle⟩
  have : c.toNat ≤ 122 := hle
  omega

theorem isAlphanum_toUpper (c : Char) : c.toUpper.isAlphanum = c.isAlphanum := by
  by_cases h : c.toNat < 128
  · have hall : ∀ n < 128, (Char.ofNat n).toUpper.isAlphanum = (Char.ofNat n).isAlphanum := by
      decide
    have hc := hall c.toNat h
    rwa [Char.ofNat_toNat] at hc
  · rw [toUpper_of_not_ascii h]

theorem utf8Size_toUpper (c : Char) : c.toUpper.utf8Size = c.utf8Size := by
  by_cases h : c.toNat < 128
  · have hall : ∀ n < 128, (Char.ofNat n).toUpper.toNat < 128 := by
      decide
    have hc := hall c.toNat h
    rw [Char.ofNat_toNat] at hc
    rw [utf8Size_of_ascii h, utf8Size_of_ascii hc]
  · rw [toUpper_of_not_ascii h]

end FieldFormats.Text
