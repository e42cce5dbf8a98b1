import Mathlib.Data.List.Nodup
import Mathlib.Data.List.Sort
import Mathlib.Tactic.Common
/-! # Lists in the order of their keys

Registries keep their entries in the ascending order of a code, each code once. An entry that is new
goes to its place, and the first entry found under a code is the only one. -/
namespace FieldFormats

variable {α : Type} {key : α → String} {a b : α} {as : List α}

/-- Each key once, in ascending order. -/
def AscendingBy (key : α → String) (as : List α) : Prop :=
  as.Pairwise fun a b => key a < key b

theorem AscendingBy.orderedInsert (h : AscendingBy key as) (hnew : ∀ b ∈ as, key b ≠ key a) :
    AscendingBy key (as.orderedInsert (fun a b => key a < key b) a) := by
  induction as with
  | nil => exact List.pairwise_singleton _ _
  | cons b as ih =>
    obtain ⟨hbefore, hrest⟩ := List.pairwise_cons.1 h
    rw [List.orderedInsert]
    split
    next hlt =>
      refine List.pairwise_cons.2 ⟨?_, h⟩
      intro c hc
      rcases List.mem_cons.1 hc with rfl | hc
      · exact hlt
      · exact String.lt_trans hlt (hbefore c hc)
    next hle =>
      refine List.pairwise_cons.2 ⟨?_, ih hrest fun c hc => hnew c (List.mem_cons_of_mem b hc)⟩
      intro c hc
      rcases (List.mem_orderedInsert _).1 hc with rfl | hc
      · by_contra hge
        exact hnew b List.mem_cons_self (String.le_antisymm (String.not_lt.1 hle)
          (String.not_lt.1 hge))
      · exact hbefore c hc

theorem AscendingBy.eq_of_key (h : AscendingBy key as) (ha : a ∈ as) (hb : b ∈ as)
    (hkey : key a = key b) : a = b := by
  have hnodup : (as.map key).Nodup := by
    refine List.pairwise_map.2 (h.imp ?_)
    intro c d hlt heq
    rw [heq] at hlt
    exact String.lt_irrefl _ hlt
  exact List.inj_on_of_nodup_map hnodup ha hb hkey

theorem AscendingBy.find?_eq_some_iff (h : AscendingBy key as) {k : String} :
    as.find? (key · = k) = some a ↔ a ∈ as ∧ key a = k := by
  constructor
  · intro hfound
    exact ⟨List.mem_of_find?_eq_some hfound,
      of_decide_eq_true (List.find?_some (p := fun a => decide (key a = k)) hfound)⟩
  · rintro ⟨ha, hkey⟩
    cases hfound : as.find? (key · = k) with
    | none => exact absurd (decide_eq_true hkey) (List.find?_eq_none.1 hfound a ha)
    | some b =>
      have hb := List.find?_some (p := fun a => decide (key a = k)) hfound
      have hsame := hkey.trans (of_decide_eq_true hb).symm
      rw [h.eq_of_key ha (List.mem_of_find?_eq_some hfound) hsame]

end FieldFormats
