import FieldFormats.Text.Blank
/-! # Presence

How much content a value carries. Checks share one contract: the empty value passes, since whether
a value is required is decided elsewhere, and a value of blanks fails.
-/
namespace FieldFormats

inductive Presence where
  | empty
  | blank
  | present (value : String)
  deriving DecidableEq, Repr

namespace Presence

def of (value : String) : Presence :=
  if value = "" then empty
  else if Text.isBlankText value then blank
  else present value

theorem of_blank {value : String} (h : value ≠ "") (hb : Text.isBlankText value = true) :
    of value = blank := by
  rw [of, if_neg h, if_pos hb]

theorem of_present {value : String} (hb : Text.isBlankText value = false) :
    of value = present value := by
  have h : value ≠ "" := by
    rintro rfl
    exact absurd hb (by decide)
  rw [of, if_neg h, if_neg (Bool.eq_false_iff.1 hb)]

/-- The shared contract around a check of a value with content. -/
def check (accepts : String → Bool) (value : String) : Bool :=
  match of value with
  | empty => true
  | blank => false
  | present v => accepts v

theorem check_empty (accepts : String → Bool) : check accepts "" = true := rfl

theorem check_blank {value : String} (accepts : String → Bool) (h : value ≠ "")
    (hb : Text.isBlankText value = true) : check accepts value = false := by
  rw [check, of_blank h hb]

theorem check_present {value : String} (accepts : String → Bool)
    (hb : Text.isBlankText value = false) : check accepts value = accepts value := by
  rw [check, of_present hb]

end Presence

end FieldFormats
