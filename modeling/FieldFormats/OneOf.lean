import FieldFormats.Presence
import FieldFormats.Text.Sorted
/-! # One of a set

Membership in a fixed set of permitted texts, which may come from the names of an enumeration.
Numbers are compared through their decimal text, so 42 is the permitted text `42`.
-/
namespace FieldFormats

structure OneOf where
  /-- In ascending order, each once. -/
  permitted : List String
  deriving DecidableEq, Repr

namespace OneOf

def ofList (permitted : List String) : OneOf :=
  ⟨Text.sortedSet permitted⟩

/-- Permits more texts, such as the names of an enumeration. -/
def alsoPermit (o : OneOf) (names : List String) : OneOf :=
  ⟨names.foldl (fun ts s => Text.insertSorted s ts) o.permitted⟩

def accepts (o : OneOf) (value : String) : Bool :=
  Presence.check o.permitted.contains value

def acceptsNumber (o : OneOf) (n : Int) : Bool :=
  o.accepts (toString n)

end OneOf

end FieldFormats
