import FieldFormats.Pattern.Expression
import FieldFormats.Text.Bytes
/-! # Measured expressions

A pattern may not nest too deeply, and the automaton that a matcher would build for it may not
take too much room. Both measures follow the notation, so they are kept beside the expression while
it is put together. The room is an estimate: 32 bytes for each state, and more for wide sets.
-/
namespace FieldFormats.Pattern

open FieldFormats.Text

/-- How deep the parts of a pattern may be nested. -/
def nestingLimit : Nat := 250

/-- How many bytes an automaton may take: ten mebibytes. -/
def roomLimit : Nat := 10485760

def stateRoom : Nat := 32

/-- A set as an edge between two states, with a label for each range. Beyond ASCII a range takes
several states of its own. -/
def rangeRoom (last : Char) : Nat :=
  if last.toNat < 128 then 8 else 72

namespace CharSet

/-- The room for the labels of a set. A property counts as many ranges as its tables have. -/
def room : CharSet → Nat
  | ranges rs => rs.foldr (fun r n => rangeRoom r.2 + n) 0
  | property (.category ks) => ks.foldr (fun k n => 72 * k.ranges.bounds.length + n) 0
  | property .ascii => 8
  | property .any => 72
  | property .whiteSpace => 72 * blankRanges.length
  | property _ => 72 * 700
  | complement s => s.room + 72
  | union s t => s.room + t.room
  | inter s t => s.room + t.room
  | caseless s => 2 * s.room
  | asciiCaseless s => 2 * s.room

end CharSet

/-- An expression with its measures. -/
structure Measured where
  expression : Expression
  /-- How many parts stand around the innermost one. -/
  nesting : Nat := 0
  room : Nat := stateRoom
  deriving DecidableEq, Repr

namespace Measured

/-- A single character takes a state for each of its bytes. -/
def ofChar (c : Char) : Measured :=
  ⟨.set (.single c), 0, stateRoom * c.utf8Size⟩

def ofSet (s : CharSet) (nesting : Nat := 0) : Measured :=
  ⟨.set s, nesting, 2 * stateRoom + s.room⟩

def ofLook (l : Look) : Measured :=
  ⟨.look l, 0, stateRoom⟩

/-- Parts that stand side by side form a level of their own if there are two or more. -/
def level (nestings : List Nat) : Nat :=
  (if nestings.length < 2 then 0 else 1) + nestings.foldr max 0

/-- One part after the other. What is no part of the text, such as a setting of flags, counts as
a part for nesting. -/
def sequence (parts : List (Option Measured)) : Measured :=
  let xs := parts.filterMap id
  ⟨.sequence (xs.map (·.expression)),
    level (parts.map fun p => (p.map (·.nesting)).getD 0),
    xs.foldr (fun x room => x.room + room) (if xs = [] then stateRoom else 0)⟩

/-- One part or another. -/
def alternatives (first : Measured) : List Measured → Measured
  | [] => first
  | rest =>
    ⟨rest.foldl (fun e x => .alt e x.expression) first.expression,
      level ((first :: rest).map (·.nesting)),
      (first :: rest).foldr (fun x room => x.room + 4 + room) (2 * stateRoom)⟩

/-- A part in parentheses. Two states mark what a capturing group captures. -/
def group (captures : Bool) (x : Measured) : Measured :=
  { x with nesting := x.nesting + 1, room := x.room + (if captures then 2 * stateRoom else 0) }

/-- A part that is repeated is copied as often as its counts say, once if it is widthless. -/
def rep (x : Measured) (least : Nat) (most : Option Nat) : Measured :=
  let clip (k : Nat) : Nat := if x.expression.isWidthless then min k 1 else k
  let branch := stateRoom + 8
  let room := match most with
    | none => max (clip least) 1 * x.room + branch
    | some m => clip m * x.room + (clip m - clip least) * branch + stateRoom
  ⟨x.expression.times least most, x.nesting + 1, room⟩

/-- Whether both measures are within their limits. -/
def isWithinLimits (x : Measured) : Bool :=
  x.nesting ≤ nestingLimit && x.room + 6 * stateRoom ≤ roomLimit

end Measured

end FieldFormats.Pattern
