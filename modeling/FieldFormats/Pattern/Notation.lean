import FieldFormats.Pattern.Lexeme
import FieldFormats.Pattern.Measured
/-! # The pattern notation

The second stage of reading: lexemes are put together to an expression. Flags decide what they
mean, from where they are set to the end of the group around. Without the flag for Unicode, which
is on at first, classes are those of ASCII, and what could match part of a character is refused.
-/
namespace FieldFormats.Pattern

open FieldFormats.Text

structure Flags where
  caseless : Bool := false
  multiLine : Bool := false
  dotAll : Bool := false
  crlf : Bool := false
  unicode : Bool := true
  deriving DecidableEq, Repr

namespace Flags

def change (f : Flags) (c : FlagChange) : Flags where
  caseless := c.apply .caseless f.caseless
  multiLine := c.apply .multiLine f.multiLine
  dotAll := c.apply .dotAll f.dotAll
  crlf := c.apply .crlf f.crlf
  unicode := c.apply .unicode f.unicode

/-- A set closed under letter case if that is to be ignored. -/
def fold (f : Flags) (s : CharSet) : CharSet :=
  if f.caseless then (if f.unicode then .caseless s else .asciiCaseless s) else s

/-- The complement of a set if it is denied. Without Unicode it would hold parts of characters. -/
def deny (f : Flags) (denied : Bool) (s : CharSet) : Option CharSet :=
  if denied then (if f.unicode then some (.complement s) else none) else some s

def literal (f : Flags) (l : Literal) : Option Measured :=
  if !f.unicode && l.asByte && 128 ≤ l.char.toNat then none
  else if f.caseless && (f.unicode || l.char.toNat < 128) then
    some (.ofSet (f.fold (.single l.char)))
  else some (.ofChar l.char)

/-- A dot is any character but those that end a line. -/
def dot (f : Flags) : Option CharSet :=
  if !f.unicode then none
  else if f.dotAll then some (.complement .empty)
  else if f.crlf then some (.complement (.ranges [('\n', '\n'), ('\r', '\r')]))
  else some (.complement (.single '\n'))

def look (f : Flags) : Anchor → Look
  | .caret => if f.multiLine then (if f.crlf then .lineStartCrlf else .lineStart) else .textStart
  | .dollar => if f.multiLine then (if f.crlf then .lineEndCrlf else .lineEnd) else .textEnd
  | .textStart => .textStart
  | .textEnd => .textEnd
  | .wordBoundary => .wordBoundary !f.unicode
  | .noWordBoundary => .noWordBoundary !f.unicode
  | .wordStart => .wordStart !f.unicode
  | .wordEnd => .wordEnd !f.unicode
  | .noWordBefore => .noWordBefore !f.unicode
  | .noWordAfter => .noWordAfter !f.unicode

/-- A class by its name. Those with letters in them are closed under letter case already. -/
def cls (f : Flags) (name : ClassName) (denied : Bool) : Option CharSet :=
  match name with
  | .digit => f.deny denied (if f.unicode then .digits else .asciiDigits)
  | .blank => f.deny denied (if f.unicode then .blanks else .asciiBlanks)
  | .word => f.deny denied (if f.unicode then .words else .asciiWords)
  | .property p => if f.unicode then f.deny denied (f.fold (.property p)) else none

def range (f : Flags) (first last : Literal) : Option CharSet :=
  if f.unicode || last.char.toNat < 128 then some (.ranges [(first.char, last.char)]) else none

end Flags

structure OpenSet where
  denied : Bool
  /-- The members since the last operator, how many they are, and how deep they are nested. -/
  members : CharSet := .empty
  count : Nat := 0
  nesting : Nat := 0
  /-- What stands before the last operator, and how deep it is nested. -/
  left : Option (SetOperator × CharSet × Nat) := none
  deriving DecidableEq, Repr

namespace OpenSet

def add (o : OpenSet) (s : CharSet) (nesting : Nat) : OpenSet :=
  { o with
    members := if o.count = 0 then s else .union o.members s
    count := o.count + 1
    nesting := max o.nesting nesting }

/-- All that the set holds so far. Operators bind less than membership and from left to right. -/
def combined (o : OpenSet) (f : Flags) : CharSet × Nat :=
  let nesting := (if o.count < 2 then 0 else 1) + o.nesting
  match o.left with
  | none => (o.members, nesting)
  | some (operator, left, leftNesting) =>
    let s := f.fold left
    let t := f.fold o.members
    (match operator with
      | .intersection => .inter s t
      | .difference => .difference s t
      | .symmetricDifference => .symmetricDifference s t, 1 + max leftNesting nesting)

def close (o : OpenSet) (f : Flags) : Option (CharSet × Nat) :=
  let (s, nesting) := o.combined f
  (f.deny o.denied (f.fold s)).map fun s => (s, nesting + 1)

def operator (o : OpenSet) (f : Flags) (operator : SetOperator) : OpenSet :=
  let (s, nesting) := o.combined f
  { denied := o.denied, left := some (operator, s, nesting) }

end OpenSet

/-- A group that is still open: what stood before it, and the flags to return to. -/
structure OpenGroup where
  captures : Bool
  flags : Flags
  done : List Measured
  parts : List (Option Measured)
  deriving DecidableEq, Repr

structure Assembly where
  flags : Flags := {}
  /-- The alternatives that are complete, the last one first. -/
  done : List Measured := []
  /-- The parts of the current alternative, the last one first. Settings of flags have none. -/
  parts : List (Option Measured) := []
  groups : List OpenGroup := []
  sets : List OpenSet := []
  deriving DecidableEq, Repr

namespace Assembly

def push (a : Assembly) (n : Measured) : Assembly :=
  { a with parts := some n :: a.parts }

def whole (a : Assembly) : Measured :=
  match (Measured.sequence a.parts.reverse :: a.done).reverse with
  | [] => Measured.sequence []
  | first :: rest => Measured.alternatives first rest

def addClass (a : Assembly) (s : CharSet) : Assembly :=
  match a.sets with
  | [] => a.push (.ofSet s)
  | o :: rest => { a with sets := o.add s 0 :: rest }

def addMember (a : Assembly) (s : CharSet) : Option Assembly :=
  match a.sets with
  | [] => none
  | o :: rest => some { a with sets := o.add s 0 :: rest }

def closeSet (a : Assembly) : Option Assembly :=
  match a.sets with
  | [] => none
  | o :: rest =>
    match o.close a.flags, rest with
    | none, _ => none
    | some (s, nesting), [] => some { a.push (.ofSet s nesting) with sets := [] }
    | some (s, nesting), outer :: rest => some { a with sets := outer.add s nesting :: rest }

def closeGroup (a : Assembly) : Option Assembly :=
  match a.groups with
  | [] => none
  | g :: rest =>
    some { a with
      flags := g.flags
      done := g.done
      parts := some (a.whole.group g.captures) :: g.parts
      groups := rest }

/-- What a repetition repeats is the part before it, and there has to be one. -/
def repeatLast (a : Assembly) (least : Nat) (most : Option Nat) : Option Assembly :=
  match a.parts with
  | some n :: rest => some { a with parts := some (n.rep least most) :: rest }
  | _ => none

def add (a : Assembly) : Lexeme → Option Assembly
  | .literal l => (a.flags.literal l).map a.push
  | .dot => a.flags.dot.map fun s => a.push (.ofSet s)
  | .anchor k => some (a.push (.ofLook (a.flags.look k)))
  | .cls name denied => (a.flags.cls name denied).map a.addClass
  | .groupOpen captures change =>
    some { a with
      flags := a.flags.change change
      done := []
      parts := []
      groups := ⟨captures, a.flags, a.done, a.parts⟩ :: a.groups }
  | .groupClose => a.closeGroup
  | .flags change => some { a with flags := a.flags.change change, parts := none :: a.parts }
  | .bar => some { a with done := Measured.sequence a.parts.reverse :: a.done, parts := [] }
  | .repetition least most => a.repeatLast least most
  | .setOpen denied => some { a with sets := ⟨denied, .empty, 0, 0, none⟩ :: a.sets }
  | .setClose => a.closeSet
  | .setOperator o =>
    match a.sets with
    | [] => none
    | s :: rest => some { a with sets := s.operator a.flags o :: rest }
  | .setRange first last => (a.flags.range first last).bind a.addMember
  | .setClass s denied => (a.flags.deny denied (a.flags.fold s)).bind a.addMember

def addAll (a : Assembly) : List Lexeme → Option Assembly
  | [] => some a
  | l :: ls =>
    match a.add l with
    | none => none
    | some b => b.addAll ls

end Assembly

def read? (text : List Char) : Option Measured := do
  let lexemes ← Reader.readAll {} text
  let assembly ← Assembly.addAll {} lexemes
  if assembly.whole.nesting ≤ nestingLimit then some assembly.whole else none

end FieldFormats.Pattern

namespace FieldFormats

structure Pattern where
  text : String
  expression : Pattern.Expression
  deriving DecidableEq, Repr

namespace Pattern

/-- Refuses what is not in the notation, and what is too large. -/
def compile? (text : List Char) : Option Pattern :=
  match read? text with
  | some n => if n.isWithinLimits then some ⟨String.ofList text, n.expression⟩ else none
  | none => none

def accepts (p : Pattern) (cs : List Char) : Bool :=
  p.expression.occursIn cs

end Pattern

end FieldFormats
