import FieldFormats.Log.Event
import FieldFormats.Pattern.Notation
import FieldFormats.Text.Cut
/-! # Log filters

A filter is a list of directives, each naming a target and the most detail it lets through. The
directive with the longest target that begins an event's target decides; among those with one target
a directive that asks for a field of the event goes first, and of two equal ones the later. An event
that no directive covers is dropped.

The notation also has directives for spans of time. There are none here, so these have no effect,
but they have to be well formed.
-/
namespace FieldFormats.Log

open FieldFormats.Text

structure Directive where
  target : Option (List Char) := none
  field : Option (List Char) := none
  /-- Levels up to this detail pass; 0 lets nothing through. -/
  detail : Nat
  deriving DecidableEq, Repr

inductive FilterFault where
  | malformed
  /-- A part of a directive would end inside a character. -/
  | badCut (cut : BadCut)
  deriving DecidableEq, Repr

namespace Directive

def levelWords : List (String × Nat) :=
  [("off", 0), ("error", 1), ("warn", 2), ("info", 3), ("debug", 4), ("trace", 5)]

/-- The most detailed level, which a directive without a level means. -/
def fullDetail : Nat := 5

/-- A level by its word in any letter case or by its number. -/
def readDetail? (cs : List Char) : Option Nat :=
  match readNumber? (fullDetail + 1) cs with
  | some n => some n
  | none => (levelWords.find? fun w => w.1.toList == cs.map Char.toLower).map (·.2)

def opens (c : Char) : Bool :=
  isAlphanumeric c || c = '-' || c = ':' || c = '_'

def part (source : List Char) (start stop : Nat) : Except FilterFault (List Char) :=
  (cut start stop source).mapError .badCut

/-- A level at the end of a directive; nothing means all levels. -/
def readLevel (source : List Char) (start : Nat) : Except FilterFault Nat := do
  let word ← (cutFrom start source).mapError FilterFault.badCut
  if word = [] then pure fullDetail
  else match readDetail? word with
    | some n => pure n
    | none => .error .malformed

def readEnd (source : List Char) (offset : Nat) (rest : List Char) :
    Except FilterFault Nat :=
  match rest with
  | [] => .ok fullDetail
  | c :: _ => if c = '=' then readLevel source (offset + 1) else .error .malformed

/-- A decimal number with an optional sign, fraction and exponent, or a word for what is none. -/
def isNumber (cs : List Char) : Bool :=
  let unsigned := match cs with
    | '+' :: rest => rest
    | '-' :: rest => rest
    | _ => cs
  let whole := unsigned.takeWhile Char.isDigit
  let (fraction, rest) := match unsigned.dropWhile Char.isDigit with
    | '.' :: rest => (rest.takeWhile Char.isDigit, rest.dropWhile Char.isDigit)
    | rest => ([], rest)
  let exponent := match rest with
    | c :: '+' :: ds => if c = 'e' || c = 'E' then ds else ['x']
    | c :: '-' :: ds => if c = 'e' || c = 'E' then ds else ['x']
    | c :: ds => if c = 'e' || c = 'E' then ds else ['x']
    | [] => ['0']
  (["inf", "infinity", "nan"].any fun w => w.toList == unsigned.map Char.toLower) ||
    (whole ++ fraction ≠ [] && exponent ≠ [] && exponent.all Char.isDigit)

/-- Values of fields are numbers or patterns. Patterns may not ask for boundaries of words of all
scripts. -/
def isFieldValue (cs : List Char) : Bool :=
  isNumber cs || (Pattern.read? cs).any fun n => !n.expression.usesUnicodeBoundary

/-- The name of a field, and whether a value is asked for, which has to be well formed. -/
def readField (cs : List Char) : Except FilterFault (List Char × Bool) :=
  if cs = [] then .error .malformed
  else match pieces '=' cs with
    | name :: value :: _ => if isFieldValue value then .ok (name, true) else .error .malformed
    | name :: [] => .ok (name, false)
    | [] => .error .malformed

/-- What follows an opening bracket: the name of a span, perhaps with a field in braces. Only a
directive without a name and without a value concerns events. -/
def readSpan (source : List Char) (target : Option (List Char)) (start : Nat) (cs : List Char) :
    Except FilterFault (Option Directive) :=
  let isMark (c : Char) : Bool := c = ']' || c = '\x7b'
  let stop := start + byteLength (cs.takeWhile fun c => !isMark c)
  match cs.dropWhile fun c => !isMark c with
  | [] => .error .malformed
  | mark :: rest => do
    let name ← part source start stop
    if mark = ']' then
      let _ ← readEnd source (stop + 1) rest
      pure none
    else
      let fieldStop := stop + 1 + byteLength (rest.takeWhile (· ≠ '\x7d'))
      match rest.dropWhile (· ≠ '\x7d') with
      | [] => .error .malformed
      | _ :: rest =>
        let (field, hasValue) ← readField (← part source (stop + 1) fieldStop)
        match rest with
        | ']' :: rest =>
          let detail ← readEnd source (fieldStop + 2) rest
          pure (if name ≠ [] || hasValue then none else some ⟨target, some field, detail⟩)
        | _ => .error .malformed

/-- `level`, `target=level`, `target`, or one with a span in brackets. Blanks at both ends are left
out when the parts are told apart, but the parts are cut from the text with the blanks in it, at the
offsets that they have without them. -/
def read (source : List Char) : Except FilterFault (Option Directive) :=
  let isMark (c : Char) : Bool := c = '=' || c = '['
  match trim source with
  | [] => .error .malformed
  | '[' :: rest => readSpan source none 1 rest
  | c :: cs =>
    if !opens c then .error .malformed
    else
      let stop := byteLength ((c :: cs).takeWhile fun c => !isMark c)
      match (c :: cs).dropWhile fun c => !isMark c with
      | [] => .ok <| some <| match readDetail? source with
        | some n => ⟨none, none, n⟩
        | none => ⟨some source, none, fullDetail⟩
      | mark :: rest => do
        let target ← part source 0 stop
        if mark = '[' then readSpan source (some target) (stop + 1) rest
        else pure (some ⟨some target, none, ← readLevel source (stop + 1)⟩)

def covers (d : Directive) (e : Event) : Bool :=
  d.target.all (·.isPrefixOf e.target.toList) &&
    d.field.all fun f => e.fieldNames.contains (String.ofList f)

/-- Whether the second of two directives for one event goes before the first. -/
def givesWay (a b : Directive) : Bool :=
  let width (d : Directive) : Nat := (d.target.map (·.length + 1)).getD 0
  if width a ≠ width b then width a < width b
  else match a.field, b.field with
    | none, _ => true
    | some _, none => false
    | some f, some g => !(String.ofList g < String.ofList f)

end Directive

structure Filter where
  directives : List Directive
  deriving DecidableEq, Repr

namespace Filter

/-- The directives of several texts. The first fault is the one that counts. -/
def readDirectives : List (List Char) → Except FilterFault (List Directive)
  | [] => .ok []
  | cs :: rest => do
    let d ← Directive.read cs
    let ds ← readDirectives rest
    pure (d.toList ++ ds)

/-- A comma separated list. Empty pieces are skipped. -/
def read (text : String) : Except FilterFault Filter :=
  (readDirectives ((pieces ',' text.toList).filter (· ≠ []))).map Filter.mk

def deciding? (f : Filter) (e : Event) : Option Directive :=
  f.directives.foldl (fun best d =>
    if d.covers e then
      match best with
      | some b => if b.givesWay d then some d else some b
      | none => some d
    else best) none

def admits (f : Filter) (e : Event) : Bool :=
  match f.deciding? e with
  | some d => e.level.detail ≤ d.detail
  | none => false

end Filter

end FieldFormats.Log
