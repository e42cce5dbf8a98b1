import FieldFormats.Pattern.CharSet
/-! # Pattern expressions

What a pattern means, apart from its notation: regular expressions over sets of characters with
conditions on the characters around a place. A text is searched by carrying a set of places
through an expression: the places where a match can begin go in, those where it can end come out.
-/
namespace FieldFormats.Pattern

open FieldFormats.Text

/-- A condition on a place between two characters, or at an end of the text. -/
inductive Look where
  | textStart
  | textEnd
  /-- After a line feed as well. -/
  | lineStart
  /-- Before a line feed as well. -/
  | lineEnd
  /-- After any line terminator as well, a carriage return included; not inside CR LF. -/
  | lineStartCrlf
  | lineEndCrlf
  /-- Words of ASCII only, or of all scripts. -/
  | wordBoundary (ascii : Bool)
  | noWordBoundary (ascii : Bool)
  | wordStart (ascii : Bool)
  | wordEnd (ascii : Bool)
  | noWordBefore (ascii : Bool)
  | noWordAfter (ascii : Bool)
  deriving DecidableEq, Repr

namespace Look

def inWord (ascii : Bool) (c : Option Char) : Bool :=
  c.any fun c => if ascii then isAsciiWordChar c else isWordChar c

/-- Whether the condition holds between two neighbours; there is none beyond an end. -/
def holds (l : Look) (before after : Option Char) : Bool :=
  match l with
  | textStart => before = none
  | textEnd => after = none
  | lineStart => before = none || before = some '\n'
  | lineEnd => after = none || after = some '\n'
  | lineStartCrlf =>
    before = none || before = some '\n' || (before = some '\r' && after ≠ some '\n')
  | lineEndCrlf =>
    after = none || after = some '\r' || (after = some '\n' && before ≠ some '\r')
  | wordBoundary ascii => inWord ascii before ≠ inWord ascii after
  | noWordBoundary ascii => inWord ascii before = inWord ascii after
  | wordStart ascii => !inWord ascii before && inWord ascii after
  | wordEnd ascii => inWord ascii before && !inWord ascii after
  | noWordBefore ascii => !inWord ascii before
  | noWordAfter ascii => !inWord ascii after

def isUnicodeBoundary : Look → Bool
  | wordBoundary ascii => !ascii
  | noWordBoundary ascii => !ascii
  | wordStart ascii => !ascii
  | wordEnd ascii => !ascii
  | noWordBefore ascii => !ascii
  | noWordAfter ascii => !ascii
  | _ => false

end Look

inductive Expression where
  /-- The empty match, everywhere. -/
  | empty
  | set (s : CharSet)
  | look (l : Look)
  | seq (a b : Expression)
  | alt (a b : Expression)
  /-- At least so many times, and at most as often as the limit says if there is one. -/
  | rep (e : Expression) (least : Nat) (most : Option Nat)
  deriving DecidableEq, Repr

/-- Takes steps until nothing changes any more, `n` at most. -/
def iterate {α : Type} [DecidableEq α] (step : α → α) : Nat → α → α
  | 0, x => x
  | n + 1, x =>
    let y := step x
    if y = x then x else iterate step n y

/-- A set of places: one entry for the place before each character, and one for the end. -/
abbrev Places := List Bool

namespace Places

def both (p q : Places) : Places :=
  List.zipWith (· || ·) p q

/-- The places behind a character of the set, when the one before it is taken. -/
def advance (s : CharSet) (text : List Char) (p : Places) : Places :=
  false :: List.zipWith (fun taken c => taken && s.contains c) p text

def neighbours (text : List Char) : List (Option Char × Option Char) :=
  (none :: text.map some).zip (text.map some ++ [none])

def keep (l : Look) (text : List Char) (p : Places) : Places :=
  List.zipWith (fun taken n => taken && l.holds n.1 n.2) p (neighbours text)

end Places

namespace Expression

/-- The places where a match can end that begins at one of the given places. No count needs more
rounds than a text has places: after as many, further rounds can only stand still. -/
def ends (text : List Char) : Expression → Places → Places
  | empty, p => p
  | set s, p => p.advance s text
  | look l, p => p.keep l text
  | seq a b, p => b.ends text (a.ends text p)
  | alt a b, p => (a.ends text p).both (b.ends text p)
  | rep e least most, p =>
    let enough := text.length + 1
    let first := iterate (e.ends text) (min least enough) p
    let more (q : Places) := q.both (e.ends text q)
    match most with
    | none => iterate more enough first
    | some m => iterate more (min (m - least) enough) first

/-- Whether a match begins and ends anywhere in the text. -/
def occursIn (e : Expression) (text : List Char) : Bool :=
  (e.ends text (List.replicate (text.length + 1) true)).any id

def sequence (es : List Expression) : Expression :=
  es.foldr seq empty

/-- Repeats an expression. What is repeated at most once or without a limit, and at least once if at
all, can be repeated so again in one go. -/
def times (e : Expression) (least : Nat) (most : Option Nat) : Expression :=
  let isSimple (least : Nat) (most : Option Nat) : Bool :=
    least ≤ 1 && (most = none || most = some 1)
  match e with
  | rep d l m =>
    if isSimple l m && isSimple least most then
      rep d (l * least) (if m = none then none else most)
    else rep e least most
  | _ => rep e least most

def isWidthless : Expression → Bool
  | empty => true
  | set _ => false
  | look _ => true
  | seq a b => a.isWidthless && b.isWidthless
  | alt a b => a.isWidthless && b.isWidthless
  | rep e _ most => most = some 0 || e.isWidthless

/-- Whether a condition on words of all scripts can be met on the way. -/
def usesUnicodeBoundary : Expression → Bool
  | empty => false
  | set _ => false
  | look l => l.isUnicodeBoundary
  | seq a b => a.usesUnicodeBoundary || b.usesUnicodeBoundary
  | alt a b => a.usesUnicodeBoundary || b.usesUnicodeBoundary
  | rep e _ most => most ≠ some 0 && e.usesUnicodeBoundary

end Expression

end FieldFormats.Pattern
