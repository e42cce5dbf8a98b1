import FieldFormats.Pattern.CharSet
import FieldFormats.Pattern.Expression
import FieldFormats.Text.Numeral
/-! # Lexemes of the pattern notation

The notation is read in two stages. The first, here, cuts a text into lexemes; the brackets and
parentheses of a text that passes have partners. In the verbose mode, which a group can turn on
and off, blanks and comments between lexemes are skipped, and so it belongs to this stage.
-/
namespace FieldFormats.Pattern

open FieldFormats.Text

inductive Flag where
  | caseless | multiLine | dotAll | crlf | unicode | verbose
  /-- Turns short and long repetition around, which decides only where a match ends. -/
  | swapped
  deriving DecidableEq, Repr

def Flag.ofLetter? : Char → Option Flag
  | 'i' => some caseless
  | 'm' => some multiLine
  | 's' => some dotAll
  | 'R' => some crlf
  | 'u' => some unicode
  | 'x' => some verbose
  | 'U' => some swapped
  | _ => none

/-- Flags to turn on or off; none occurs twice. -/
abbrev FlagChange := List (Flag × Bool)

def FlagChange.apply (change : FlagChange) (f : Flag) (before : Bool) : Bool :=
  match change.find? (·.1 = f) with
  | some e => e.2
  | none => before

/-- A condition on a place as it is written; flags decide what it means. -/
inductive Anchor where
  | caret | dollar | textStart | textEnd
  | wordBoundary | noWordBoundary | wordStart | wordEnd | noWordBefore | noWordAfter
  deriving DecidableEq, Repr

inductive ClassName where
  | digit | blank | word
  | property (p : Property)
  deriving DecidableEq, Repr

inductive SetOperator where
  | intersection | difference | symmetricDifference
  deriving DecidableEq, Repr

structure Literal where
  char : Char
  /-- Written as two hexadecimal digits, which may mean a byte. -/
  asByte : Bool := false
  deriving DecidableEq, Repr

inductive Lexeme where
  | literal (l : Literal)
  | dot
  | anchor (a : Anchor)
  | cls (name : ClassName) (denied : Bool)
  | groupOpen (captures : Bool) (change : FlagChange)
  | groupClose
  | flags (change : FlagChange)
  | bar
  | repetition (least : Nat) (most : Option Nat)
  | setOpen (denied : Bool)
  | setClose
  | setOperator (o : SetOperator)
  | setRange (first last : Literal)
  | setClass (s : CharSet) (denied : Bool)
  deriving DecidableEq, Repr

/-- Drops blanks and comments, which begin with a hash and end with the line. The flag tells
whether a comment has begun. -/
def skipBlanks : Bool → List Char → List Char
  | _, [] => []
  | true, c :: cs => skipBlanks (c ≠ '\n') cs
  | false, c :: cs =>
    if isBlank c then skipBlanks false cs
    else if c = '#' then skipBlanks true cs
    else c :: cs

/-- What may stand between lexemes in the current mode. -/
def skip (verbose : Bool) (cs : List Char) : List Char :=
  if verbose then skipBlanks false cs else cs

/-- What stands in front of the first `}`, without skipped characters, and what follows it. The
second flag tells whether a comment has begun. -/
def braced (verbose : Bool) : Bool → List Char → Option (List Char × List Char)
  | _, [] => none
  | true, c :: cs => braced verbose (c ≠ '\n') cs
  | false, c :: cs =>
    if verbose && isBlank c then braced verbose false cs
    else if verbose && c = '#' then braced verbose true cs
    else if c = '\x7d' then some ([], cs)
    else (braced verbose false cs).map fun r => (c :: r.1, r.2)

def hexCharacter? (ds : List Char) : Option Char :=
  match hexadecimal? ds with
  | some n => if n.isValidChar then some (Char.ofNat n) else none
  | none => none

def takeHex (verbose : Bool) : Nat → List Char → Option (List Char × List Char)
  | 0, cs => some ([], cs)
  | n + 1, cs =>
    match skip verbose cs with
    | [] => none
    | c :: cs =>
      if (hexValue? c).isSome then (takeHex verbose n cs).map fun r => (c :: r.1, r.2) else none

/-- A character by its code point: `digits` digits, or any number of them in braces. -/
def readHex (verbose : Bool) (digits : Nat) (cs : List Char) :
    Option (Lexeme × List Char) :=
  match skip verbose cs with
  | '\x7b' :: cs => do
    let (ds, rest) ← braced verbose false cs
    let c ← hexCharacter? ds
    pure (.literal ⟨c, false⟩, rest)
  | cs => do
    let (ds, rest) ← takeHex verbose digits cs
    let c ← hexCharacter? ds
    pure (.literal ⟨c, digits = 2⟩, rest)

/-- A property by its name, which is one character or stands in braces. -/
def readProperty (verbose denied : Bool) (cs : List Char) : Option (Lexeme × List Char) := do
  let (name, rest) ← match skip verbose cs with
    | [] => none
    | '\x7b' :: cs => braced verbose false cs
    | c :: cs => if c = '\\' then none else some ([c], cs)
  let (p, unequal) ← Property.query? name
  pure (.cls (.property p) (denied != unequal), rest)

def isBoundaryLetter (c : Char) : Bool :=
  c.isAlpha || c = '-'

def boundaryNames : List (String × Anchor) :=
  [ ("start", .wordStart), ("end", .wordEnd), ("start-half", .noWordBefore),
    ("end-half", .noWordAfter) ]

/-- A word boundary may have a name in braces. Braces that begin otherwise are a repetition. -/
def readBoundary (verbose : Bool) (cs : List Char) : Option (Lexeme × List Char) :=
  match cs with
  | '\x7b' :: inner =>
    match skip verbose inner with
    | [] => none
    | c :: _ =>
      if isBoundaryLetter c then do
        let (name, rest) ← braced verbose false inner
        let entry ← boundaryNames.find? fun e => e.1.toList = name
        pure (.anchor entry.2, rest)
      else some (.anchor .wordBoundary, cs)
  | _ => some (.anchor .wordBoundary, cs)

def letterEscape? : Char → Option Lexeme
  | 'a' => some (.literal ⟨'\x07', false⟩)
  | 'f' => some (.literal ⟨'\x0c', false⟩)
  | 't' => some (.literal ⟨'\t', false⟩)
  | 'n' => some (.literal ⟨'\n', false⟩)
  | 'r' => some (.literal ⟨'\r', false⟩)
  | 'v' => some (.literal ⟨'\x0b', false⟩)
  | 'd' => some (.cls .digit false)
  | 'D' => some (.cls .digit true)
  | 's' => some (.cls .blank false)
  | 'S' => some (.cls .blank true)
  | 'w' => some (.cls .word false)
  | 'W' => some (.cls .word true)
  | 'A' => some (.anchor .textStart)
  | 'z' => some (.anchor .textEnd)
  | 'B' => some (.anchor .noWordBoundary)
  | '<' => some (.anchor .wordStart)
  | '>' => some (.anchor .wordEnd)
  | _ => none

/-- What follows a backslash. Any ASCII character but letters and digits may be escaped. -/
def readEscape (verbose : Bool) : List Char → Option (Lexeme × List Char)
  | [] => none
  | c :: cs =>
    if c = 'x' then readHex verbose 2 cs
    else if c = 'u' then readHex verbose 4 cs
    else if c = 'U' then readHex verbose 8 cs
    else if c = 'p' then readProperty verbose false cs
    else if c = 'P' then readProperty verbose true cs
    else if c = 'b' then readBoundary verbose cs
    else match letterEscape? c with
      | some l => some (l, cs)
      | none =>
        if c.toNat < 128 && !c.isAlphanum then some (.literal ⟨c, false⟩, cs) else none

/-- The digits of a count and what follows them. The second flag tells whether a comment has
begun. -/
def countDigits (verbose : Bool) : Bool → List Char → List Char × List Char
  | _, [] => ([], [])
  | true, c :: cs => countDigits verbose (c ≠ '\n') cs
  | false, c :: cs =>
    if c.isDigit then
      let (ds, rest) := countDigits verbose false cs
      (c :: ds, rest)
    else if verbose && isBlank c then countDigits verbose false cs
    else if verbose && c = '#' then countDigits verbose true cs
    else ([], c :: cs)

/-- Counts are the numbers of 32 bits. -/
def countBound : Nat := 0x100000000

/-- A count with blanks around it, and what follows. -/
def readCount (verbose : Bool) (cs : List Char) : Option Nat × List Char :=
  let (ds, rest) := countDigits verbose false (cs.dropWhile isBlank)
  (if ds ≠ [] ∧ decimal ds < countBound then some (decimal ds) else none,
    skip verbose (rest.dropWhile isBlank))

/-- A question mark after a repetition decides only where a match ends. -/
def dropLazy : List Char → List Char
  | '?' :: cs => cs
  | cs => cs

def readBounds (verbose : Bool) (cs : List Char) : Option (Lexeme × List Char) :=
  match readCount verbose (skip verbose cs) with
  | (some least, '\x7d' :: rest) =>
    some (.repetition least (some least), dropLazy (skip verbose rest))
  | (some least, ',' :: rest) =>
    match skip verbose rest with
    | '\x7d' :: rest => some (.repetition least none, dropLazy (skip verbose rest))
    | rest =>
      match readCount verbose rest with
      | (some most, '\x7d' :: rest) =>
        if least ≤ most then
          some (.repetition least (some most), dropLazy (skip verbose rest))
        else none
      | _ => none
  | _ => none

/-- Flags up to the colon or parenthesis that ends them, which is the second part of the answer.
A dash turns off the flags behind it; there is at most one, and not at the end. -/
def readFlags (change : FlagChange) (off dangling : Bool) :
    List Char → Option (FlagChange × Char × List Char)
  | [] => none
  | c :: cs =>
    if c = ':' ∨ c = ')' then if dangling then none else some (change, c, cs)
    else if c = '-' then if off then none else readFlags change true true cs
    else match Flag.ofLetter? c with
      | none => none
      | some f =>
        if change.any (·.1 = f) then none else readFlags (change ++ [(f, !off)]) off false cs

def isGroupName : List Char → Bool
  | [] => false
  | c :: cs => (c = '_' || isAlphabetic c) &&
    cs.all fun c => c = '_' || c = '.' || c = '[' || c = ']' || isAlphanumeric c

/-- Where a reader of the notation stands. -/
structure Reader where
  verbose : Bool := false
  /-- The modes to return to at the end of each open group, the innermost first. -/
  outer : List Bool := []
  brackets : Nat := 0
  names : List (List Char) := []
  deriving DecidableEq, Repr

/-- Lexemes, the reader behind them, and the rest of the text. -/
abbrev Reading := Option (List Lexeme × Reader × List Char)

namespace Reader

def enter (r : Reader) (verbose : Bool) : Reader :=
  { r with verbose := verbose, outer := r.verbose :: r.outer }

def readNamedGroup (r : Reader) (cs : List Char) : Reading :=
  let name := cs.takeWhile (· ≠ '>')
  match cs.dropWhile (· ≠ '>') with
  | [] => none
  | _ :: rest =>
    if isGroupName name ∧ name ∉ r.names then
      some ([.groupOpen true []], { r.enter r.verbose with names := name :: r.names }, rest)
    else none

/-- A group with flags of its own, or flags for the rest of the group around. -/
def readFlagGroup (r : Reader) (cs : List Char) : Reading :=
  match readFlags [] false false cs with
  | none => none
  | some (change, mark, rest) =>
    let verbose := change.apply .verbose r.verbose
    if mark = ':' then some ([.groupOpen false change], r.enter verbose, rest)
    else if change = [] then none
    else some ([.flags change], { r with verbose := verbose }, rest)

/-- What follows an opening parenthesis. Conditions on the text around a match are refused. -/
def readGroup (r : Reader) (cs : List Char) : Reading :=
  match skip r.verbose cs with
  | '?' :: '=' :: _ => none
  | '?' :: '!' :: _ => none
  | '?' :: '<' :: '=' :: _ => none
  | '?' :: '<' :: '!' :: _ => none
  | '?' :: 'P' :: '<' :: rest => r.readNamedGroup rest
  | '?' :: '<' :: rest => r.readNamedGroup rest
  | '?' :: rest => r.readFlagGroup rest
  | rest => some ([.groupOpen true []], r.enter r.verbose, rest)

/-- The dashes at the start of a set stand for themselves. The flag tells whether a comment has
begun. -/
def leadingDashes (verbose : Bool) : Bool → List Char → Nat × List Char
  | _, [] => (0, [])
  | true, c :: cs => leadingDashes verbose (c ≠ '\n') cs
  | false, c :: cs =>
    if c = '-' then
      let (n, rest) := leadingDashes verbose false cs
      (n + 1, rest)
    else if verbose && isBlank c then leadingDashes verbose false cs
    else if verbose && c = '#' then leadingDashes verbose true cs
    else (0, c :: cs)

/-- What follows an opening bracket up to the first ordinary member: a caret, dashes, or a closing
bracket that stands for itself. -/
def readSetOpen (r : Reader) (cs : List Char) : Reading :=
  let cs := skip r.verbose cs
  let denied := cs.head? = some '^'
  let (dashes, cs) := leadingDashes r.verbose false (if denied then cs.drop 1 else cs)
  let self (c : Char) : Lexeme := .setRange ⟨c, false⟩ ⟨c, false⟩
  let r := { r with brackets := r.brackets + 1 }
  let begun := .setOpen denied :: List.replicate dashes (self '-')
  match cs with
  | ']' :: rest => if dashes = 0 then some (begun ++ [self ']'], r, rest) else some (begun, r, cs)
  | _ => some (begun, r, cs)

def asciiClass? (cs : List Char) : Option (Lexeme × List Char) :=
  match cs with
  | ':' :: cs =>
    let denied := cs.head? = some '^'
    let cs := if denied then cs.drop 1 else cs
    match cs.dropWhile (· ≠ ':') with
    | ':' :: ']' :: rest =>
      (asciiClasses.find? fun e => e.1.toList = cs.takeWhile (· ≠ ':')).map fun e =>
        (.setClass e.2 denied, rest)
    | _ => none
  | _ => none

/-- The character that decides whether a dash makes a range: the next one, blanks and one hash
aside in the verbose mode. -/
def afterDash (verbose : Bool) (cs : List Char) : Option Char :=
  if verbose then
    match cs.dropWhile isBlank with
    | '#' :: rest => (rest.dropWhile isBlank).head?
    | rest => rest.head?
  else cs.head?

def setMember (verbose : Bool) : List Char → Option (Lexeme × List Char)
  | [] => none
  | '\\' :: cs => readEscape verbose cs
  | c :: cs => some (.literal ⟨c, false⟩, cs)

def alone? : Lexeme → Option Lexeme
  | .literal l => some (.setRange l l)
  | .cls name denied => some (.cls name denied)
  | _ => none

/-- A member of a set, or a range with the high end behind a dash. -/
def readSetRange (r : Reader) (cs : List Char) : Reading := do
  let (low, rest) ← setMember r.verbose cs
  let rest := skip r.verbose rest
  match rest with
  | '-' :: more =>
    if afterDash r.verbose more = some ']' ∨ afterDash r.verbose more = some '-' then
      pure ([← alone? low], r, rest)
    else
      let (high, rest) ← setMember r.verbose (skip r.verbose more)
      match low, high with
      | .literal a, .literal b =>
        if a.char ≤ b.char then pure ([.setRange a b], r, rest) else none
      | _, _ => none
  | _ => pure ([← alone? low], r, rest)

def nextInSet (r : Reader) (cs : List Char) : Reading :=
  match skip r.verbose cs with
  | [] => none
  | '[' :: rest =>
    match asciiClass? rest with
    | some (l, rest) => some ([l], r, rest)
    | none => r.readSetOpen rest
  | ']' :: rest => some ([.setClose], { r with brackets := r.brackets - 1 }, rest)
  | '&' :: '&' :: rest => some ([.setOperator .intersection], r, rest)
  | '-' :: '-' :: rest => some ([.setOperator .difference], r, rest)
  | '~' :: '~' :: rest => some ([.setOperator .symmetricDifference], r, rest)
  | rest => r.readSetRange rest

def nextOutside (r : Reader) (cs : List Char) : Reading :=
  match skip r.verbose cs with
  | [] => some ([], r, [])
  | '(' :: rest => r.readGroup rest
  | ')' :: rest =>
    match r.outer with
    | [] => none
    | verbose :: outer => some ([.groupClose], { r with verbose := verbose, outer := outer }, rest)
  | '[' :: rest => r.readSetOpen rest
  | '|' :: rest => some ([.bar], r, rest)
  | '?' :: rest => some ([.repetition 0 (some 1)], r, dropLazy rest)
  | '*' :: rest => some ([.repetition 0 none], r, dropLazy rest)
  | '+' :: rest => some ([.repetition 1 none], r, dropLazy rest)
  | '\x7b' :: rest => (readBounds r.verbose rest).map fun l => ([l.1], r, l.2)
  | '\\' :: rest => (readEscape r.verbose rest).map fun l => ([l.1], r, l.2)
  | '.' :: rest => some ([.dot], r, rest)
  | '^' :: rest => some ([.anchor .caret], r, rest)
  | '$' :: rest => some ([.anchor .dollar], r, rest)
  | c :: rest => some ([.literal ⟨c, false⟩], r, rest)

def next (r : Reader) (cs : List Char) : Reading :=
  if r.brackets = 0 then r.nextOutside cs else r.nextInSet cs

/-- All lexemes of a text. Each reading takes at least one character. -/
def readAll (r : Reader) (cs : List Char) : Option (List Lexeme) :=
  match cs with
  | [] => if r.outer = [] ∧ r.brackets = 0 then some [] else none
  | c :: cs =>
    match r.next (c :: cs) with
    | none => none
    | some (ls, s, rest) =>
      if _shorter : rest.length < (c :: cs).length then (s.readAll rest).map (ls ++ ·) else none
termination_by cs.length
decreasing_by exact _shorter

end Reader

end FieldFormats.Pattern
