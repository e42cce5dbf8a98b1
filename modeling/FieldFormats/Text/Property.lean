import FieldFormats.Text.Blank
import FieldFormats.Text.Letter
/-! # Character properties by name

The properties that a notation can ask for by name. Names are compared without regard to letter
case, spaces, underscores, dashes and a leading `is`.
-/
namespace FieldFormats.Text

inductive Property where
  | any
  | assigned
  | ascii
  | alphabetic
  | lowercase
  | uppercase
  | whiteSpace
  | category (ks : List Category)
  deriving DecidableEq, Repr

namespace Property

def holds : Property → Char → Bool
  | any, _ => true
  | assigned, c => !Category.unassigned.contains c
  | ascii, c => c.toNat < 128
  | alphabetic, c => isAlphabetic c
  | lowercase, c => isLowercase c
  | uppercase, c => isUppercase c
  | whiteSpace, c => isBlank c
  | category ks, c => hasCategory ks c

/-- The short and the long name of each category, and of the groups they make up. -/
def categoryNames : List (String × String × List Category) :=
  [ ("lu", "uppercaseletter", [.uppercaseLetter]), ("ll", "lowercaseletter", [.lowercaseLetter]),
    ("lt", "titlecaseletter", [.titlecaseLetter]), ("lm", "modifierletter", [.modifierLetter]),
    ("lo", "otherletter", [.otherLetter]), ("mn", "nonspacingmark", [.nonspacingMark]),
    ("mc", "spacingmark", [.spacingMark]), ("me", "enclosingmark", [.enclosingMark]),
    ("nd", "decimalnumber", [.decimalNumber]), ("nd", "digit", [.decimalNumber]),
    ("nl", "letternumber", [.letterNumber]), ("no", "othernumber", [.otherNumber]),
    ("pc", "connectorpunctuation", [.connectorPunctuation]),
    ("pd", "dashpunctuation", [.dashPunctuation]), ("ps", "openpunctuation", [.openPunctuation]),
    ("pe", "closepunctuation", [.closePunctuation]),
    ("pi", "initialpunctuation", [.initialPunctuation]),
    ("pf", "finalpunctuation", [.finalPunctuation]),
    ("po", "otherpunctuation", [.otherPunctuation]), ("sm", "mathsymbol", [.mathSymbol]),
    ("sc", "currencysymbol", [.currencySymbol]), ("sk", "modifiersymbol", [.modifierSymbol]),
    ("so", "othersymbol", [.otherSymbol]), ("zs", "spaceseparator", [.spaceSeparator]),
    ("zl", "lineseparator", [.lineSeparator]), ("zp", "paragraphseparator", [.paragraphSeparator]),
    ("cc", "control", [.control]), ("cc", "cntrl", [.control]), ("cf", "format", [.format]),
    ("cs", "surrogate", []), ("co", "privateuse", [.privateUse]),
    ("cn", "unassigned", [.unassigned]), ("l", "letter", Category.letters),
    ("lc", "casedletter", [.uppercaseLetter, .lowercaseLetter, .titlecaseLetter]),
    ("m", "mark", Category.marks), ("m", "combiningmark", Category.marks),
    ("n", "number", Category.numbers), ("p", "punctuation", Category.punctuation),
    ("p", "punct", Category.punctuation), ("s", "symbol", Category.symbols),
    ("z", "separator", Category.separators), ("c", "other", Category.others) ]

def binaryNames : List (String × String × Property) :=
  [ ("alpha", "alphabetic", alphabetic), ("lower", "lowercase", lowercase),
    ("upper", "uppercase", uppercase), ("space", "whitespace", whiteSpace),
    ("wspace", "whitespace", whiteSpace) ]

/-- The part of a name that counts. Of `isc` the first two letters are no prefix. -/
def plainName (cs : List Char) : List Char :=
  let isFirst (p q : Char) : Bool := (p = 'i' || p = 'I') && (q = 's' || q = 'S')
  let (hadIs, rest) := match cs with
    | p :: q :: rest => if isFirst p q then (true, rest) else (false, cs)
    | _ => (false, cs)
  let kept := (rest.filter fun c =>
    c.toNat < 128 && c ≠ ' ' && c ≠ '_' && c ≠ '-').map Char.toLower
  if hadIs && kept = ['c'] then ['i', 's', 'c'] else kept

def category? (name : List Char) : Option Property :=
  if name = "any".toList then some any
  else if name = "assigned".toList then some assigned
  else if name = "ascii".toList then some ascii
  else (categoryNames.find? fun e => e.1.toList = name || e.2.1.toList = name).map fun e =>
    category e.2.2

def named? (name : List Char) : Option Property :=
  let name := plainName name
  match binaryNames.find? fun e => e.1.toList = name || e.2.1.toList = name with
  | some e => some e.2.2
  | none => category? name

def valued? (name value : List Char) : Option Property :=
  let name := plainName name
  if name = "gc".toList || name = "generalcategory".toList then category? (plainName value)
  else none

/-- What stands in the braces after a backslash and a `p`: the property, and whether it is
denied by `!=`. -/
def query? (cs : List Char) : Option (Property × Bool) :=
  match splitDenial cs with
  | some (name, value) => (valued? name value).map (·, true)
  | none =>
    let mark := if cs.contains ':' then ':' else '='
    match cs.dropWhile (· ≠ mark) with
    | [] => (named? cs).map (·, false)
    | _ :: value => (valued? (cs.takeWhile (· ≠ mark)) value).map (·, false)
where
  splitDenial : List Char → Option (List Char × List Char)
    | [] => none
    | [_] => none
    | c :: d :: cs =>
      if c = '!' ∧ d = '=' then some ([], cs)
      else (splitDenial (d :: cs)).map fun r => (c :: r.1, r.2)

end Property

end FieldFormats.Text
