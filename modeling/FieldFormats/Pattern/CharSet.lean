import FieldFormats.Text.Folding
import FieldFormats.Text.Property
/-! # Sets of characters

Sets as patterns describe them: ranges and properties, combined, turned around, or closed under
letter case.
-/
namespace FieldFormats.Pattern

open FieldFormats.Text

inductive CharSet where
  /-- Ranges of characters, ends included. -/
  | ranges (rs : List (Char × Char))
  | property (p : Property)
  | complement (s : CharSet)
  | union (s t : CharSet)
  | inter (s t : CharSet)
  /-- With each character all that differ from it in letter case only. -/
  | caseless (s : CharSet)
  /-- The same for the letters of ASCII, which stay among themselves. -/
  | asciiCaseless (s : CharSet)
  deriving DecidableEq, Repr

namespace CharSet

def contains : CharSet → Char → Bool
  | ranges rs, c => rs.any fun r => r.1 ≤ c && c ≤ r.2
  | property p, c => p.holds c
  | complement s, c => !s.contains c
  | union s t, c => s.contains c || t.contains c
  | inter s t, c => s.contains c && t.contains c
  | caseless s, c => (caseVariants c).any s.contains
  | asciiCaseless s, c => (asciiCaseVariants c).any s.contains

def empty : CharSet := ranges []

def single (c : Char) : CharSet := ranges [(c, c)]

def difference (s t : CharSet) : CharSet :=
  inter s (complement t)

def symmetricDifference (s t : CharSet) : CharSet :=
  union (difference s t) (difference t s)

def digits : CharSet := property (.category [.decimalNumber])

def blanks : CharSet := property .whiteSpace

def words : CharSet :=
  let categories := Category.decimalNumber :: .connectorPunctuation :: Category.marks
  union (property .alphabetic)
    (union (property (.category categories)) (ranges [('\u200c', '\u200d')]))

def asciiDigits : CharSet := ranges [('0', '9')]

def asciiBlanks : CharSet := ranges [('\t', '\r'), (' ', ' ')]

def asciiWords : CharSet := ranges [('0', '9'), ('A', 'Z'), ('_', '_'), ('a', 'z')]

end CharSet

/-- The classes of ASCII characters that have a name of their own inside brackets. -/
def asciiClasses : List (String × CharSet) :=
  [ ("alnum", .ranges [('0', '9'), ('A', 'Z'), ('a', 'z')]),
    ("alpha", .ranges [('A', 'Z'), ('a', 'z')]),
    ("ascii", .ranges [('\x00', '\x7f')]),
    ("blank", .ranges [('\t', '\t'), (' ', ' ')]),
    ("cntrl", .ranges [('\x00', '\x1f'), ('\x7f', '\x7f')]),
    ("digit", .asciiDigits),
    ("graph", .ranges [('!', '~')]),
    ("lower", .ranges [('a', 'z')]),
    ("print", .ranges [(' ', '~')]),
    ("punct", .ranges [('!', '/'), (':', '@'), ('[', '\x60'), ('\x7b', '~')]),
    ("space", .asciiBlanks),
    ("upper", .ranges [('A', 'Z')]),
    ("word", .asciiWords),
    ("xdigit", .ranges [('0', '9'), ('A', 'F'), ('a', 'f')]) ]

end FieldFormats.Pattern
