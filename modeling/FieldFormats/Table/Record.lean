import FieldFormats.Text.Pieces
import FieldFormats.Text.Numeral
import FieldFormats.Text.Blank
import FieldFormats.Traced
/-! # Reference tables as records

A table is lines of tab separated fields, taken as they are: nothing is quoted. A record ends at
LF, CR or CR LF. Empty lines are skipped, and so are comments, from a `#` at the start of a line to
its LF; a CR does not end a comment. A comment that the end of the text cuts off is not skipped:
it counts as a record with one empty field. One byte order mark at the very start is dropped.
-/
namespace FieldFormats.Table

open FieldFormats.Text

structure Record where
  /-- The line at which the search for the record began: 1, and after a record one more than
  the LFs up to the end of that record. Skipped lines in front of a record do not count. -/
  line : Nat
  fields : List String
  deriving DecidableEq, Repr

namespace Record

/-- A field by its column, empty if there is none. -/
def field (r : Record) (i : Nat) : String :=
  r.fields.getD i ""

def fieldsOf (line : List Char) : List String :=
  (pieces '\t' line).map String.ofList

end Record

/-- Where a reader stands. -/
inductive Position where
  /-- Looking for the next record. -/
  | between
  /-- Inside a comment. -/
  | comment
  /-- Inside a record; the characters of its line so far, the last one first. -/
  | inside (seen : List Char)
  deriving DecidableEq, Repr

/-- The records of a text from a position on. `start` is the line at which the current search
began, `line` the line of the next character. -/
def scan (start line : Nat) : Position → List Char → List Record
  | .between, [] => []
  | .comment, [] => [⟨start, [""]⟩]
  | .inside seen, [] => [⟨start, Record.fieldsOf seen.reverse⟩]
  | .between, c :: cs =>
    if c = '\n' then scan start (line + 1) .between cs
    else if c = '\r' then scan start line .between cs
    else if c = '#' then scan start line .comment cs
    else scan start line (.inside [c]) cs
  | .comment, c :: cs =>
    if c = '\n' then scan start (line + 1) .between cs
    else scan start line .comment cs
  | .inside seen, c :: cs =>
    if c = '\n' then
      ⟨start, Record.fieldsOf seen.reverse⟩ :: scan (line + 1) (line + 1) .between cs
    else if c = '\r' then
      ⟨start, Record.fieldsOf seen.reverse⟩ :: scan line line .between cs
    else scan start line (.inside (c :: seen)) cs

def dropMark : List Char → List Char
  | '\ufeff' :: cs => cs
  | cs => cs

def records (text : String) : List Record :=
  scan 1 1 .between (dropMark text.toList)

def readEvent (table : String) (r : Record) : Log.Event where
  target := "idcheck_standards::loader"
  level := .trace
  message := "Read reference record"
  fields := [("table", .text table), ("line", .number r.line)]

/-- Passes records on up to the first that has not `width` fields, which is an error. -/
def checkWidth (table : String) (width : Nat) : List Record → Traced (List Record)
  | [] => pure []
  | r :: rs =>
    if r.fields.length = width then do
      Traced.note (readEvent table r)
      (r :: ·) <$> checkWidth table width rs
    else Traced.fail (.fieldCount table r.line width r.fields.length)

/-- The records of a table all of whose rows have `width` fields. -/
def load (table : String) (width : Nat) (text : String) : Traced (List Record) :=
  checkWidth table width (records text)

namespace Record

/-- A number below `bound` in a column, blanks around it aside. -/
def number (r : Record) (i : Nat) (bound : Nat) (table : String) (column : Column) :
    Except LoadError Nat :=
  match readNumber? bound (trim (r.field i).toList) with
  | some n => .ok n
  | none => .error (.invalidValue table r.line column (r.field i))

end Record

end FieldFormats.Table
