import FieldFormats.Iban.Format
import FieldFormats.Table.Record
/-! # The IBAN registry

The formats of all countries in a table, one for each country code. A registry is made from a
whole table or not at all.
-/
namespace FieldFormats.Iban

open FieldFormats.Table

/-- Country, total length, BBAN grammar and layout. -/
def tableWidth : Nat := 4

/-- The lengths that a table can declare are the numbers of 64 bits. -/
def lengthBound : Nat := 0x10000000000000000

structure Registry where
  /-- In the order of their country codes. -/
  formats : List Format
  deriving DecidableEq, Repr

namespace Registry

def insertFormat (f : Format) : List Format → List Format
  | [] => [f]
  | g :: gs => if f.countryCode < g.countryCode then f :: g :: gs else g :: insertFormat f gs

def find? (r : Registry) (code : String) : Option Format :=
  r.formats.find? (·.countryCode = code)

def contains (r : Registry) (code : String) : Bool :=
  r.formats.any (·.countryCode = code)

def size (r : Registry) : Nat :=
  r.formats.length

def countryCodes (r : Registry) : List String :=
  r.formats.map (·.countryCode)

/-- The least length of any format; shorter candidates need no look-up. -/
def minimumLength (r : Registry) : Nat :=
  ((r.formats.map (·.length)).min?).getD 0

/-- The country code of a row: the two upper case letters that its layout begins with. -/
def layoutCode? (layout : List Char) : Option String :=
  match layout with
  | a :: b :: _ => if a.isUpper ∧ b.isUpper then some (String.ofList [a, b]) else none
  | _ => none

/-- One row: the length is looked at first, then the grammar, the country code and whether
length and grammar agree. -/
def readFormat (table : String) (row : Record) : Except LoadError Format :=
  match row.number 1 lengthBound table .length with
  | .error e => .error e
  | .ok length =>
    match Grammar.parse (row.field 2) with
    | .error e => .error e
    | .ok grammar =>
      match layoutCode? (row.field 3).toList with
      | none => .error (.invalidValue table row.line .countryCode (row.field 3))
      | some code => Format.make (row.field 0) code length grammar (row.field 3)

def target : String := "idcheck_standards::iban::registry"

def compiledEvent (table : String) (f : Format) : Log.Event where
  target := target
  level := .trace
  message := "Compiled IBAN format"
  fields := [("table", .text table), ("country_code", .text f.countryCode),
    ("length", .number f.length), ("bban", .text f.grammar.source)]

def loadedEvent (table : String) (r : Registry) : Log.Event where
  target := target
  level := .debug
  message := "Loaded IBAN formats"
  fields := [("table", .text table), ("formats", .number r.size),
    ("minimum_length", .number r.minimumLength)]

/-- The formats of rows, added to those found before. A country code may occur once. -/
def readFormats (table : String) (found : List Format) : List Record → Traced (List Format)
  | [] => pure found
  | row :: rows => do
    let f ← Traced.ofExcept (readFormat table row)
    if found.any (·.countryCode = f.countryCode) then
      Traced.fail (.duplicateKey table row.line (.country f.countryCode))
    else
      Traced.note (compiledEvent table f)
      readFormats table (insertFormat f found) rows

/-- The registry of a table's text. A table without rows makes none. -/
def load (table text : String) : Traced Registry := do
  let rows ← Table.load table tableWidth text
  let formats ← readFormats table [] rows
  if formats = [] then Traced.fail (.emptyTable table)
  else
    let registry : Registry := ⟨formats⟩
    Traced.note (loadedEvent table registry)
    pure registry

end Registry

end FieldFormats.Iban
