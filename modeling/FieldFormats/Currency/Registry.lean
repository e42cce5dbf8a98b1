import FieldFormats.Table.Record
/-! # The currency registry

The currencies of a table, found by their alphabetic or their numeric code, for which a registry
keeps an index of its own. No two currencies share either code. A registry is made from a whole
table or not at all.
-/
namespace FieldFormats

open FieldFormats.Table

structure Currency where
  code : String
  numericCode : Nat
  name : String
  /-- Where the currency is in use, as free text. -/
  locations : String
  deriving DecidableEq, Repr

namespace Currency

/-- Alphabetic code, numeric code, name and locations. -/
def tableWidth : Nat := 4

def codeLength : Nat := 3

/-- Numeric codes are the numbers of 16 bits. -/
def numericBound : Nat := 0x10000

structure Registry where
  /-- In the order of their alphabetic codes. -/
  currencies : List Currency := []
  /-- The alphabetic code that goes with a numeric one, the newest first. -/
  byNumber : List (Nat × String) := []
  deriving DecidableEq, Repr

namespace Registry

def insertCurrency (c : Currency) : List Currency → List Currency
  | [] => [c]
  | d :: ds => if c.code < d.code then c :: d :: ds else d :: insertCurrency c ds

def find? (r : Registry) (code : String) : Option Currency :=
  r.currencies.find? (·.code = code)

def codeOf? (r : Registry) (number : Nat) : Option String :=
  (r.byNumber.find? (·.1 = number)).map (·.2)

def findNumeric? (r : Registry) (number : Nat) : Option Currency :=
  (r.codeOf? number).bind r.find?

def contains (r : Registry) (code : String) : Bool :=
  r.currencies.any (·.code = code)

def size (r : Registry) : Nat :=
  r.currencies.length

def codes (r : Registry) : List String :=
  r.currencies.map (·.code)

/-- Adds a currency to both indexes. -/
def add (r : Registry) (c : Currency) : Registry where
  currencies := insertCurrency c r.currencies
  byNumber := (c.numericCode, c.code) :: r.byNumber

def isCode (code : List Char) : Bool :=
  code.length = codeLength && code.all Char.isUpper

/-- One row: the alphabetic code is looked at before the numeric one. -/
def readCurrency (table : String) (row : Record) : Except LoadError Currency :=
  if isCode (row.field 0).toList then
    match row.number 1 numericBound table .numericCode with
    | .error e => .error e
    | .ok number => .ok ⟨row.field 0, number, row.field 2, row.field 3⟩
  else .error (.invalidValue table row.line .currencyCode (row.field 0))

def target : String := "idcheck_standards::currency"

def takenEvent (table : String) (c : Currency) (existing : String) : Log.Event where
  target := target
  level := .debug
  message := "Numeric currency code already taken"
  fields := [("table", .text table), ("code", .text c.code), ("existing", .text existing),
    ("numeric_code", .number c.numericCode)]

def readEvent (table : String) (c : Currency) : Log.Event where
  target := target
  level := .trace
  message := "Read currency"
  fields :=
    [("table", .text table), ("code", .text c.code), ("numeric_code", .number c.numericCode)]

def loadedEvent (table : String) (r : Registry) : Log.Event where
  target := target
  level := .debug
  message := "Loaded currencies"
  fields := [("table", .text table), ("currencies", .number r.size)]

/-- The currencies of rows, added to those found before. Of a row that repeats both codes the
alphabetic one is reported. -/
def readCurrencies (table : String) (found : Registry) : List Record → Traced Registry
  | [] => pure found
  | row :: rows => do
    let c ← Traced.ofExcept (readCurrency table row)
    if found.contains c.code then
      Traced.fail (.duplicateKey table row.line (.currency c.code))
    else match found.codeOf? c.numericCode with
      | some existing =>
        Traced.note (takenEvent table c existing)
        Traced.fail (.duplicateKey table row.line (.numeric c.numericCode c.code existing))
      | none =>
        Traced.note (readEvent table c)
        readCurrencies table (found.add c) rows

/-- The registry of a table's text. A table without rows makes none. -/
def load (table text : String) : Traced Registry := do
  let rows ← Table.load table tableWidth text
  let registry ← readCurrencies table {} rows
  if registry.currencies = [] then Traced.fail (.emptyTable table)
  else
    Traced.note (loadedEvent table registry)
    pure registry

end Registry

end Currency

end FieldFormats
