import FieldFormats.Currency.Registry
import FieldFormats.BuiltIn.CurrencyTable
import FieldFormats.BuiltIn.IbanTable
import FieldFormats.Files
import FieldFormats.Iban.Registry
import FieldFormats.Sha256
/-! # The reference tables

Both registries together with where their texts came from. They are built from two texts at once:
no tables hold the IBANs of one load and the currencies of another.
-/
namespace FieldFormats

/-- Where a table came from: its name and the digest of its text, byte order mark included. -/
structure Provenance where
  name : String
  sha256 : String
  deriving DecidableEq, Repr

def Provenance.of (name text : String) : Provenance :=
  ⟨name, Sha256.hexOfText text⟩

structure ReferenceTables where
  iban : Iban.Registry
  currencies : Currency.Registry
  ibanSource : Provenance
  currencySource : Provenance
  deriving DecidableEq, Repr

structure TableText where
  name : String
  text : String
  deriving DecidableEq, Repr

/-- Where the texts of the tables come from: the library itself or two files. -/
inductive Source where
  | builtIn
  | directory (path : String)
  deriving DecidableEq, Repr

namespace Source

/-- The variable that names a directory with tables. -/
def variableName : String := "IDCHECK_DATA_DIR"

/-- The directory that a variable names, as it is written. A value of blanks names none. -/
def ofVariable (value : Option String) : Source :=
  match value with
  | none => builtIn
  | some dir => if Text.isBlankText dir then builtIn else directory dir

/-- One table by its file name: from a directory, which has to exist, or else the built-in text. -/
def readTable (fs : Files) (fileName text : String) : Source → Except LoadError TableText
  | builtIn => .ok ⟨"embedded:" ++ fileName, text⟩
  | directory dir =>
    if fs.isDirectory dir then
      match fs.readText (Files.inside dir fileName) with
      | .ok text => .ok ⟨Files.inside dir fileName, text⟩
      | .error fault => .error (.unreadable (Files.inside dir fileName) fault)
    else .error (.directoryNotFound dir)

def readTables (s : Source) (fs : Files) : Except LoadError (TableText × TableText) :=
  match s.readTable fs BuiltIn.ibanFileName BuiltIn.ibanText with
  | .error e => .error e
  | .ok iban =>
    match s.readTable fs BuiltIn.currencyFileName BuiltIn.currencyText with
    | .error e => .error e
    | .ok currencies => .ok (iban, currencies)

end Source

namespace ReferenceTables

/-- The tables of two texts. The first error of the IBAN table, else of the currencies, stands for
the whole. -/
def ofTexts (iban currencies : TableText) : Traced ReferenceTables := do
  let ibanRegistry ← Iban.Registry.load iban.name iban.text
  let currencyRegistry ← Currency.Registry.load currencies.name currencies.text
  pure ⟨ibanRegistry, currencyRegistry, .of iban.name iban.text,
    .of currencies.name currencies.text⟩

/-- The tables of a source. Both texts are read before either is looked into. -/
def load (fs : Files) (s : Source) : Traced ReferenceTables := do
  let texts ← Traced.ofExcept (s.readTables fs)
  ofTexts texts.1 texts.2

def installedEvent (t : ReferenceTables) : Log.Event where
  target := "idcheck_standards::tables"
  level := .info
  message := "Installed reference tables"
  fields := [("iban_source", .text t.ibanSource.name), ("iban_sha256", .text t.ibanSource.sha256),
    ("iban_formats", .number t.iban.size), ("currency_source", .text t.currencySource.name),
    ("currency_sha256", .text t.currencySource.sha256),
    ("currencies", .number t.currencies.size)]

end ReferenceTables

end FieldFormats
