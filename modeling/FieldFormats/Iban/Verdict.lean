import FieldFormats.Iban.Registry
import FieldFormats.Log.Config
import FieldFormats.Presence
import FieldFormats.Text.Sorted
/-! # Checking IBANs

A value is reduced to its ASCII letters and digits in upper case. It is an IBAN if the registry
has a format for its first two characters and that format accepts it. A value long enough to be an
IBAN whose country has no format is reported to the log.
-/
namespace FieldFormats.Iban

open FieldFormats.Text

/-- Letters and digits of ASCII in upper case; all else is dropped. -/
def normalize (value : List Char) : List Char :=
  (value.filter Char.isAlphanum).map Char.toUpper

/-- The first two bytes of a text, where the country code of an IBAN stands. -/
def countryCode? (candidate : List Char) : Option (List Char) :=
  takeBytes? 2 candidate

/-- What a registry says of a value. -/
inductive Verdict where
  | accepted
  | rejected
  /-- Rejected because no format is registered for the country. -/
  | unregistered (code : String)
  deriving DecidableEq, Repr

namespace Registry

/-- The verdict on a candidate in upper case without separators. -/
def judge (r : Registry) (candidate : List Char) : Verdict :=
  if byteLength candidate < r.minimumLength then .rejected
  else match countryCode? candidate with
    | none => .rejected
    | some code =>
      match r.find? (String.ofList code) with
      | some f => if f.accepts candidate then .accepted else .rejected
      | none => .unregistered (String.ofList code)

def verdict (r : Registry) (value : String) : Verdict :=
  match Presence.of value with
  | .empty => .accepted
  | .blank => .rejected
  | .present v => r.judge (normalize v.toList)

/-- Whether the value is empty or an IBAN of a registered country. -/
def accepts (r : Registry) (value : String) : Bool :=
  r.verdict value = .accepted

end Registry

/-- Reported for a country without a format. The value is shown or masked. -/
def unregisteredEvent (showValues : Bool) (code value : String) : Log.Event where
  target := "idcheck_validate::iban"
  level := .error
  message := "No IBAN format registered for country"
  fields := [("country_code", .quoted code), ("iban", .quoted (Log.redact showValues value))]

/-- What a check of the value reports. -/
def Registry.reports (r : Registry) (showValues : Bool) (value : String) : List Log.Event :=
  match r.verdict value with
  | .unregistered code => [unregisteredEvent showValues code value]
  | _ => []

def upperCase (s : String) : String :=
  String.ofList (s.toList.map Char.toUpper)

/-- Countries that a check is restricted to. -/
structure CountryScope where
  /-- In upper case. -/
  allowed : List String
  deriving DecidableEq, Repr

namespace CountryScope

def ofCountries (countries : List String) : CountryScope :=
  ⟨sortedSet (countries.map upperCase)⟩

/-- Whether the value as it was given, separators included, starts with an allowed code. -/
def admits (s : CountryScope) (value : String) : Bool :=
  match countryCode? value.toList with
  | some code => s.allowed.contains (upperCase (String.ofList code))
  | none => false

/-- The restriction of a check. It is not asked about the empty value. -/
def accepts (s : CountryScope) (iban : String → Bool) (value : String) : Bool :=
  value = "" || (iban value && s.admits value)

end CountryScope

end FieldFormats.Iban
