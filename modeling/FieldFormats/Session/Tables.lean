import FieldFormats.Currency.Verdict
import FieldFormats.Iban.Verdict
import FieldFormats.Session.State
/-! # Active tables

Tables become active in three ways: by the first successful build, by a reload, or by an
installation. What fails leaves the active ones alone. Checks look at the active tables each time
unless they are pinned to tables of their own.
-/
namespace FieldFormats.Session

def load (s : Session) (source : Source) : Except LoadError Snapshot × Session :=
  let traced := ReferenceTables.load s.files source
  let s := s.report traced.events
  match traced.result with
  | .error e => (.error e, s)
  | .ok tables => (.ok ⟨s.fresh, s.fresh, tables⟩, { s with fresh := s.fresh + 1 })

def install (s : Session) (t : Snapshot) : Session :=
  { s.report [t.tables.installedEvent] with active := some t }

/-- Active tables: those there are, or else new ones from the source. -/
def ensure (s : Session) (source : Source) : Except LoadError Snapshot × Session :=
  match s.active with
  | some t => (.ok t, s)
  | none =>
    match s.load source with
    | (.error e, s) => (.error e, s)
    | (.ok t, s) => (.ok t, s.install t)

/-- Active tables, built on first use from what the environment asks for. -/
def current (s : Session) : Except LoadError Snapshot × Session :=
  s.ensure s.configuredSource

def reload (s : Session) (source : Source) : Except LoadError Snapshot × Session :=
  match s.load source with
  | (.error e, s) => (.error e, s)
  | (.ok t, s) => (.ok t, s.install t)

def installTexts (s : Session) (iban currencies : TableText) :
    Except LoadError Snapshot × Session :=
  let traced := ReferenceTables.ofTexts iban currencies
  let s := s.report traced.events
  match traced.result with
  | .error e => (.error e, s)
  | .ok tables =>
    let t : Snapshot := ⟨s.fresh, s.fresh, tables⟩
    (.ok t, { s with fresh := s.fresh + 1 }.install t)

def installCopy (s : Session) (t : Snapshot) : Snapshot × Session :=
  let copy := { t with stamp := s.fresh }
  (copy, { s with fresh := s.fresh + 1 }.install copy)

/-- Several calls of `ensure`. The calls of concurrent threads take turns like these. -/
def ensureRepeatedly (s : Session) (source : Source) :
    Nat → List (Except LoadError Snapshot) × Session
  | 0 => ([], s)
  | n + 1 =>
    let (first, s) := s.ensure source
    let (rest, s) := ensureRepeatedly s source n
    (first :: rest, s)

/-- The tables of a check: those it is pinned to, or the active ones. -/
def tablesFor (s : Session) (pin : Option Snapshot) : Except LoadError Snapshot × Session :=
  match pin with
  | some t => (.ok t, s)
  | none => s.current

/-- Checks one value as an IBAN. A check restricted to countries does not look at tables for the
empty value; any other check does. -/
def checkIban (s : Session) (pin : Option Snapshot) (scope : Option Iban.CountryScope)
    (value : String) : Except LoadError Bool × Session :=
  if scope.isSome ∧ value = "" then (.ok true, s)
  else match s.tablesFor pin with
    | (.error e, s) => (.error e, s)
    | (.ok t, s) =>
      let registry := t.tables.iban
      let s := s.report (registry.reports s.showValues value)
      match scope with
      | none => (.ok (registry.accepts value), s)
      | some c => (.ok (c.accepts registry.accepts value), s)

def checkCurrency (s : Session) (pin : Option Snapshot) (value : String) :
    Except LoadError Bool × Session :=
  match s.tablesFor pin with
  | (.error e, s) => (.error e, s)
  | (.ok t, s) => (.ok (t.tables.currencies.accepts value), s)

/-- Checks values in turn, up to the first that cannot be checked for want of tables. -/
def checkAll (check : Session → String → Except LoadError Bool × Session) (s : Session) :
    List String → Except LoadError (List Bool) × Session
  | [] => (.ok [], s)
  | v :: vs =>
    match check s v with
    | (.error e, s) => (.error e, s)
    | (.ok b, s) =>
      match checkAll check s vs with
      | (.error e, s) => (.error e, s)
      | (.ok bs, s) => (.ok (b :: bs), s)

def checkIbans (s : Session) (pin : Option Snapshot) (scope : Option Iban.CountryScope)
    (values : List String) : Except LoadError (List Bool) × Session :=
  checkAll (fun s v => s.checkIban pin scope v) s values

def checkCurrencies (s : Session) (pin : Option Snapshot) (values : List String) :
    Except LoadError (List Bool) × Session :=
  checkAll (fun s v => s.checkCurrency pin v) s values

end FieldFormats.Session
