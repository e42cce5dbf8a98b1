import FieldFormats.PlainCheck
import FieldFormats.Session.Logging
import FieldFormats.Session.Tables
/-! # Steps of a session

Everything that can happen to a session as one type of actions, each with an answer, and runs of
them.
-/
namespace FieldFormats

inductive Failure where
  | load (e : LoadError)
  | logging (e : LoggingError)
  | environment (e : VariableError)
  /-- A check or a look at the active tables had to build them and could not. -/
  | panic (e : LoadError)
  /-- A check had to ask a clock for its day and there was none. -/
  | clock (e : Calendar.ClockFault)
  | notKept (name : String)
  deriving DecidableEq, Repr

def Failure.message : Failure → String
  | load e => e.message
  | logging e => e.message
  | environment e => e.message
  | panic e => s!"reference tables failed to load: {e.message}"
  | clock e => e.message
  | notKept name => s!"no tables kept as {name}"

inductive Answer where
  | done
  | tables (t : Snapshot)
  | verdicts (accepted : List Bool)
  | allSame (same : Bool)
  deriving DecidableEq, Repr

/-- A source by itself, or the one that the environment asks for when the step is taken. -/
inductive SourceChoice where
  | given (source : Source)
  | environment
  deriving DecidableEq, Repr

def SourceChoice.resolve (c : SourceChoice) (s : Session) : Source :=
  match c with
  | given source => source
  | environment => s.configuredSource

inductive Action where
  | writeFile (path : String) (bytes : ByteArray)
  | makeDirectory (path : String)
  | removeFile (path : String)
  | setVariable (name : String) (value : Option String)
  | load (source : SourceChoice)
  | ensure (source : SourceChoice)
  | ensureTogether (source : SourceChoice) (callers : Nat)
  | reload (source : SourceChoice)
  | current
  | installTexts (iban currencies : TableText)
  | installKept (name : String)
  | checkIbans (values : List String) (pin : Option String) (countries : Option (List String))
  | checkCurrencies (values : List String) (pin : Option String)
  | checkPlain (check : PlainCheck) (values : List String)
  | startLogging (config : Log.Config) (toBuffer : Bool)
  | emit (event : Log.Event)
  | showValues (enable : Bool)

/-- An action, and the name under which the tables of its answer are kept. -/
structure Step where
  action : Action
  keepAs : Option String := none

namespace Session

def tablesAnswer (r : Except LoadError Snapshot × Session) : Except Failure Answer × Session :=
  (match r.1 with
    | .error e => .error (.load e)
    | .ok t => .ok (.tables t), r.2)

def verdictsAnswer (r : Except LoadError (List Bool) × Session) :
    Except Failure Answer × Session :=
  (match r.1 with
    | .error e => .error (.panic e)
    | .ok bs => .ok (.verdicts bs), r.2)

def plainAnswer : Except Calendar.ClockFault (List Bool) → Except Failure Answer
  | .error e => .error (.clock e)
  | .ok bs => .ok (.verdicts bs)

def loggingAnswer (r : Except LoggingError Unit × Session) : Except Failure Answer × Session :=
  (match r.1 with
    | .error e => .error (.logging e)
    | .ok () => .ok .done, r.2)

/-- The first error of several callers, if there is one; else whether they share a reference. -/
def togetherAnswer : List (Except LoadError Snapshot) → Except Failure Answer
  | [] => .ok (.allSame true)
  | .error e :: _ => .error (.load e)
  | .ok t :: rest =>
    match togetherAnswer rest with
    | .ok (.allSame same) =>
      .ok (.allSame (same && rest.all fun r => r.toOption.all (·.stamp = t.stamp)))
    | other => other

def pinned (s : Session) (pin : Option String) : Except Failure (Option Snapshot) :=
  match pin with
  | none => .ok none
  | some name =>
    match s.kept? name with
    | some t => .ok (some t)
    | none => .error (.notKept name)

def act (s : Session) : Action → Except Failure Answer × Session
  | .writeFile path bytes => (.ok .done, { s with files := s.files.writeBytes path bytes })
  | .makeDirectory path => (.ok .done, { s with files := s.files.makeDirectory path })
  | .removeFile path => (.ok .done, s.removeFile path)
  | .setVariable name value =>
    match s.setVariable name value with
    | (.error e, s) => (.error (.environment e), s)
    | (.ok (), s) => (.ok .done, s)
  | .load source => tablesAnswer (s.load (source.resolve s))
  | .ensure source => tablesAnswer (s.ensure (source.resolve s))
  | .ensureTogether source callers =>
    let (results, s) := s.ensureRepeatedly (source.resolve s) callers
    (togetherAnswer results, s)
  | .reload source => tablesAnswer (s.reload (source.resolve s))
  | .current =>
    match s.current with
    | (.error e, s) => (.error (.panic e), s)
    | (.ok t, s) => (.ok (.tables t), s)
  | .installTexts iban currencies => tablesAnswer (s.installTexts iban currencies)
  | .installKept name =>
    match s.kept? name with
    | none => (.error (.notKept name), s)
    | some t =>
      let (copy, s) := s.installCopy t
      (.ok (.tables copy), s)
  | .checkIbans values pin countries =>
    match s.pinned pin with
    | .error f => (.error f, s)
    | .ok pin =>
      verdictsAnswer (s.checkIbans pin (countries.map Iban.CountryScope.ofCountries) values)
  | .checkCurrencies values pin =>
    match s.pinned pin with
    | .error f => (.error f, s)
    | .ok pin => verdictsAnswer (s.checkCurrencies pin values)
  | .checkPlain check values => (plainAnswer (values.mapM check.verdict), s)
  | .startLogging config toBuffer =>
    loggingAnswer (if toBuffer then s.startLogging config .buffer
      else s.startLoggingConfigured config)
  | .emit event => (.ok .done, s.report [event])
  | .showValues enable => (.ok .done, { s with showValues := enable })

/-- The action, then its tables put away under the name that is wanted. -/
def step (s : Session) (x : Step) : Except Failure Answer × Session :=
  match s.act x.action, x.keepAs with
  | (.ok (.tables t), s), some name => (.ok (.tables t), s.keep name t)
  | (answer, s), _ => (answer, s)

/-- The answers of steps taken one after the other, and the state they lead to. -/
def run (s : Session) : List Step → List (Except Failure Answer) × Session
  | [] => ([], s)
  | x :: rest =>
    let (answer, s) := s.step x
    let (answers, s) := run s rest
    (answer :: answers, s)

end Session

end FieldFormats
