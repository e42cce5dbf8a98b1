import FieldFormats.Environment
import FieldFormats.Log.Config
import FieldFormats.ReferenceTables
/-! # The state of a session

What the parts of one running program share: files, environment variables, the active reference
tables and logging. Tables that were built are held by reference, so two holders may hold the same
ones: a snapshot carries a stamp that tells references apart, and the number of the build that made
its registries. Threads are not part of a state; steps happen one at a time.
-/
namespace FieldFormats

structure Snapshot where
  /-- Shared by the holders of one reference and by no others. -/
  stamp : Nat
  /-- The build that made the registries; a copy of tables shares them. -/
  build : Nat
  tables : ReferenceTables
  deriving DecidableEq, Repr

inductive Sink where
  | standardError
  | buffer
  | file (place : Place)
  /-- A file that was removed while it was open. -/
  | removedFile
  deriving DecidableEq, Repr

structure Subscriber where
  filter : Log.Filter
  layout : Log.Layout
  sink : Sink
  deriving DecidableEq, Repr

/-- Stands for clock times and places in program text, which are not modelled. -/
def Subscriber.marks : Log.Marks where
  time := "<time>"
  place := "<location>"

/-- The text that events leave in the log: those the filter admits, in order. -/
def Subscriber.textOf (u : Subscriber) (events : List Log.Event) : String :=
  String.ofList ((events.filter u.filter.admits).flatMap
    fun e => u.layout.render marks e)

structure Session where
  files : Files := {}
  environment : Environment := {}
  /-- The tables for checks that have none of their own. -/
  active : Option Snapshot := none
  /-- Stamps and build numbers from here on are unused. -/
  fresh : Nat := 0
  /-- Tables that the host program keeps under a name. -/
  kept : List (String × Snapshot) := []
  showValues : Bool := false
  /-- There is at most one, and it stays. -/
  subscriber : Option Subscriber := none
  buffer : String := ""
  standardError : String := ""

namespace Session

def setVariable (s : Session) (name : String) (value : Option String) :
    Except VariableError Unit × Session :=
  match s.environment.set name value with
  | .error e => (.error e, s)
  | .ok environment => (.ok (), { s with environment := environment })

def configuredSource (s : Session) : Source :=
  Source.ofVariable (s.environment.value? Source.variableName)

def kept? (s : Session) (name : String) : Option Snapshot :=
  (s.kept.find? (·.1 = name)).map (·.2)

def keep (s : Session) (name : String) (t : Snapshot) : Session :=
  { s with kept := (name, t) :: s.kept.filter (·.1 ≠ name) }

def write (s : Session) (sink : Sink) (text : String) : Session :=
  match sink with
  | .standardError => { s with standardError := s.standardError ++ text }
  | .buffer => { s with buffer := s.buffer ++ text }
  | .file place => { s with files := s.files.append place text.toByteArray }
  | .removedFile => s

def report (s : Session) (events : List Log.Event) : Session :=
  match s.subscriber with
  | none => s
  | some u => s.write u.sink (u.textOf events)

/-- Removes a file. A log that is open on it writes to no place from then on. -/
def removeFile (s : Session) (path : String) : Session :=
  let files := s.files.remove path
  let detached (u : Subscriber) : Subscriber :=
    match u.sink with
    | .file place => if (files.node? place).isNone then { u with sink := .removedFile } else u
    | _ => u
  { s with files := files, subscriber := s.subscriber.map detached }

/-- What is in the buffer, which is emptied. -/
def takeBuffer (s : Session) : String × Session :=
  (s.buffer, { s with buffer := "" })

end Session

end FieldFormats
