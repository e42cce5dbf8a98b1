import FieldFormats.Session.State
/-! # Turning logging on

A session has at most one subscriber. Asking for another fails, but the wish to show or mask
validated values takes effect all the same; only a log file that cannot be opened leaves it alone.
-/
namespace FieldFormats

inductive LoggingError where
  | logFile (path : String) (fault : FileFault)
  | alreadyOn
  /-- The filter that the environment asks for cannot be cut into its parts. -/
  | badFilter (cut : Text.BadCut)
  deriving DecidableEq, Repr

def LoggingError.message : LoggingError → String
  | logFile path fault => s!"failed to open log file {path}: {fault.message}"
  | alreadyOn => "a global tracing subscriber is already installed"
  | badFilter cut => cut.message

namespace Session

def filterVariable : String := "RUST_LOG"

/-- Logging to a sink. The filter is made once, from the environment as it is now. -/
def startLogging (s : Session) (config : Log.Config) (sink : Sink) :
    Except LoggingError Unit × Session :=
  let s := { s with showValues := config.showValues }
  match config.effectiveFilter (s.environment.value? filterVariable), s.subscriber with
  | .error cut, _ => (.error (.badFilter cut), s)
  | .ok _, some _ => (.error .alreadyOn, s)
  | .ok filter, none =>
    (.ok (), { s with subscriber := some ⟨filter, config.layout, sink⟩ })

/-- Logging to the file of the configuration, or else to standard error. The file is opened, and
made if it is missing, before anything else. -/
def startLoggingConfigured (s : Session) (config : Log.Config) :
    Except LoggingError Unit × Session :=
  match config.file with
  | none => s.startLogging config .standardError
  | some path =>
    match s.files.openAppend path with
    | .error fault => (.error (.logFile path fault), s)
    | .ok (files, place) => { s with files := files }.startLogging config (.file place)

end Session

end FieldFormats
