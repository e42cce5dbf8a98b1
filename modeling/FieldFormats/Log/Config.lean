import FieldFormats.Log.Filter
import FieldFormats.Log.Layout
/-! # Logging configuration

What a host asks for when it turns logging on, and the mask that keeps validated values, which
are personal data, out of the log.
-/
namespace FieldFormats.Log

open FieldFormats.Text

structure Config where
  /-- The level for the library's own targets; all others are held to warnings. -/
  level : Level := .info
  layout : Layout := {}
  /-- A file to append to; without one the standard error stream is written. -/
  file : Option String := none
  /-- Whether validated values may be written. -/
  showValues : Bool := false
  deriving DecidableEq, Repr

/-- The targets that follow the configured level. -/
def ownTargets : List String :=
  ["idcheck_common", "idcheck_standards", "idcheck_validate"]

namespace Config

/-- The filter of a configuration, as text. -/
def directives (c : Config) : String :=
  String.join ("warn" :: ownTargets.map fun t => "," ++ t ++ "=" ++ c.level.word)

/-- The same filter as a value. -/
def filter (c : Config) : Filter :=
  ⟨⟨none, none, Level.warn.detail⟩ ::
    ownTargets.map fun t => ⟨some t.toList, none, c.level.detail⟩⟩

/-- The filter's text is read back as the filter. -/
theorem read_directives (c : Config) : Filter.read c.directives = .ok c.filter := by
  have h (l : Level) : (Filter.read (directives { level := l })).toOption =
      some (filter { level := l }) := by
    cases l <;> decide +kernel
  have hc : (Filter.read c.directives).toOption = some c.filter := h c.level
  cases hr : Filter.read c.directives with
  | error e => simp [hr, Except.toOption] at hc
  | ok f =>
    rw [hr] at hc
    exact congrArg Except.ok (Option.some.inj hc)

/-- The filter in force: a wish from outside, if there is one and it is well formed, and else the
configured one. -/
def effectiveFilter (c : Config) (wish : Option String) : Except BadCut Filter :=
  match wish.map Filter.read with
  | none => .ok c.filter
  | some (.ok f) => .ok f
  | some (.error .malformed) => .ok c.filter
  | some (.error (.badCut b)) => .error b

end Config

/-- Stands in the log for a value that may not be shown. -/
def mask : String := "[REDACTED]"

def redact (showValues : Bool) (value : String) : String :=
  if showValues then value else mask

end FieldFormats.Log
