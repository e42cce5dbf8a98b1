import FieldFormats.Text.Quoted
/-! # Environment variables

Texts by name. A name is not empty and has no equals sign in it, and neither a name nor a value
holds the character NUL.
-/
namespace FieldFormats

open FieldFormats.Text

inductive VariableFault where
  | nul
  | badName
  deriving DecidableEq, Repr

def VariableFault.message : VariableFault → String
  | nul => "file name contained an unexpected NUL byte"
  | badName => "Invalid argument (os error 22)"

/-- A variable that could not be set, or not removed if there is no value. -/
structure VariableError where
  name : String
  value : Option String
  fault : VariableFault
  deriving DecidableEq, Repr

def VariableError.message (e : VariableError) : String :=
  let quoted (s : String) : String := "\x60" ++ String.ofList (quoteFully s.toList) ++ "\x60"
  (match e.value with
    | some value => s!"failed to set environment variable {quoted e.name} to {quoted value}: "
    | none => s!"failed to remove environment variable {quoted e.name}: ") ++ e.fault.message

structure Environment where
  entries : List (String × String) := []
  deriving DecidableEq, Repr

namespace Environment

/-- What keeps a variable from being set to a value or removed. -/
def fault? (name : String) (value : Option String) : Option VariableFault :=
  if '\x00' ∈ name.toList ∨ '\x00' ∈ (value.getD "").toList then some .nul
  else if name = "" ∨ '=' ∈ name.toList then some .badName
  else none

def value? (e : Environment) (name : String) : Option String :=
  (e.entries.find? (·.1 = name)).map (·.2)

/-- Sets a variable, or removes it if there is no value. -/
def set (e : Environment) (name : String) (value : Option String) :
    Except VariableError Environment :=
  match fault? name value with
  | some fault => .error ⟨name, value, fault⟩
  | none =>
    let others := e.entries.filter (·.1 ≠ name)
    match value with
    | none => .ok ⟨others⟩
    | some v => .ok ⟨(name, v) :: others⟩

end Environment

end FieldFormats
