/-! # Log events

An event has a source (its target), a level, a message and named fields. Times and places in
program text are not part of an event; a layout is given the words to write for them.
-/
namespace FieldFormats.Log

/-- From the least to the most important. -/
inductive Level where
  | trace | debug | info | warn | error
  deriving DecidableEq, Repr

namespace Level

def name : Level → String
  | trace => "TRACE"
  | debug => "DEBUG"
  | info => "INFO"
  | warn => "WARN"
  | error => "ERROR"

/-- How much detail a listener has to ask for before it sees the level. -/
def detail : Level → Nat
  | error => 1
  | warn => 2
  | info => 3
  | debug => 4
  | trace => 5

/-- The name in lower case, as filters write it. -/
def word (l : Level) : String :=
  String.ofList (l.name.toList.map Char.toLower)

end Level

/-- A field's value. Text stands as it is in the text formats, a quoted value between quotes. -/
inductive Value where
  | text (s : String)
  | quoted (s : String)
  | number (n : Nat)
  deriving DecidableEq, Repr

structure Event where
  target : String
  level : Level
  message : String
  fields : List (String × Value) := []
  deriving DecidableEq, Repr

/-- The message is a field too. -/
def Event.fieldNames (e : Event) : List String :=
  "message" :: e.fields.map (·.1)

end FieldFormats.Log
