import FieldFormats.Log.Event
import FieldFormats.Text.Numeral
import FieldFormats.Text.Quoted
/-! # Layouts of log lines

Three formats: `pretty` takes two lines and a blank one for an event, `compact` and `json` one
line. Colour concerns the two text formats; times can be left out of them, not out of `json`.
-/
namespace FieldFormats.Log

open FieldFormats.Text

inductive Format where
  | pretty | compact | json
  deriving DecidableEq, Repr

structure Layout where
  format : Format := .pretty
  timestamps : Bool := true
  target : Bool := false
  colour : Bool := false
  deriving DecidableEq, Repr

/-- The words written for the time of an event and for its place in the program. -/
structure Marks where
  time : String
  place : String
  deriving DecidableEq, Repr

/-- One terminal control sequence that sets display attributes. -/
def control (codes : String) : List Char :=
  '\x1b' :: '[' :: codes.toList ++ ['m']

def reset : List Char := control "0"

/-- Text in the given attributes, or plain. -/
def painted (colour : Bool) (codes : String) (text : List Char) : List Char :=
  if colour then control codes ++ text ++ reset else text

namespace Level

/-- The colour of a level: red, yellow, green, blue, magenta. -/
def colourCode : Level → String
  | error => "31"
  | warn => "33"
  | info => "32"
  | debug => "34"
  | trace => "35"

/-- The name filled up on the left to five columns. -/
def column (l : Level) : List Char :=
  List.replicate (5 - l.name.length) ' ' ++ l.name.toList

end Level

/-- A message in a text format: the characters that steer a terminal are made visible. -/
def disarm (c : Char) : List Char :=
  if c = '\x1b' then ['\\', 'x', '1', 'b']
  else if c = '\x07' then ['\\', 'x', '0', '7']
  else if c = '\x08' then ['\\', 'x', '0', '8']
  else if c = '\x0c' then ['\\', 'x', '0', 'c']
  else if c = '\x7f' then ['\\', 'x', '7', 'f']
  else if 0x80 ≤ c.toNat ∧ c.toNat ≤ 0x9f then '\\' :: 'u' :: '\x7b' :: codePoint c ++ ['\x7d']
  else [c]

def messageText (message : String) : List Char :=
  message.toList.flatMap disarm

namespace Value

/-- A value in a text format. -/
def shown : Value → List Char
  | text s => s.toList
  | quoted s => quote s.toList
  | number n => numeral n

def json : Value → List Char
  | text s => quoteJson s.toList
  | quoted s => quoteJson s.toList
  | number n => numeral n

end Value

namespace Layout

def time (l : Layout) (m : Marks) : List Char :=
  if l.timestamps then painted l.colour "2" m.time.toList ++ [' '] else []

/-- `[TIME ]LEVEL [TARGET: ]MESSAGE NAME=VALUE ...` -/
def compactLine (l : Layout) (m : Marks) (e : Event) : List Char :=
  l.time m ++ painted l.colour e.level.colourCode e.level.column ++ [' '] ++
    (if l.target then
      painted l.colour "2" e.target.toList ++ painted l.colour "2" [':'] ++ [' ']
    else []) ++
    messageText e.message ++
    e.fields.flatMap (fun f =>
      ' ' :: painted l.colour "3" f.1.toList ++ painted l.colour "2" ['='] ++ f.2.shown) ++
    ['\n']

/-- `  [TIME ]LEVEL TARGET: MESSAGE, NAME: VALUE, ...`, the place on a line of its own, and a
blank line. Without a target a second space takes its room. -/
def prettyLines (l : Layout) (m : Marks) (e : Event) : List Char :=
  let plain := control e.level.colourCode
  let bold := control ("1;" ++ e.level.colourCode)
  let strong (text : List Char) : List Char :=
    if l.colour then bold ++ text ++ reset ++ plain else text
  ' ' :: ' ' :: l.time m ++ painted l.colour e.level.colourCode e.level.column ++ [' '] ++
    (if l.target then strong e.target.toList ++ [':'] else []) ++ [' '] ++
    (if l.colour then plain else []) ++ messageText e.message ++
    e.fields.flatMap (fun f => ',' :: ' ' :: strong f.1.toList ++ ':' :: ' ' :: f.2.shown) ++
    (if l.colour then reset else []) ++
    '\n' :: "    ".toList ++ painted l.colour "2;3" "at".toList ++ ' ' :: m.place.toList ++
    ['\n', '\n']

/-- The members of a JSON object, without the braces. -/
def jsonMembers (ms : List (String × List Char)) : List Char :=
  match ms with
  | [] => []
  | [(k, v)] => quoteJson k.toList ++ ':' :: v
  | (k, v) :: rest => quoteJson k.toList ++ ':' :: v ++ ',' :: jsonMembers rest

def jsonObject (ms : List (String × List Char)) : List Char :=
  '\x7b' :: jsonMembers ms ++ ['\x7d']

/-- Time, level, an object of the fields with the message first, and the target if wanted. -/
def jsonLine (l : Layout) (m : Marks) (e : Event) : List Char :=
  jsonObject (
    [("timestamp", quoteJson m.time.toList), ("level", quoteJson e.level.name.toList),
      ("fields", jsonObject (("message", quoteJson e.message.toList) ::
        e.fields.map fun f => (f.1, f.2.json)))] ++
    (if l.target then [("target", quoteJson e.target.toList)] else [])) ++ ['\n']

def render (l : Layout) (m : Marks) (e : Event) : List Char :=
  match l.format with
  | .pretty => l.prettyLines m e
  | .compact => l.compactLine m e
  | .json => l.jsonLine m e

end Layout

end FieldFormats.Log
