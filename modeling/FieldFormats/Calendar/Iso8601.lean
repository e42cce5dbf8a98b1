import FieldFormats.Calendar.Date
import FieldFormats.Presence
/-! # ISO 8601 in the extended format

A date is `YYYY-MM-DD`, a date-time `YYYY-MM-DDThh:mm` with seconds and up to nine digits of a
fraction as wanted. Both may end in an offset: `Z`, or a sign with `hh:mm` or `hh:mm:ss`, at most
18 hours. After its offset a date-time may name a zone in brackets.
-/
namespace FieldFormats.Calendar

open FieldFormats.Text

def maxOffset : Nat := 18 * 3600

structure IsoDate where
  date : Date
  offset : Option Int
  deriving DecidableEq, Repr

structure IsoDateTime where
  moment : LocalDateTime
  offset : Option Int
  zone : Option String
  deriving DecidableEq, Repr

def after? (c : Char) : List Char → Option (List Char)
  | [] => none
  | d :: cs => if d = c then some cs else none

/-- `YYYY-MM-DD` at the front, and what follows. -/
def takeDate? (cs : List Char) : Option (Date × List Char) := do
  let (year, cs) ← takeDigits? 4 cs
  let cs ← after? '-' cs
  let (month, cs) ← takeDigits? 2 cs
  let cs ← after? '-' cs
  let (day, cs) ← takeDigits? 2 cs
  let date ← Date.of? year month day
  pure (date, cs)

/-- The nanoseconds that the digits of a fraction stand for. Digits after the ninth are too small
to count. -/
def nanosecondsOf (digits : List Char) : Nat :=
  decimal ((digits ++ List.replicate 9 '0').take 9)

/-- One to nine digits after a point, as nanoseconds. Without a point there is no fraction. -/
def takeFraction? (cs : List Char) : Option (Nat × List Char) :=
  match cs with
  | '.' :: rest =>
    let digits := rest.takeWhile Char.isDigit
    if digits = [] ∨ 9 < digits.length then none
    else some (nanosecondsOf digits, rest.dropWhile Char.isDigit)
  | _ => some (0, cs)

/-- Seconds and their fraction after a colon; without a colon the minute is full. -/
def takeSeconds? (cs : List Char) : Option (Nat × Nat × List Char) :=
  match cs with
  | ':' :: rest => do
    let (second, rest) ← takeDigits? 2 rest
    let (nanosecond, rest) ← takeFraction? rest
    pure (second, nanosecond, rest)
  | _ => some (0, 0, cs)

/-- `hh:mm[:ss[.fraction]]` at the front, and what follows. -/
def takeTime? (cs : List Char) : Option (TimeOfDay × List Char) := do
  let (hour, cs) ← takeDigits? 2 cs
  let cs ← after? ':' cs
  let (minute, cs) ← takeDigits? 2 cs
  let (second, nanosecond, cs) ← takeSeconds? cs
  let time ← TimeOfDay.of? hour minute second nanosecond
  pure (time, cs)

/-- `hh:mm` or `hh:mm:ss` and nothing else, as seconds. Minutes and seconds stay below 60, hours
may be any two digits. -/
def readSpan? (cs : List Char) : Option Nat := do
  let (hours, cs) ← takeDigits? 2 cs
  let cs ← after? ':' cs
  let (minutes, cs) ← takeDigits? 2 cs
  let seconds ← match cs with
    | [] => some 0
    | _ => do
      let cs ← after? ':' cs
      let (seconds, cs) ← takeDigits? 2 cs
      if cs = [] then some seconds else none
  if minutes < 60 ∧ seconds < 60 then some (hours * 3600 + minutes * 60 + seconds) else none

/-- A signed span of at most `limit` seconds, or `Z` for none. -/
def readOffset? (limit : Nat) (cs : List Char) : Option Int :=
  match cs with
  | ['Z'] => some 0
  | '+' :: rest => do
    let span ← readSpan? rest
    if span ≤ limit then some (span : Int) else none
  | '-' :: rest => do
    let span ← readSpan? rest
    if span ≤ limit then some (-(span : Int)) else none
  | _ => none

/-- An offset where one is written. The inner `none` says that there is none, the outer one that
the text is no offset. -/
def readOptionalOffset? (cs : List Char) : Option (Option Int) :=
  if cs = [] then some none else (readOffset? maxOffset cs).map some

def isZoneChar (c : Char) : Bool :=
  c.isAlphanum || c ∈ ['_', '+', '-', '.', '/']

def readZoneRest? : List Char → Option (List Char)
  | [] => none
  | c :: cs =>
    if c = ']' ∧ cs = [] then some []
    else if isZoneChar c then (readZoneRest? cs).map (c :: ·)
    else none

/-- A zone's name in brackets: a letter first. -/
def readZone? : List Char → Option String
  | '[' :: c :: cs =>
    if c.isAlpha then (readZoneRest? cs).map fun rest => String.ofList (c :: rest) else none
  | _ => none

/-- Offset and zone at the end of a date-time. A zone needs an offset in front of it. -/
def readOffsetAndZone? (cs : List Char) : Option (Option Int × Option String) :=
  let offset := cs.takeWhile (· ≠ '[')
  match cs.dropWhile (· ≠ '[') with
  | [] => (readOptionalOffset? offset).map (·, none)
  | zone => do
    let seconds ← readOffset? maxOffset offset
    let name ← readZone? zone
    pure (some seconds, some name)

def parseDate? (value : String) : Option IsoDate := do
  let (date, cs) ← takeDate? value.toList
  let offset ← readOptionalOffset? cs
  pure ⟨date, offset⟩

def parseDateTime? (value : String) : Option IsoDateTime := do
  let (date, cs) ← takeDate? value.toList
  let cs ← after? 'T' cs
  let (time, cs) ← takeTime? cs
  let (offset, zone) ← readOffsetAndZone? cs
  pure ⟨⟨date, time⟩, offset, zone⟩

def isDate (value : String) : Bool :=
  Presence.check (fun v => (parseDate? v).isSome) value

def isDateTime (value : String) : Bool :=
  Presence.check (fun v => (parseDateTime? v).isSome) value

end FieldFormats.Calendar
