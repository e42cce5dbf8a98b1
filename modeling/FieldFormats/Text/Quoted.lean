import FieldFormats.Text.Hexadecimal
import FieldFormats.Text.Unprintable
/-! # Quoted texts

Ways to write a text between double quotes without a line break in it: with code points in braces,
as the text log formats show string fields, and as a string of JSON.
-/
namespace FieldFormats.Text

def codePoint (c : Char) : List Char :=
  Nat.toDigits 16 c.toNat

/-- Printable characters stand for themselves; the common controls have a letter and all
others their code point in braces. -/
def escape (c : Char) : List Char :=
  if c = '"' then ['\\', '"']
  else if c = '\\' then ['\\', '\\']
  else if c = '\n' then ['\\', 'n']
  else if c = '\r' then ['\\', 'r']
  else if c = '\t' then ['\\', 't']
  else if c = '\x00' then ['\\', '0']
  else if isUnprintable c then '\\' :: 'u' :: '\x7b' :: codePoint c ++ ['\x7d']
  else [c]

def quote (cs : List Char) : List Char :=
  '"' :: cs.flatMap escape ++ ['"']

/-- The same with a backslash before single quotes too. -/
def quoteFully (cs : List Char) : List Char :=
  '"' :: cs.flatMap (fun c => if c = '\'' then ['\\', '\''] else escape c) ++ ['"']

def controlDigits (c : Char) : List Char :=
  [hexDigit (c.toNat / 16 % 16), hexDigit (c.toNat % 16)]

/-- JSON escapes what its grammar asks for and nothing else: quote, backslash, C0 controls. -/
def escapeJson (c : Char) : List Char :=
  if c = '"' then ['\\', '"']
  else if c = '\\' then ['\\', '\\']
  else if c = '\n' then ['\\', 'n']
  else if c = '\r' then ['\\', 'r']
  else if c = '\t' then ['\\', 't']
  else if c = '\x08' then ['\\', 'b']
  else if c = '\x0c' then ['\\', 'f']
  else if c.toNat < 32 then '\\' :: 'u' :: '0' :: '0' :: controlDigits c
  else [c]

def quoteJson (cs : List Char) : List Char :=
  '"' :: cs.flatMap escapeJson ++ ['"']

end FieldFormats.Text
