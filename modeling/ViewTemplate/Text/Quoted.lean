import ViewTemplate.Text.Printable

/-!
# Quoted text

The form in which a text is shown inside double quotes, so that every character of it can be told
from its neighbours.

## Main Definitions

* `hexadecimal` — a number in lower-case hexadecimal digits
* `escapeChar` — one character as it stands inside the quotes
* `quoted` — a text in double quotes

## Design Notes

A quote and a backslash get a backslash in front. Line feed, carriage return, tab and the null
character have letters of their own. Any other character without a visible form, and every mark
that would join its neighbour, is spelled by its number in hexadecimal between braces.
-/

namespace ViewTemplate.Text

/-- The digits of `n` in base sixteen, without leading zeros. -/
def hexadecimal (n : Nat) : List Char :=
  Nat.toDigits 16 n

/-- The number of a character, spelled out. -/
def escapeCode (c : Char) : List Char :=
  ['\\', 'u', '\x7b'] ++ hexadecimal c.toNat ++ ['\x7d']

/-- A character as it stands inside double quotes. -/
def escapeChar (c : Char) : List Char :=
  if c = '"' then ['\\', '"']
  else if c = '\\' then ['\\', '\\']
  else if c = '\n' then ['\\', 'n']
  else if c = '\r' then ['\\', 'r']
  else if c = '\t' then ['\\', 't']
  else if c.toNat = 0 then ['\\', '0']
  else if isExtending c || !isPrintable c then escapeCode c
  else [c]

/-- The text in double quotes. -/
def quoted (text : String) : String :=
  String.ofList ('"' :: text.toList.flatMap escapeChar ++ ['"'])

end ViewTemplate.Text
