import ViewTemplate.Json.Basic
import ViewTemplate.Text.Letter
import ViewTemplate.Text.Search

/-!
# Reading JSON

The document that a JSON text spells.

## Main Definitions

* `Json.readValue` — one value at the start of a text, and what follows it
* `Json.read?` — the document of a whole text

## Design Notes

Every step of the mutual recursion takes one from a budget. A value needs two for each of its
characters at most, one to enter a list and one to take an item of it, so the budget of `read?`
never runs out before the text does.
-/

namespace ViewTemplate.Json

open ViewTemplate.Text

/-- The text without the blanks in front that JSON allows between tokens. -/
def skipBlanks (text : List Char) : List Char :=
  text.dropWhile fun c => c == ' ' || c == '\n' || c == '\t' || c == '\r'

/-! ### Numbers -/

/-- A run of digits, at least one. -/
def readDigits (text : List Char) : Option (List Char × List Char) :=
  match text.takeWhile isAsciiDigit with
  | [] => none
  | digits => some (digits, text.dropWhile isAsciiDigit)

/-- The digits before the point: a zero stands alone. -/
def readWhole (text : List Char) : Option (List Char × List Char) := do
  let (digits, rest) ← readDigits text
  if digits.head? = some '0' ∧ digits.length > 1 then none else some (digits, rest)

/-- The fraction, if there is a point. -/
def readFraction : List Char → Option (Option (List Char) × List Char)
  | '.' :: rest => (readDigits rest).map fun (digits, rest) => (some digits, rest)
  | rest => some (none, rest)

/-- The exponent, if there is a mark for one. -/
def readExponent : List Char → Option (Option (Bool × List Char) × List Char)
  | [] => some (none, [])
  | c :: rest =>
    if c = 'e' ∨ c = 'E' then
      let (negative, rest) := match rest with
        | '-' :: rest => (true, rest)
        | '+' :: rest => (false, rest)
        | rest => (false, rest)
      (readDigits rest).map fun (digits, rest) => (some (negative, digits), rest)
    else some (none, c :: rest)

/-- A number. -/
def readNumber (text : List Char) : Option (NumberLiteral × List Char) := do
  let (negative, rest) := match text with
    | '-' :: rest => (true, rest)
    | rest => (false, rest)
  let (whole, rest) ← readWhole rest
  let (fraction, rest) ← readFraction rest
  let (exponent, rest) ← readExponent rest
  some (⟨negative, whole, fraction, exponent⟩, rest)

/-! ### Texts -/

/-- The value of a hexadecimal digit. -/
def hexValue? (c : Char) : Option Nat :=
  if isAsciiDigit c then some (c.toNat - 48)
  else if 97 ≤ c.toNat && c.toNat ≤ 102 then some (c.toNat - 87)
  else if 65 ≤ c.toNat && c.toNat ≤ 70 then some (c.toNat - 55)
  else none

/-- The number of four hexadecimal digits. -/
def readUnit : List Char → Option (Nat × List Char)
  | a :: b :: c :: d :: rest => do
    some (((← hexValue? a) * 16 + (← hexValue? b)) * 256
      + (← hexValue? c) * 16 + (← hexValue? d), rest)
  | _ => none

/-- The character that a letter behind a backslash stands for. -/
def escaped? (c : Char) : Option Char :=
  if c = '"' ∨ c = '\\' ∨ c = '/' then some c
  else if c = 'b' then some (Char.ofNat 8)
  else if c = 'f' then some (Char.ofNat 12)
  else if c = 'n' then some '\n'
  else if c = 'r' then some '\r'
  else if c = 't' then some '\t'
  else none

/-- The units of a text up to its closing quote, each a code point or half of a surrogate pair. -/
def readUnits : (budget : Nat) → List Char → Option (List Nat × List Char)
  | 0, _ => none
  | _ + 1, [] => none
  | budget + 1, c :: rest =>
    if c = '"' then some ([], rest)
    else if c = '\\' then
      match rest with
      | 'u' :: rest => do
        let (unit, rest) ← readUnit rest
        let (units, rest) ← readUnits budget rest
        some (unit :: units, rest)
      | d :: rest => do
        let escaped ← escaped? d
        let (units, rest) ← readUnits budget rest
        some (escaped.toNat :: units, rest)
      | [] => none
    else if c.toNat < 32 then none
    else do
      let (units, rest) ← readUnits budget rest
      some (c.toNat :: units, rest)

/-- Joins surrogate pairs; absent if a half is left over. -/
def joinPairs : List Nat → Option (List Char)
  | [] => some []
  | [unit] => if 0xD800 ≤ unit ∧ unit < 0xE000 then none else some [Char.ofNat unit]
  | unit :: next :: rest =>
    if 0xD800 ≤ unit ∧ unit < 0xDC00 ∧ 0xDC00 ≤ next ∧ next < 0xE000 then
      (joinPairs rest).map (Char.ofNat (0x10000 + (unit - 0xD800) * 0x400 + (next - 0xDC00)) :: ·)
    else if 0xD800 ≤ unit ∧ unit < 0xE000 then none
    else (joinPairs (next :: rest)).map (Char.ofNat unit :: ·)

/-- A text behind its opening quote. -/
def readString (text : List Char) : Option (Option String × List Char) :=
  (readUnits (text.length + 1) text).map fun (units, rest) =>
    ((joinPairs units).map String.ofList, rest)

/-! ### Documents -/

mutual

/-- One value and what follows it. -/
def readValue : (budget : Nat) → List Char → Option (Json × List Char)
  | 0, _ => none
  | budget + 1, text =>
    match skipBlanks text with
    | [] => none
    | c :: rest =>
      if c = '"' then (readString rest).map fun (text, rest) => (string text, rest)
      else if c = '[' then
        match skipBlanks rest with
        | ']' :: rest => some (array [], rest)
        | rest => (readItems budget rest).map fun (items, rest) => (array items, rest)
      else if c = '\x7b' then
        match skipBlanks rest with
        | '\x7d' :: rest => some (object [], rest)
        | rest => (readFields budget rest).map fun (fields, rest) => (object fields, rest)
      else if c = '-' ∨ isAsciiDigit c then
        (readNumber (c :: rest)).map fun (literal, rest) => (number literal, rest)
      else if c = 't' then (after? "rue".toList rest).map fun rest => (bool true, rest)
      else if c = 'f' then (after? "alse".toList rest).map fun rest => (bool false, rest)
      else if c = 'n' then (after? "ull".toList rest).map fun rest => (null, rest)
      else none

/-- The items of an array, at least one, up to its closing bracket. -/
def readItems : (budget : Nat) → List Char → Option (List Json × List Char)
  | 0, _ => none
  | budget + 1, text => do
    let (item, rest) ← readValue budget text
    match skipBlanks rest with
    | ',' :: rest =>
      let (items, rest) ← readItems budget rest
      some (item :: items, rest)
    | ']' :: rest => some ([item], rest)
    | _ => none

/-- The fields of an object, at least one, up to its closing brace. -/
def readFields : (budget : Nat) → List Char → Option (List (Option String × Json) × List Char)
  | 0, _ => none
  | budget + 1, text =>
    match skipBlanks text with
    | '"' :: rest => do
      let (name, rest) ← readString rest
      match skipBlanks rest with
      | ':' :: rest =>
        let (value, rest) ← readValue budget rest
        match skipBlanks rest with
        | ',' :: rest =>
          let (fields, rest) ← readFields budget rest
          some ((name, value) :: fields, rest)
        | '\x7d' :: rest => some ([(name, value)], rest)
        | _ => none
      | _ => none
    | _ => none

end

/-- The document of a text that holds one value and nothing else but blanks. -/
def read? (text : String) : Option Json :=
  let chars := text.toList
  match readValue (2 * chars.length + 2) chars with
  | some (json, rest) => if (skipBlanks rest).isEmpty then some json else none
  | none => none

end ViewTemplate.Json
