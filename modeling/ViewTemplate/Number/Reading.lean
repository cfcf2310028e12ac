import ViewTemplate.Text.Blank
import ViewTemplate.Text.Letter

/-!
# Reading numbers

Decimal numbers in text, with an optional sign, fraction and exponent, rounded to the nearest
number that can be held.

## Main Definitions

* `ofDigits` — the value of a run of digits
* `ofDecimal` — a coefficient and a power of ten, correctly rounded
* `read?` — the number that a text spells
* `ofText` — the number that a text stands for in arithmetic
-/

namespace ViewTemplate.Number

open ViewTemplate.Text

/-- The value of a digit. -/
def digitValue (c : Char) : Nat :=
  c.toNat - 48

/-- The largest unsigned machine word. -/
def maxWord : Nat := 0xFFFFFFFFFFFFFFFF

/-- The value of a run of digits. -/
def ofDigits (digits : List Char) : Nat :=
  digits.foldl (fun value c => 10 * value + digitValue c) 0

/-- The number nearest to `coefficient · 10 ^ exponent`. Far outside the range of numbers the answer
is known without computing the power. -/
def ofDecimal (coefficient : Nat) (exponent : Int) : Float :=
  if coefficient = 0 then 0.0
  else
    let magnitude := exponent + (Nat.toDigits 10 coefficient).length
    if magnitude > 320 then 1.0 / 0.0
    else if magnitude < -340 then 0.0
    else Float.ofScientific coefficient (exponent < 0) exponent.natAbs

/-- A run of digits, at least one, and what follows it. -/
def readDigits? (text : List Char) : Option (List Char × List Char) :=
  match text.takeWhile isAsciiDigit with
  | [] => none
  | digits => some (digits, text.dropWhile isAsciiDigit)

/-- The exponent that a text spells after its mark: a sign and digits, and nothing else. -/
def readExponent? (text : List Char) : Option Int :=
  let (negative, rest) := match text with
    | '-' :: rest => (true, rest)
    | '+' :: rest => (false, rest)
    | rest => (false, rest)
  match readDigits? rest with
  | some (digits, []) => some (if negative then -(ofDigits digits : Int) else ofDigits digits)
  | _ => none

/-- The number that an unsigned text spells: digits with an optional point before, between or
behind them, and an optional exponent. -/
def readUnsigned? (text : List Char) : Option Float :=
  let whole := text.takeWhile isAsciiDigit
  let rest := text.dropWhile isAsciiDigit
  let (fraction, rest) := match rest with
    | '.' :: more => (more.takeWhile isAsciiDigit, more.dropWhile isAsciiDigit)
    | more => ([], more)
  if whole.isEmpty && fraction.isEmpty then none
  else
    let coefficient := ofDigits (whole ++ fraction)
    let places : Int := fraction.length
    match rest with
    | [] => some (ofDecimal coefficient (-places))
    | c :: more =>
      if c = 'e' ∨ c = 'E' then
        (readExponent? more).map fun exponent => ofDecimal coefficient (exponent - places)
      else none

/-- Whether the text is `word`, given in lower case, in any mixture of cases. -/
def spells (text : List Char) (word : String) : Bool :=
  text.map Char.toLower == word.toList

/-- The number that an unsigned text or one of the words for infinity and NaN spells. -/
def readMagnitude? (text : List Char) : Option Float :=
  if spells text "inf" || spells text "infinity" then some (1.0 / 0.0)
  else if spells text "nan" then some (0.0 / 0.0)
  else readUnsigned? text

/-- The number that a text spells, with an optional sign. -/
def read? (text : List Char) : Option Float :=
  match text with
  | '-' :: rest => (readMagnitude? rest).map (-·)
  | '+' :: rest => readMagnitude? rest
  | rest => readMagnitude? rest

/-- The number that a text stands for in arithmetic: blanks at the ends do not count, a blank text
is zero, and a text that spells no number is NaN. -/
def ofText (text : String) : Float :=
  match trimChars text.toList with
  | [] => 0.0
  | trimmed => (read? trimmed).getD (0.0 / 0.0)

end ViewTemplate.Number
