import ViewTemplate.Number.Shortest

/-!
# The text of a number

How a number is written: whole numbers without a fraction, all others with the fewest digits that
read back, always positionally.

## Main Definitions

* `positional` — a decimal written out without an exponent
* `text` — the text of a number
-/

namespace ViewTemplate.Number

/-- The digits without zeros at their end. -/
def dropTrailingZeros (digits : List Char) : List Char :=
  (digits.reverse.dropWhile (· == '0')).reverse

/-- A decimal written out: digits, and a point if it has a fraction. -/
def positional (decimal : Decimal) : List Char :=
  let digits := Nat.toDigits 10 decimal.coefficient
  if decimal.exponent ≥ 0 then
    digits ++ List.replicate decimal.exponent.toNat '0'
  else
    let places := (-decimal.exponent).toNat
    let padded := List.replicate (places + 1 - digits.length) '0' ++ digits
    let whole := padded.take (padded.length - places)
    match dropTrailingZeros (padded.drop (padded.length - places)) with
    | [] => whole
    | fraction => whole ++ '.' :: fraction

/-- The largest whole numbers written with all their digits lie below this bound; above it only the
digits that matter are written, with zeros behind them. -/
def exactBound : Nat := tenTo 21

/-- The text of a finite number. Zero has no sign. -/
def finiteText (form : Binary) : List Char :=
  let whole := form.wholeValue
  if form.isWhole && whole < exactBound then
    (if form.negative && whole != 0 then ['-'] else []) ++ Nat.toDigits 10 whole
  else
    (if form.negative then ['-'] else []) ++ positional (shortest form)

/-- The text of a number. -/
def text (x : Float) : String :=
  match Binary.ofFloat? x with
  | some form => String.ofList (finiteText form)
  | none => if x.isNaN then "NaN" else if x < 0 then "-Infinity" else "Infinity"

end ViewTemplate.Number
