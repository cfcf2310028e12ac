import ViewTemplate.Json.Basic
import ViewTemplate.Number.Reading

/-!
# Numbers in JSON

The number that the digits of a JSON text stand for.

## Main Definitions

* `NumberLiteral.nearest` — the nearest number that can be held
* `NumberLiteral.finite?` — the number as documents are read
* `NumberLiteral.word?` — the literal as an unsigned machine word

## Design Notes

All digits count: the number is rounded once, from what is written. A number beyond the range is
refused; one too small becomes zero, with the sign that is written.
-/

namespace ViewTemplate

open ViewTemplate.Number

namespace NumberLiteral

/-- Gives a magnitude the sign of the literal. -/
def signed (literal : NumberLiteral) (magnitude : Float) : Float :=
  if literal.negative then -magnitude else magnitude

/-- The number nearest to what is written. -/
def nearest (literal : NumberLiteral) : Float :=
  let fraction := literal.fraction.getD []
  let exponent : Int := match literal.exponent with
    | none => 0
    | some (true, digits) => -(ofDigits digits : Int)
    | some (false, digits) => ofDigits digits
  literal.signed (ofDecimal (ofDigits (literal.whole ++ fraction)) (exponent - fraction.length))

/-- The number nearest to what is written, unless that is beyond the largest number. -/
def finite? (literal : NumberLiteral) : Option Float :=
  let value := literal.nearest
  if value.isInf then none else some value

/-- The literal as an unsigned machine word: digits only, and not too many. -/
def word? (literal : NumberLiteral) : Option Nat :=
  if literal.negative || literal.fraction.isSome || literal.exponent.isSome then none
  else
    let value := ofDigits literal.whole
    if value ≤ maxWord then some value else none

end NumberLiteral

end ViewTemplate
