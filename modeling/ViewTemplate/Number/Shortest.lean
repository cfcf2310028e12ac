import ViewTemplate.Number.Binary

/-!
# Shortest decimal digits

The decimal with the fewest digits among all that read back as a given binary number, and of those
the one nearest to it.

## Main Definitions

* `Decimal` — a whole coefficient times a power of ten
* `RoundingInterval` — the numbers that read back as a given one
* `shortest` — the decimal with the fewest digits in that interval

## Design Notes

The search tries one digit, then two, and so on. On each decimal grid only the two neighbours of the
value can be the nearest hit. All comparisons are between whole numbers, so nothing is rounded.
Seventeen digits always suffice.
-/

namespace ViewTemplate.Number

/-- The number `coefficient · 10 ^ exponent`. -/
structure Decimal where
  /-- The digits, as a whole number. -/
  coefficient : Nat
  /-- The power of ten that the coefficient is multiplied with. -/
  exponent : Int
deriving Repr, DecidableEq

/-- A positive number and the interval around it in which every number reads back as it. All three
are given over one `denominator`. -/
structure RoundingInterval where
  /-- The lower end. -/
  low : Nat
  /-- The number itself. -/
  value : Nat
  /-- The upper end. -/
  high : Nat
  /-- What all three are divided by. -/
  denominator : Nat
  /-- Whether the ends belong to the interval. -/
  closed : Bool

namespace RoundingInterval

/-- The interval of a positive finite number. Its neighbours lie one unit of the significand away,
and half a unit below when the significand is the least of its scale. -/
def ofBinary (form : Binary) : RoundingInterval :=
  let m := 4 * form.significand
  let narrow := form.significand = twoTo 52 ∧ form.exponent > -1074
  let up := twoTo (form.exponent - 2).toNat
  { low := (m - if narrow then 1 else 2) * up
    value := m * up
    high := (m + 2) * up
    denominator := twoTo (2 - form.exponent).toNat
    closed := form.significand % 2 = 0 }

/-- Whether `candidate / (denominator · scale)` lies in the interval. -/
def holds (interval : RoundingInterval) (candidate scale : Nat) : Bool :=
  if interval.closed then
    interval.low * scale ≤ candidate && candidate ≤ interval.high * scale
  else
    interval.low * scale < candidate && candidate < interval.high * scale

/-- The power of ten of the leading digit of the value. -/
def leading (interval : RoundingInterval) : Int :=
  if interval.denominator ≤ interval.value then
    ((Nat.toDigits 10 (interval.value / interval.denominator)).length : Int) - 1
  else
    let inverse := (interval.denominator + interval.value - 1) / interval.value
    Int.negOfNat (Nat.toDigits 10 (inverse - 1)).length

/-- The nearest hit in the interval among the multiples of `10 ^ exponent`, the greater of two
equally near ones. -/
def onGrid? (interval : RoundingInterval) (exponent : Int) : Option Decimal :=
  let grid := interval.denominator * tenTo exponent.toNat
  let scale := tenTo (-exponent).toNat
  let value := interval.value * scale
  let below := value / grid
  let fitsBelow := interval.holds (below * grid) scale
  let fitsAbove := interval.holds ((below + 1) * grid) scale
  let nearerAbove := (below + 1) * grid - value ≤ value - below * grid
  if fitsAbove && (nearerAbove || !fitsBelow) then some ⟨below + 1, exponent⟩
  else if fitsBelow then some ⟨below, exponent⟩
  else none

/-- The first hit with at most `count` digits more, on grids that get finer by one digit each. -/
def search (interval : RoundingInterval) : (count : Nat) → (exponent : Int) → Decimal
  | 0, exponent =>
    let scale := tenTo (-exponent).toNat
    ⟨interval.value * scale / (interval.denominator * tenTo exponent.toNat), exponent⟩
  | count + 1, exponent => (interval.onGrid? exponent).getD (interval.search count (exponent - 1))

end RoundingInterval

/-- The shortest decimal that reads back as a positive finite number. -/
def shortest (form : Binary) : Decimal :=
  let interval := RoundingInterval.ofBinary form
  interval.search 17 interval.leading

end ViewTemplate.Number
