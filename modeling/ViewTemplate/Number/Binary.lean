/-!
# Binary form of a number

A finite number as a whole significand times a power of two, and what can be computed on that form
without rounding: the whole part and the remainder of a division.

## Main Definitions

* `twoTo`, `tenTo` — the powers of two and of ten
* `Binary` — sign, significand and exponent
* `Binary.ofFloat?`, `Binary.toFloat` — between a number and its form
* `truncate` — the whole part of a number
* `remainder` — what a division that rounds toward zero leaves
* `wholeValue` — the magnitude of a number without its fraction

## Design Notes

Both operations give results that a number can hold exactly, so they are computed on whole
significands and nothing is ever rounded.
-/

namespace ViewTemplate.Number

/-- A power of two. -/
def twoTo (exponent : Nat) : Nat := Nat.pow 2 exponent

/-- A power of ten. -/
def tenTo (exponent : Nat) : Nat := Nat.pow 10 exponent

/-- The finite number `± significand · 2 ^ exponent`. -/
structure Binary where
  /-- Whether the sign bit is set. -/
  negative : Bool
  /-- The significand, a whole number. -/
  significand : Nat
  /-- The power of two that the significand is multiplied with. -/
  exponent : Int
deriving Repr, DecidableEq

namespace Binary

/-- The form of a finite number; infinities and NaN have none. -/
def ofFloat? (x : Float) : Option Binary :=
  let bits := x.toBits.toNat
  let negative := bits ≥ twoTo 63
  let scale : Nat := bits / twoTo 52 % twoTo 11
  let fraction : Nat := bits % twoTo 52
  if scale = 2047 then none
  else if scale = 0 then some ⟨negative, fraction, -1074⟩
  else some ⟨negative, fraction + twoTo 52, (scale : Int) - 1075⟩

/-- The number of a form whose significand has at most 53 bits and whose exponent is in range. The
significand is first moved up as far as it goes. -/
def toFloat (form : Binary) : Float :=
  let lift := min (52 - form.significand.log2) (form.exponent + 1074).toNat
  let significand := form.significand * twoTo lift
  let exponent := form.exponent - lift
  let magnitude :=
    if form.significand = 0 then 0
    else if significand < twoTo 52 then significand
    else (exponent + 1075).toNat * twoTo 52 + (significand - twoTo 52)
  Float.ofBits (UInt64.ofNat (magnitude + if form.negative then twoTo 63 else 0))

/-- The magnitude without its fraction. -/
def wholeValue (form : Binary) : Nat :=
  if form.exponent ≥ 0 then form.significand * twoTo form.exponent.toNat
  else form.significand / twoTo (-form.exponent).toNat

/-- Whether the number has no fraction. -/
def isWhole (form : Binary) : Bool :=
  form.exponent ≥ 0 || form.significand % twoTo (-form.exponent).toNat == 0

end Binary

/-- The number without its fraction, with its sign. Infinities and NaN stay what they are. -/
def truncate (x : Float) : Float :=
  match Binary.ofFloat? x with
  | none => x
  | some form => if form.exponent ≥ 0 then x else Binary.toFloat ⟨form.negative, form.wholeValue, 0⟩

/-- The magnitude of a number without its fraction; zero for infinities and NaN. -/
def wholeValue (x : Float) : Nat :=
  match Binary.ofFloat? x with
  | none => 0
  | some form => form.wholeValue

/-- What is left of `x` after taking away `y` as often as it fits, with the sign of `x`. There is no
remainder of an infinity, or by zero; an infinite `y` never fits. -/
def remainder (x y : Float) : Float :=
  match Binary.ofFloat? x, Binary.ofFloat? y with
  | some a, some b =>
    if b.significand = 0 then 0.0 / 0.0
    else
      let exponent := min a.exponent b.exponent
      let scaled (form : Binary) : Nat := form.significand * twoTo (form.exponent - exponent).toNat
      Binary.toFloat ⟨a.negative, scaled a % scaled b, exponent⟩
  | some _, none => if y.isNaN then y else x
  | none, _ => 0.0 / 0.0

end ViewTemplate.Number
