import ViewTemplate.Value.Text

/-!
# Equality of values

Three ways to compare values: as data, strictly, and after the usual conversions.

## Main Definitions

* `Value.same` — equality as data
* `Value.strictEquals` — equality without conversions
* `Value.looseEquals` — equality with conversions between numbers, strings and truth values
* `Value.sameOrNaN` — strict equality under which NaN equals itself

## Design Notes

Numbers compare as numbers do, so NaN differs from itself and zero has no sign. Arrays compare item
by item, objects by their fields in any order, functions by what they call.
-/

namespace ViewTemplate.Value

/-- Whether two values are the same data. -/
def same : Value → Value → Bool
  | undefined, undefined | null, null => true
  | bool a, bool b => a == b
  | number a, number b => a == b
  | string a, string b => a == b
  | array as, array bs => sameItems as bs
  | object fs, object gs => fs.length == gs.length && sameFields fs gs
  | function a, function b => a == b
  | _, _ => false
where
  /-- Whether two lists of items are the same. -/
  sameItems : List Value → List Value → Bool
    | [], [] => true
    | a :: as, b :: bs => same a b && sameItems as bs
    | _, _ => false
  /-- Whether every field has the same value among the fields `gs`. -/
  sameFields : List (String × Value) → List (String × Value) → Bool
    | [], _ => true
    | (name, value) :: rest, gs =>
      (match Table.get? gs name with
        | some other => same value other
        | none => false) && sameFields rest gs

/-- Equality without conversions. -/
def strictEquals : Value → Value → Bool
  | number a, number b => a == b
  | array as, array bs => as.length == bs.length && strictItems as bs
  | object fs, object gs => fs.length == gs.length && strictFields fs gs
  | a, b => same a b
where
  /-- Whether items at the same place are equal, as far as both lists go. -/
  strictItems : List Value → List Value → Bool
    | a :: as, b :: bs => strictEquals a b && strictItems as bs
    | _, _ => true
  /-- Whether every field has an equal value among the fields `gs`. -/
  strictFields : List (String × Value) → List (String × Value) → Bool
    | [], _ => true
    | (name, value) :: rest, gs =>
      (match Table.get? gs name with
        | some other => strictEquals value other
        | none => false) && strictFields rest gs

/-- Whether two values are compared by the numbers that they count as. -/
def comparesAsNumbers : Value → Value → Bool
  | number _, string _ | string _, number _ => true
  | bool _, _ | _, bool _ => true
  | _, _ => false

/-- Equality with conversions. `null` and `undefined` equal each other and nothing else. -/
def looseEquals (a b : Value) : Bool :=
  if a.isNullish || b.isNullish then a.isNullish && b.isNullish
  else if comparesAsNumbers a b then a.toNumber == b.toNumber
  else strictEquals a b

/-- Strict equality, except that NaN equals itself. -/
def sameOrNaN (a b : Value) : Bool :=
  match a, b with
  | number x, number y => (x.isNaN && y.isNaN) || x == y
  | a, b => strictEquals a b

end ViewTemplate.Value
