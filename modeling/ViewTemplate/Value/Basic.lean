import ViewTemplate.Number.Text
import ViewTemplate.Table

/-!
# Values

What expressions work on: the data of a render context and what is computed from it.

## Main Definitions

* `Callable` — what a function value calls
* `Value` — dynamically typed values
* `Value.isTruthy`, `Value.isNullish` — how a value counts in conditions
* `Value.typeName` — the name of its type

## Design Notes

A function is a handle: either the place of a print block in the table of a running render, or the
name of a function of the host. So values hold no code, and they can be compared.
-/

namespace ViewTemplate

/-- What a function value calls. -/
inductive Callable where
  /-- The print block at a place of the render's block table. -/
  | block (index : Nat)
  /-- The host's function of that name. -/
  | host (name : String)
deriving Repr, DecidableEq

/-- A dynamically typed value. The fields of an object have distinct names and keep their order. -/
inductive Value where
  | undefined
  | null
  | bool (value : Bool)
  | number (value : Float)
  | string (text : String)
  | array (items : List Value)
  | object (fields : List (String × Value))
  | function (callable : Callable)
deriving Repr, Inhabited

namespace Value

/-- The number of a count. -/
def ofNat (n : Nat) : Value :=
  number (Float.ofNat n)

/-- The string of a single character. -/
def ofChar (c : Char) : Value :=
  string (String.singleton c)

/-- Whether a value is `null` or `undefined`. -/
def isNullish : Value → Bool
  | undefined | null => true
  | _ => false

/-- Whether a value counts as true in a condition. -/
def isTruthy : Value → Bool
  | undefined | null => false
  | bool value => value
  | number value => value != 0 && !value.isNaN
  | string text => text != ""
  | array _ | object _ | function _ => true

/-- The name of a value's type. -/
def typeName : Value → String
  | undefined => "undefined"
  | bool _ => "boolean"
  | number _ => "number"
  | string _ => "string"
  | function _ => "function"
  | null | array _ | object _ => "object"

/-- The text of a string value. -/
def asText? : Value → Option String
  | string text => some text
  | _ => none

end Value

end ViewTemplate
