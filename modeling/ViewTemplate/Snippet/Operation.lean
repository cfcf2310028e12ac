import ViewTemplate.Number.Binary
import ViewTemplate.Snippet.Syntax
import ViewTemplate.Value.Equality

/-!
# Operations on values

What the operators of expressions compute.

## Main Definitions

* `compareValues` — the order of two values, if they have one
* `BinaryOp.apply` — the value of a binary operator on two values
* `BinaryOp.shortcuts` — when the first operand already is the value of the operation
* `UnaryOp.apply`, `UpdateOp.apply` — the other operators
-/

namespace ViewTemplate.Snippet

/-- The order of two values: of two strings that of their characters, of all others that of the
numbers they count as. -/
def compareValues : Value → Value → Option Ordering
  | .string a, .string b => some (compare a b)
  | a, b =>
    let x := a.toNumber
    let y := b.toNumber
    if x < y then some .lt
    else if y < x then some .gt
    else if x == y then some .eq
    else none

/-- Whether adding a value to another one joins their texts. -/
def isTextual : Value → Bool
  | .string _ | .array _ | .object _ | .function _ => true
  | _ => false

/-- The text of a value when it is joined to another one: `null` and `undefined` show their
names. -/
def joinedText : Value → String
  | .undefined => "undefined"
  | .null => "null"
  | value => value.text

/-- The value of a binary operator on two values. -/
def BinaryOp.apply (op : BinaryOp) (left right : Value) : Value :=
  match op with
  | .add =>
    if isTextual left || isTextual right then .string (joinedText left ++ joinedText right)
    else .number (left.toNumber + right.toNumber)
  | .sub => .number (left.toNumber - right.toNumber)
  | .mul => .number (left.toNumber * right.toNumber)
  | .div => .number (left.toNumber / right.toNumber)
  | .mod => .number (Number.remainder left.toNumber right.toNumber)
  | .eq => .bool (left.looseEquals right)
  | .neq => .bool (!left.looseEquals right)
  | .strictEq => .bool (left.strictEquals right)
  | .strictNeq => .bool (!left.strictEquals right)
  | .lt => .bool (compareValues left right == some .lt)
  | .gt => .bool (compareValues left right == some .gt)
  | .lte =>
    .bool (compareValues left right == some .lt || compareValues left right == some .eq)
  | .gte =>
    .bool (compareValues left right == some .gt || compareValues left right == some .eq)
  | .and => if left.isTruthy then right else left
  | .or => if left.isTruthy then left else right
  | .nullishCoalescing => if left.isNullish then right else left

/-- Whether the first operand is the value of the operation, so that the second one is not
evaluated. -/
def BinaryOp.shortcuts (op : BinaryOp) (left : Value) : Bool :=
  match op with
  | .and => !left.isTruthy
  | .or => left.isTruthy
  | .nullishCoalescing => !left.isNullish
  | _ => false

/-- The value of an operator in front of an operand. -/
def UnaryOp.apply : UnaryOp → Value → Value
  | .not, value => .bool (!value.isTruthy)
  | .neg, value => .number (-value.toNumber)
  | .plus, value => .number value.toNumber
  | .typeof, value => .string value.typeName

/-- The number that an update puts in the place of another one. -/
def UpdateOp.apply : UpdateOp → Float → Float
  | .increment, number => number + 1.0
  | .decrement, number => number - 1.0

end ViewTemplate.Snippet
