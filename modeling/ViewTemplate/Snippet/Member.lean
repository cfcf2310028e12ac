import ViewTemplate.Number.Binary
import ViewTemplate.Snippet.Scope
import ViewTemplate.Text.Case
import ViewTemplate.Value.Equality

/-!
# Members of values

What can be read from a value by a key, and the methods that strings and arrays have.

## Main Definitions

* `readMember` — the member of a value under a key
* `stringMethod?` — the methods of strings
* `plainArrayMethod?` — the methods of arrays that call nothing
* `callMethod?` — the method of a value under a name, called with arguments

## Design Notes

Methods never change the value they are called on. Lengths and places count characters.
-/

namespace ViewTemplate.Snippet

open ViewTemplate.Text

variable {σ ε : Type}

/-! ### Reading -/

/-- The place that a key names: digits, with an optional plus sign in front. -/
def place? (key : String) : Option Nat :=
  let digits := match key.toList with
    | '+' :: rest => rest
    | all => all
  if digits.isEmpty || !digits.all isAsciiDigit then none else some (Number.ofDigits digits)

/-- The item at the place that a key names, `undefined` if there is none. -/
def itemAt (items : List Value) (key : String) : Value :=
  match place? key with
  | some index => items[index]?.getD .undefined
  | none => .undefined

/-- The member of a value under a key. `null` and `undefined` have none. -/
def readMember (receiver : Value) (key : String) : Except (EvalError ε) Value :=
  match receiver with
  | .undefined => .error (.unreadable "undefined" key)
  | .null => .error (.unreadable "null" key)
  | .string text =>
    if key = "length" then .ok (.ofNat text.length)
    else .ok (itemAt (text.toList.map Value.ofChar) key)
  | .array items =>
    if key = "length" then .ok (.ofNat items.length)
    else .ok (itemAt items key)
  | .object fields =>
    match Table.get? fields key with
    | some value => .ok value
    | none => .ok (if key = "length" then .ofNat fields.length else .undefined)
  | .bool _ | .number _ | .function _ => .ok .undefined

/-! ### Arguments -/

/-- The first argument, `undefined` if there is none. -/
def firstArgument (arguments : List Value) : Value :=
  arguments.headD .undefined

/-- The text of the first argument. -/
def firstText (arguments : List Value) : List Char :=
  match firstArgument arguments with
  | .undefined => "undefined".toList
  | value => value.text.toList

/-- The function given to a method of arrays. -/
def callback (method : String) (arguments : List Value) : Except (EvalError ε) Callable :=
  match firstArgument arguments with
  | .function callable => .ok callable
  | other => .error (.notACallback other.typeName method)

/-- The place that a possibly negative bound stands for in a list of `length` items. Negative bounds
count from the end. -/
def boundOf (bound : Option Value) (length missing : Nat) : Nat :=
  match bound with
  | none | some .undefined => missing
  | some value =>
    let n := Number.truncate value.toNumber
    if n.isNaN then 0
    else if n < 0 then
      if n.isInf then 0 else length - Number.wholeValue n
    else
      if n.isInf then length else min (Number.wholeValue n) length

/-! ### Methods -/

/-- The greatest number of bytes that a repeated text may have. -/
def maxRepeated : Nat := Number.twoTo 29 - 24

/-- A text repeated as often as the first argument says. -/
def repeated (text : String) (arguments : List Value) : Except (EvalError ε) Value :=
  let asked := (firstArgument arguments).toNumber
  let count := if asked.isNaN then 0.0 else Number.truncate asked
  if count < 0 || count.isInf then .error (.invalidCount count)
  else if Float.ofNat text.utf8ByteSize * count > Float.ofNat maxRepeated then
    .error .invalidLength
  else if text.isEmpty then .ok (.string "")
  else .ok (.string (Nat.repeat (· ++ text) (Number.wholeValue count) ""))

/-- The parts of a text between occurrences of the first argument. An empty one parts all
characters, and without one the text is not parted. -/
def partsOf (text : String) (arguments : List Value) : List Value :=
  match firstArgument arguments with
  | .undefined => [.string text]
  | separator =>
    match separator.text.toList with
    | [] => text.toList.map Value.ofChar
    | separator => (splitOn text.toList separator).map fun part => .string (String.ofList part)

/-- The methods of strings. -/
def stringMethod? (text name : String) (arguments : List Value) :
    Except (EvalError ε) (Option Value) :=
  match name with
  | "toUpperCase" => .ok (some (.string (toUpper text)))
  | "toLowerCase" => .ok (some (.string (toLower text)))
  | "trim" => .ok (some (.string (trim text)))
  | "includes" => .ok (some (.bool (contains text.toList (firstText arguments))))
  | "startsWith" => .ok (some (.bool (startsWith text.toList (firstText arguments))))
  | "endsWith" => .ok (some (.bool (endsWith text.toList (firstText arguments))))
  | "split" => .ok (some (.array (partsOf text arguments)))
  | "repeat" => (repeated text arguments).map some
  | _ => .ok none

/-- The items of an array and the arguments, arrays among them item by item. -/
def concatenated (items arguments : List Value) : List Value :=
  items ++ arguments.flatMap fun
    | .array more => more
    | other => [other]

/-- The methods of arrays that call nothing. -/
def plainArrayMethod? (items : List Value) (name : String) (arguments : List Value) :
    Option Value :=
  match name with
  | "join" =>
    let separator := match firstArgument arguments with
      | .undefined => ","
      | value => value.text
    some (.string (Value.joinTexts separator (items.map Value.text)))
  | "includes" => some (.bool (items.any (Value.sameOrNaN · (firstArgument arguments))))
  | "indexOf" =>
    match items.findIdx? (Value.strictEquals · (firstArgument arguments)) with
    | some index => some (.ofNat index)
    | none => some (.number (-1.0))
  | "slice" =>
    let start := boundOf arguments[0]? items.length 0
    let stop := boundOf arguments[1]? items.length items.length
    some (.array ((items.take stop).drop start))
  | "concat" => some (.array (concatenated items arguments))
  | "reverse" => some (.array items.reverse)
  | _ => none

/-- Calls a function on every item and its place. -/
def callOnItems (scope : Scope σ ε) (callable : Callable) :
    (index : Nat) → List Value → Eval σ ε (List (Value × Value))
  | _, [] => return []
  | index, item :: rest => do
    let result ← scope.call callable [item, .ofNat index]
    return (item, result) :: (← callOnItems scope callable (index + 1) rest)

/-- The methods of arrays. -/
def arrayMethod? (scope : Scope σ ε) (items : List Value) (name : String)
    (arguments : List Value) : Eval σ ε (Option Value) := do
  if name = "map" then
    let callable ← liftExcept (callback "map" arguments)
    let results ← callOnItems scope callable 0 items
    return some (.array (results.map (·.2)))
  else if name = "filter" then
    let callable ← liftExcept (callback "filter" arguments)
    let results ← callOnItems scope callable 0 items
    return some (.array ((results.filter (·.2.isTruthy)).map (·.1)))
  else
    return plainArrayMethod? items name arguments
where
  /-- The evaluation of a result that depends on no state. -/
  liftExcept {α : Type} : Except (EvalError ε) α → Eval σ ε α
    | .ok value => return value
    | .error error => throw error

/-- Calls the method of a value under a name. Nothing if it has none of that name. -/
def callMethod? (scope : Scope σ ε) (receiver : Value) (name : String) (arguments : List Value) :
    Eval σ ε (Option Value) :=
  if name = "toString" then return some (.string receiver.text)
  else match receiver with
    | .string text =>
      match stringMethod? text name arguments with
      | .ok result => return result
      | .error error => throw error
    | .array items => arrayMethod? scope items name arguments
    | _ => return none

end ViewTemplate.Snippet
