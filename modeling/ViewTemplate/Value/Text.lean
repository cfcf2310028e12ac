import ViewTemplate.Number.Reading
import ViewTemplate.Text.Quoted
import ViewTemplate.Text.Search
import ViewTemplate.Value.Basic

/-!
# The texts of a value

How values are written into a document, how they are inspected, and which number they stand for.

## Main Definitions

* `Value.text` — the text that is rendered
* `Value.inspect` — a text that shows what kind of value it is
* `Value.toNumber` — the number that a value counts as in arithmetic
-/

namespace ViewTemplate.Value

open ViewTemplate.Text

/-- The text of a truth value. -/
def boolText : Bool → String
  | true => "true"
  | false => "false"

/-- Texts with a separator between each two. -/
def joinTexts (separator : String) (texts : List String) : String :=
  String.ofList (joinWith separator.toList (texts.map String.toList))

/-- The text that is rendered. `null` and `undefined` have none, the items of an array stand between
commas, and objects and functions only show what they are. -/
def text : Value → String
  | undefined | null => ""
  | bool value => boolText value
  | number value => Number.text value
  | string text => text
  | array items => joinTexts "," (itemTexts items)
  | object _ => "[object Object]"
  | function _ => "function () \x7b [native code] \x7d"
where
  /-- The texts of the items of an array. -/
  itemTexts : List Value → List String
    | [] => []
    | item :: rest => text item :: itemTexts rest

/-- A text that shows what kind of value it is: strings are quoted, and arrays and objects show what
they hold. -/
def inspect : Value → String
  | undefined => "undefined"
  | null => "null"
  | bool value => boolText value
  | number value => Number.text value
  | string text => quoted text
  | array items => "[" ++ joinTexts ", " (inspectItems items) ++ "]"
  | object fields => "\x7b" ++ joinTexts ", " (inspectFields fields) ++ "\x7d"
  | function (.block index) => "Block(" ++ toString index ++ ")"
  | function (.host _) => "Native"
where
  /-- The inspected items of an array. -/
  inspectItems : List Value → List String
    | [] => []
    | item :: rest => inspect item :: inspectItems rest
  /-- The inspected fields of an object, each behind its name. -/
  inspectFields : List (String × Value) → List String
    | [] => []
    | (name, value) :: rest => (quoted name ++ ": " ++ inspect value) :: inspectFields rest

/-- The number that a value counts as in arithmetic. An array counts as its text. -/
def toNumber : Value → Float
  | undefined => 0.0 / 0.0
  | null => 0.0
  | bool value => if value then 1.0 else 0.0
  | number value => value
  | string text => Number.ofText text
  | array items => Number.ofText (text (array items))
  | object _ | function _ => 0.0 / 0.0

end ViewTemplate.Value
