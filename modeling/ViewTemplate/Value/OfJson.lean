import ViewTemplate.Json.Number
import ViewTemplate.Json.Reader
import ViewTemplate.Value.Basic

/-!
# Values from JSON

The value that a JSON document stands for.

## Main Definitions

* `Value.ofJson?` — the value of a document
* `Value.readJson?` — the value of a JSON text

## Design Notes

A field that is repeated keeps its first place and takes its last value. A document with a number
out of range, a broken text or too many levels has no value.
-/

namespace ViewTemplate.Value

/-- The value of a document, whatever its depth. -/
def ofJson? : Json → Option Value
  | .null => some null
  | .bool value => some (bool value)
  | .number literal => literal.finite?.map number
  | .string text => text.map string
  | .array items => (ofItems? items).map array
  | .object fields => (ofFields? fields).map fun entries => object (Table.ofEntries entries)
where
  /-- The values of the items of an array. -/
  ofItems? : List Json → Option (List Value)
    | [] => some []
    | item :: rest => do
      let value ← ofJson? item
      let values ← ofItems? rest
      some (value :: values)
  /-- The entries of the fields of an object. -/
  ofFields? : List (Option String × Json) → Option (List (String × Value))
    | [] => some []
    | (name, json) :: rest => do
      let name ← name
      let value ← ofJson? json
      let entries ← ofFields? rest
      some ((name, value) :: entries)

/-- The number of levels that a document may have. -/
def maxJsonDepth : Nat := 127

/-- The value of a JSON text. -/
def readJson? (text : String) : Option Value := do
  let json ← Json.read? text
  if json.depth ≤ maxJsonDepth then ofJson? json else none

end ViewTemplate.Value
