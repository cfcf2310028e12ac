import ViewTemplate.Render.Error

/-!
# Collections

What a loop goes over: the items of a value, each with the values that the loop can name.

## Main Definitions

* `Value.items?` — the items of a value, if it has any kind of items
* `collectionAt` — the items that the loop at some place goes over

## Design Notes

An item of an array or a character of a string comes with its index; a field of an object comes with
its name in front. A loop names as many of these values as it has identifiers.
-/

namespace ViewTemplate

/-- Numbers things from zero, each behind what it is called by. -/
def numbered {α : Type} (label : α → List Value) (things : List α) : List (List Value) :=
  things.zipIdx.map fun (thing, index) => label thing ++ [.ofNat index]

/-- The items of a value, each with the values that a loop can name. -/
def Value.items? : Value → Option (List (List Value))
  | array items => some (numbered (fun item => [item]) items)
  | string text => some (numbered (fun c => [.ofChar c]) text.toList)
  | object fields => some (numbered (fun (name, value) => [.string name, value]) fields)
  | _ => none

/-- The items that the loop whose collection stands at `position` goes over. -/
def collectionAt (position : Position) (value : Value) : Except RenderError (List (List Value)) :=
  if value.isNullish then
    .error (.nullCollection position)
  else
    match value.items? with
    | some items => .ok items
    | none => .error (.notIterable value.typeName position)

end ViewTemplate
