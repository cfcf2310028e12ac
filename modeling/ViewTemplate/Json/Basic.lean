/-!
# JSON documents

The tree of a JSON text as it was written: numbers keep their digits and objects keep every field
in order, repeated ones included.

## Main Definitions

* `NumberLiteral` — the parts of a number as written
* `Json` — a JSON document
* `Json.depth` — how deep arrays and objects are nested
* `Json.isSound` — whether every text in the document is a sequence of characters

## Design Notes

What a number or a repeated field means differs between the readers of a document, so neither is
decided here.
-/

namespace ViewTemplate

/-- A number as it is written. -/
structure NumberLiteral where
  /-- Whether a minus sign stands in front. -/
  negative : Bool
  /-- The digits before the point, at least one. -/
  whole : List Char
  /-- The digits behind the point, at least one if there is a point. -/
  fraction : Option (List Char)
  /-- The sign and the digits of the exponent; `true` means a negative one. -/
  exponent : Option (Bool × List Char)
deriving Repr, DecidableEq

/-- A JSON document. A text is absent if it holds half of a surrogate pair, which is no
character. -/
inductive Json where
  | null
  | bool (value : Bool)
  | number (literal : NumberLiteral)
  | string (text : Option String)
  | array (items : List Json)
  | object (fields : List (Option String × Json))
deriving Repr

namespace Json

/-- The number of arrays and objects around the innermost value. -/
def depth : Json → Nat
  | array items => 1 + depthItems items
  | object fields => 1 + depthFields fields
  | _ => 0
where
  /-- The greatest depth of the items. -/
  depthItems : List Json → Nat
    | [] => 0
    | item :: rest => max (depth item) (depthItems rest)
  /-- The greatest depth of the fields' values. -/
  depthFields : List (Option String × Json) → Nat
    | [] => 0
    | (_, value) :: rest => max (depth value) (depthFields rest)

/-- Whether no text in the document is broken. -/
def isSound : Json → Bool
  | string none => false
  | array items => isSoundItems items
  | object fields => isSoundFields fields
  | _ => true
where
  /-- Whether all items are sound. -/
  isSoundItems : List Json → Bool
    | [] => true
    | item :: rest => isSound item && isSoundItems rest
  /-- Whether all fields are sound, names included. -/
  isSoundFields : List (Option String × Json) → Bool
    | [] => true
    | (name, value) :: rest => name.isSome && isSound value && isSoundFields rest

end Json

end ViewTemplate
