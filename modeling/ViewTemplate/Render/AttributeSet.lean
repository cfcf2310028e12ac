import ViewTemplate.Table

/-!
# Attribute sets

The attributes of one opening tag, in the order in which they were first named.

## Main Definitions

* `AttributeEntry` — what is known of an attribute
* `AttributeSet` — attributes by name
* `AttributeSet.setValue`, `AttributeSet.setBoolean`, `AttributeSet.appendValue` — naming attributes
* `AttributeSet.text` — how the attributes are written

## Design Notes

Setting an attribute again replaces what it was and keeps its place. Text can be added only to an
attribute that has a value; to any other it gives one.
-/

namespace ViewTemplate

/-- What is known of an attribute. -/
inductive AttributeEntry where
  /-- It has no value. -/
  | boolean
  /-- It has a value, written between two quotes. -/
  | value (quote : Char) (text : String)
deriving Repr, DecidableEq

/-- How an entry is written behind the name of its attribute. -/
def AttributeEntry.text : AttributeEntry → String
  | boolean => ""
  | value quote text => "=" ++ String.singleton quote ++ text ++ String.singleton quote

/-- The attributes of an opening tag, by name. -/
abbrev AttributeSet := Table AttributeEntry

namespace AttributeSet

/-- Gives an attribute a value. -/
def setValue (attributes : AttributeSet) (name : String) (quote : Char) (text : String) :
    AttributeSet :=
  Table.set attributes name (.value quote text)

/-- Makes an attribute one without a value. -/
def setBoolean (attributes : AttributeSet) (name : String) : AttributeSet :=
  Table.set attributes name .boolean

/-- Adds a text to the value of an attribute, behind a space. An attribute without a value is given
the text and the quote instead. -/
def appendValue (attributes : AttributeSet) (name : String) (quote : Char) (text : String) :
    AttributeSet :=
  match Table.get? attributes name with
  | some (.value quote old) => attributes.setValue name quote (old ++ " " ++ text)
  | _ => attributes.setValue name quote text

/-- The value of an attribute, empty if it is there without one. -/
def value? (attributes : AttributeSet) (name : String) : Option String :=
  (Table.get? attributes name).map fun
    | .boolean => ""
    | .value _ text => text

/-- How the attributes are written: each behind a space. -/
def text (attributes : AttributeSet) : String :=
  String.join (attributes.map fun (name, entry) => " " ++ name ++ entry.text)

end AttributeSet

end ViewTemplate
