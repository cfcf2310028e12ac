/-!
# Positions

Where something stands in a source text: its line and column, both counted from one.

## Main Definitions

* `Position` — a line and a column
* `Position.after` — the position behind one character
* `Position.afterAll` — the position behind a run of characters

## Design Notes

A tab moves the column on by the tab width wherever it stands; it does not go to the next multiple.
Every other character but the line feed counts as one column.
-/

namespace ViewTemplate

/-- A line and a column, counted from one. -/
structure Position where
  /-- The line, the first one being 1. -/
  line : Nat := 1
  /-- The column in the line, the first one being 1. -/
  column : Nat := 1
deriving Repr, DecidableEq, Inhabited

namespace Position

/-- The position of the first character of a text. -/
def start : Position := ⟨1, 1⟩

/-- The position behind the character `c` that stands at `position`. -/
def after (tabWidth : Nat) (position : Position) (c : Char) : Position :=
  if c = '\n' then ⟨position.line + 1, 1⟩
  else if c = '\t' then ⟨position.line, position.column + tabWidth⟩
  else ⟨position.line, position.column + 1⟩

/-- The position behind `text` when its first character stands at `position`. -/
def afterAll (tabWidth : Nat) (position : Position) (text : List Char) : Position :=
  text.foldl (after tabWidth) position

@[simp]
theorem afterAll_nil (tabWidth : Nat) (position : Position) :
    position.afterAll tabWidth [] = position := rfl

@[simp]
theorem afterAll_cons (tabWidth : Nat) (position : Position) (c : Char) (text : List Char) :
    position.afterAll tabWidth (c :: text) = (position.after tabWidth c).afterAll tabWidth text :=
  rfl

theorem afterAll_append (tabWidth : Nat) (position : Position) (s t : List Char) :
    position.afterAll tabWidth (s ++ t) = (position.afterAll tabWidth s).afterAll tabWidth t := by
  simp [afterAll]

/-- How messages name a position. -/
def describe (position : Position) : String :=
  s!"line {position.line}, column {position.column}"

end Position

end ViewTemplate
