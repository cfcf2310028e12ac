import ViewTemplate.Table

/-!
# Targets

What a render has written so far: a default text, texts of named slots, and the content that a
layout wraps.

## Main Definitions

* `Target` — the texts written so far
* `Target.append`, `Target.appendTo` — writing to the default text and to a slot
* `Target.slot` — the text of a slot
* `Target.merge` — adding what was written to another target
* `Target.startLayout` — making the default text the content of a layout
-/

namespace ViewTemplate

/-- What a render has written so far. -/
structure Target where
  /-- The text that was written to no slot. -/
  default : String := ""
  /-- The texts of the slots, in the order in which they were first written to. -/
  slots : Table String := []
  /-- The text that the current layout wraps. -/
  layoutContent : String := ""
deriving Repr, DecidableEq, Inhabited

namespace Target

/-- Writes to the default text. -/
def append (target : Target) (text : String) : Target :=
  { target with default := target.default ++ text }

/-- The text of a slot; a slot that was never written to is empty. -/
def slot (target : Target) (name : String) : String :=
  (target.slots.get? name).getD ""

/-- Writes to a slot. -/
def appendTo (target : Target) (name text : String) : Target :=
  { target with slots := target.slots.set name (target.slot name ++ text) }

/-- Adds what was written to another target: first its slots, then its default text, which goes to a
slot if one is given. -/
def merge (target other : Target) (slot? : Option String) : Target :=
  let target := other.slots.foldl (fun target (name, text) => target.appendTo name text) target
  match slot? with
  | some name => target.appendTo name other.default
  | none => target.append other.default

/-- Makes the default text the content of a layout, and starts over with an empty one. -/
def startLayout (target : Target) : Target :=
  { target with default := "", layoutContent := target.default }

/-- Writing to a slot adds to its text and leaves the other slots alone. -/
theorem slot_appendTo (target : Target) (name other text : String) :
    (target.appendTo name text).slot other
      = if name = other then target.slot other ++ text else target.slot other := by
  by_cases h : name = other
  · subst h
    simp [appendTo, slot, Table.get?_set]
  · simp [appendTo, slot, Table.get?_set, h]

end Target

end ViewTemplate
