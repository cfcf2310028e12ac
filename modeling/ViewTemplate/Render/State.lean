import ViewTemplate.Render.AttributeSet
import ViewTemplate.Render.Collection
import ViewTemplate.Render.Target
import ViewTemplate.Views.Environment

/-!
# The state of a render

What a render knows and has written: its context and variables, its targets, its print blocks and
its layouts.

## Main Definitions

* `BoundBlock` — a print block that can be called
* `RenderState` — the state of a render
* `RenderState.lookup`, `RenderState.assign?`, `RenderState.declare` — names
* `RenderState.write` and what is built on it — output
* `RenderState.saveTarget`, `RenderState.restoreTarget`, `RenderState.mergeTarget` — targets
* `RenderState.bindBlock` — the place of a print block in the table of blocks

## Design Notes

A name is looked up in the frames, innermost first, then among the fields of the context, then among
the helpers of the environment. Only frames and context can be assigned to.
-/

namespace ViewTemplate

/-- Variables of one piece of a template. -/
abbrev Frame := Table Value

/-- A print block that can be called. -/
structure BoundBlock where
  /-- The number of the compilation that made it. -/
  origin : Nat
  /-- Where its expression stands. -/
  position : Position
  /-- The names of its arguments. -/
  parameters : List String
  /-- What it does. -/
  body : List Step
deriving BEq

/-- The state of a render. -/
structure RenderState where
  /-- The compiled views that are kept. -/
  store : ViewStore
  /-- What is written to. -/
  target : Target := {}
  /-- The targets that wait for the current one to end, newest first. -/
  saved : List Target := []
  /-- The keys of the layouts that were applied, in order. -/
  layouts : List String := []
  /-- The path of the layout that is applied next. -/
  pendingLayout : Option String := none
  /-- The value of `this`; the fields of an object are variables. -/
  context : Value
  /-- The frames, innermost first. -/
  frames : List Frame := [[]]
  /-- The print blocks that were bound so far. -/
  blocks : List BoundBlock := []
  /-- How many views are being rendered inside others. Inside one, layouts do not count. -/
  partialDepth : Nat := 0
  /-- How many views and print blocks are active inside each other. -/
  depth : Nat := 0

namespace RenderState

/-! ### Names -/

/-- The value of a name in the innermost frame that has it. -/
def lookupFrames : List Frame → String → Option Value
  | [], _ => none
  | frame :: rest, name =>
    match frame.get? name with
    | some value => some value
    | none => lookupFrames rest name

/-- The frames with another value for a name, in the innermost frame that has it. -/
def assignFrames? : List Frame → String → Value → Option (List Frame)
  | [], _, _ => none
  | frame :: rest, name, value =>
    match frame.update? name value with
    | some frame => some (frame :: rest)
    | none => (assignFrames? rest name value).map (frame :: ·)

/-- The variables that a context makes. -/
def contextFields : Value → Table Value
  | .object fields => fields
  | _ => []

/-- The value of a name. -/
def lookup (environment : Environment) (state : RenderState) (name : String) : Option Value :=
  match lookupFrames state.frames name with
  | some value => some value
  | none =>
    match (contextFields state.context).get? name with
    | some value => some value
    | none => environment.helper? name

/-- The state with another value for a name that is a variable. -/
def assign? (state : RenderState) (name : String) (value : Value) : Option RenderState :=
  match assignFrames? state.frames name value with
  | some frames => some { state with frames }
  | none =>
    ((contextFields state.context).update? name value).map fun fields =>
      { state with context := .object fields }

/-- Makes a variable in the innermost frame. -/
def declare (state : RenderState) (name : String) (value : Value) : RenderState :=
  match state.frames with
  | [] => state
  | frame :: rest => { state with frames := frame.set name value :: rest }

/-- Adds an innermost frame. -/
def pushFrame (frame : Frame) (state : RenderState) : RenderState :=
  { state with frames := frame :: state.frames }

/-- Removes the innermost frame. -/
def popFrame (state : RenderState) : RenderState :=
  { state with frames := state.frames.tail }

/-! ### Output -/

/-- The text written to the current target. -/
def output (state : RenderState) : String :=
  state.target.default

/-- Writes a text. -/
def write (text : String) (state : RenderState) : RenderState :=
  { state with target := state.target.append text }

/-- Writes a comment. -/
def writeComment (text : String) : RenderState → RenderState :=
  write ("<!--" ++ text ++ "-->")

/-- Writes a section of literal text. -/
def writeCData (text : String) : RenderState → RenderState :=
  write ("<![CDATA[" ++ text ++ "]]>")

/-- Writes the document type. -/
def writeDoctype : RenderState → RenderState :=
  write "<!DOCTYPE html>"

/-- Writes an opening tag. -/
def writeOpenTag (name : String) (attributes : AttributeSet) : RenderState → RenderState :=
  write ("<" ++ name ++ attributes.text ++ ">")

/-- Writes a closing tag. -/
def writeCloseTag (name : String) : RenderState → RenderState :=
  write ("</" ++ name ++ ">")

/-- Writes the text of a value, and nothing for `null` and `undefined`. -/
def writeValue (value : Value) : RenderState → RenderState :=
  if value.isNullish then id else write value.text

/-- Writes the text of a slot, or what the current layout wraps. -/
def writeContent (slot? : Option String) (state : RenderState) : RenderState :=
  match slot? with
  | some slot => state.write (state.target.slot slot)
  | none => state.write state.target.layoutContent

/-! ### Targets -/

/-- Starts a new target. -/
def saveTarget (state : RenderState) : RenderState :=
  { state with target := {}, saved := state.target :: state.saved }

/-- Ends the current target and goes back to the one before, if there is one. -/
def restoreTarget (state : RenderState) : Option Target × RenderState :=
  match state.saved with
  | [] => (none, state)
  | target :: saved => (some state.target, { state with target, saved })

/-- Ends the current target and puts its text into a slot of the one before, if there is one. -/
def mergeTarget (slot : String) (state : RenderState) : RenderState :=
  match state.restoreTarget with
  | (none, state) => state
  | (some ended, state) => { state with target := state.target.merge ended (some slot) }

/-! ### Layouts and blocks -/

/-- Registers a layout. The first one counts. -/
def setLayout (path : String) (state : RenderState) : RenderState :=
  { state with pendingLayout := some (state.pendingLayout.getD path) }

/-- The place of a print block in the table of blocks, where it is added if it is new. -/
def bindBlock (block : BoundBlock) (state : RenderState) : Nat × RenderState :=
  match state.blocks.findIdx? (· == block) with
  | some index => (index, state)
  | none => (state.blocks.length, { state with blocks := state.blocks ++ [block] })

end RenderState

end ViewTemplate
