import ViewTemplate.Render.State
import ViewTemplate.Snippet.Captured

/-!
# Execution of steps

What the steps of a program do to the state of a render.

## Main Definitions

* `Render` — what changes the state of a render and can fail
* `Calls` — how views and print blocks are called from steps and expressions
* `executeStep`, `executeSteps` — the effect of steps, given how calls are made
* `callView`, `callBlock` — a call, given how the steps of a view or block are executed
* `executeWithin` — execution of steps whose calls are at most a given number of levels deep
* `Environment.execute` — execution of steps in a render

## Design Notes

Steps evaluate expressions, expressions call print blocks, and print blocks are steps again; steps
also render other views. Execution is therefore defined for given calls, and it is tied together
level by level: what is called on one level executes its steps on the level below. The state counts
the active calls and refuses one more when there are `maxDepth`, so the lowest level is out of
reach.

A failure keeps the state as it was when it failed, but every frame and context that was exchanged
on the way is put back. Of the targets, a print block ends the current one whether or not it failed;
a capture for a slot ends its own only when it succeeds.
-/

namespace ViewTemplate

/-- What changes the state of a render and can fail. -/
abbrev Render := ExceptT RenderError (StateM RenderState)

namespace Render

variable {α : Type}

/-- Does something, and then makes a change whether or not it failed. -/
def alwaysThen (change : RenderState → RenderState) (action : Render α) : Render α :=
  ExceptT.mk do
    let result ← action.run
    modify change
    return result

/-- Does something, and gives its failure as a result. -/
def attempt (action : Render α) : Render (Except RenderError α) :=
  ExceptT.mk do
    let result ← action.run
    return .ok result

/-- Does something in a new innermost frame. -/
def inFrame (frame : Frame) (action : Render α) : Render α := do
  modify (·.pushFrame frame)
  alwaysThen (·.popFrame) action

/-- What is done with the compiled views of a render. -/
def ofCompiling (action : Compiling α) : Render α :=
  ExceptT.mk fun state =>
    match action.run.run state.store with
    | (.ok value, store) => (.ok value, { state with store })
    | (.error error, store) => (.error (.view error), { state with store })

/-- Does something for each of several things, in order. -/
def forEach {β : Type} (action : β → Render Unit) : List β → Render Unit
  | [] => return ()
  | thing :: rest => do
    action thing
    forEach action rest

/-- Does something again and again while a condition holds, at most `turns` times. The condition
stands at `position`. -/
def repeatWhile (position : Position) (condition : Render Bool) (action : Render Unit) :
    (turns : Nat) → Render Unit
  | 0 => throw (.tooManyTurns position)
  | turns + 1 => do
    if ← condition then
      action
      repeatWhile position condition action turns

/-- Counts one more active view or print block, unless there are too many. -/
def enter (name : String) (position : Position) : Render Unit := do
  let state ← get
  if maxDepth ≤ state.depth then
    throw (.tooDeep name position)
  else
    set { state with depth := state.depth + 1 }

/-- Counts one active view or print block less. -/
def leave (state : RenderState) : RenderState :=
  { state with depth := state.depth - 1 }

end Render

/-! ### Expressions -/

/-- How views and print blocks are called. -/
structure Calls where
  /-- Renders the view of a path in place, with a value whose fields are added to the context, from
  some place of a template. -/
  view : String → Option Value → Position → Render Unit
  /-- Calls a print block, whose value is the text that it writes. -/
  block : Nat → List Value → Snippet.Eval RenderState RenderError Value

section

variable (environment : Environment) (calls : Calls)

/-- The scope of the expressions of a render. -/
def renderScope : Snippet.Scope RenderState RenderError where
  lookup := RenderState.lookup environment
  assign? := RenderState.assign?
  declare := RenderState.declare
  this := RenderState.context
  callBlock := calls.block
  callHost := environment.functions

/-- The value of a captured expression. -/
def evaluateExpression (expression : Expression) : Render Value :=
  (Snippet.evaluate (renderScope environment calls) expression.body).adapt
    (RenderError.ofEval expression.position)

/-- The value of a captured statement that is run. -/
def runAction (action : Action) : Render Value :=
  (action.body.run (renderScope environment calls)).adapt (RenderError.ofEval action.position)

/-- The text that the parts of a value make. -/
def attributeText : List AttributePart → Render String
  | [] => return ""
  | .literal text :: rest => return text ++ (← attributeText rest)
  | .expression expression :: rest => do
    let value ← evaluateExpression environment calls expression
    return value.text ++ (← attributeText rest)

/-- The attributes of an opening tag, added to those before them. -/
def buildAttributes (attributes : AttributeSet) : List AttributeStep → Render AttributeSet
  | [] => return attributes
  | .plain name none :: rest => buildAttributes (attributes.setBoolean name) rest
  | .plain name (some (quote, parts)) :: rest => do
    let text ← attributeText environment calls parts
    buildAttributes (attributes.setValue name quote text) rest
  | .bound name quote expression :: rest => do
    let value ← evaluateExpression environment calls expression
    buildAttributes (attributes.setValue name quote value.text) rest
  | .conditional name condition :: rest => do
    if (← evaluateExpression environment calls condition).isTruthy then
      buildAttributes (attributes.setBoolean name) rest
    else
      buildAttributes attributes rest
  | .append name quote suffix condition :: rest => do
    if (← evaluateExpression environment calls condition).isTruthy then
      buildAttributes (attributes.appendValue name quote suffix) rest
    else
      buildAttributes attributes rest

/-! ### Steps -/

/-- The name under which a print block is called. -/
def blockName : String := "$block"

/-- The frame in which an item of a loop is handled: as many of its values as are named. -/
def itemFrame (identifiers : List String) (values : List Value) : Frame :=
  Table.ofEntries (identifiers.zip values)

/-- The effect of a step of the program that was made by the compilation `origin`. -/
def executeStep (origin : Nat) : Step → Render Unit
  | .text text => modify (·.write text)
  | .comment text => modify (·.writeComment text)
  | .cdata text => modify (·.writeCData text)
  | .doctype => modify (·.writeDoctype)
  | .openTag name attributes => do
    let attributes ← buildAttributes environment calls [] attributes
    modify (·.writeOpenTag name attributes)
  | .closeTag name => modify (·.writeCloseTag name)
  | .block body => Render.inFrame [] (executeSteps origin body)
  | .branch condition consequent alternate => do
    if (← evaluateExpression environment calls condition).isTruthy then
      Render.inFrame [] (executeSteps origin consequent)
    else
      executeOptional origin alternate
  | .switch expression cases fallback => do
    let value ← evaluateExpression environment calls expression
    executeCases origin value (executeOptional origin fallback) cases
  | .foreach identifiers collection body empty => do
    let value ← evaluateExpression environment calls collection
    let items ← MonadExcept.ofExcept (collectionAt collection.position value)
    if items.isEmpty then
      executeOptional origin empty
    else
      let run := executeSteps origin body
      Render.forEach (fun values => Render.inFrame (itemFrame identifiers values) run) items
  | .loop condition body =>
    Render.repeatWhile condition.position
      (return (← evaluateExpression environment calls condition).isTruthy)
      (Render.inFrame [] (executeSteps origin body))
      environment.turns
  | .renderPartial path context position => do
    let overrides ← match context with
      | some expression => some <$> evaluateExpression environment calls expression
      | none => pure none
    calls.view path overrides position
  | .renderContent slot => modify (·.writeContent slot)
  | .saveTarget => modify (·.saveTarget)
  | .mergeTarget slot => modify (·.mergeTarget slot)
  | .renderValue expression => do
    let value ← evaluateExpression environment calls expression
    modify (·.writeValue value)
  | .renderAction action => do
    let value ← runAction environment calls action
    modify (·.writeValue value)
  | .printBlock expression parameters body => do
    let index ← modifyGet (·.bindBlock ⟨origin, expression.position, parameters, body⟩)
    let frame := [(blockName, .function (.block index))]
    let value ← Render.inFrame frame (evaluateExpression environment calls expression)
    modify (·.writeValue value)
  | .execute action => do
    let _ ← runAction environment calls action
  | .setLayout path =>
    modify fun state => if state.partialDepth = 0 then state.setLayout path else state
where
  /-- The effect of steps, in order. -/
  executeSteps (origin : Nat) : List Step → Render Unit
    | [] => return ()
    | step :: rest => do
      executeStep origin step
      executeSteps origin rest
  /-- The effect of steps with variables of their own, if there are any. -/
  executeOptional (origin : Nat) : Option (List Step) → Render Unit
    | none => return ()
    | some body => Render.inFrame [] (executeSteps origin body)
  /-- The effect of the first case whose value equals `value`, or else of the fallback. -/
  executeCases (origin : Nat) (value : Value) (fallback : Render Unit) :
      List (Expression × List Step) → Render Unit
    | [] => fallback
    | (expression, body) :: rest => do
      if (← evaluateExpression environment calls expression).strictEquals value then
        Render.inFrame [] (executeSteps origin body)
      else
        executeCases origin value fallback rest

end

/-- The effect of steps of the program that was made by the compilation `origin`. -/
def executeSteps (environment : Environment) (calls : Calls) (origin : Nat) (steps : List Step) :
    Render Unit :=
  executeStep.executeSteps environment calls origin steps

/-! ### Calls -/

/-- How steps of the program of some compilation are executed. -/
abbrev Executor := Nat → List Step → Render Unit

/-- Executes a view as a part of another one: it does not register layouts. -/
def executePart (execute : Executor) (view : CompiledView) : Render Unit := do
  modify fun state => { state with partialDepth := state.partialDepth + 1 }
  Render.alwaysThen (fun state => { state with partialDepth := state.partialDepth - 1 })
    (execute view.serial view.program.steps)

/-- The fields of a context with those of a value, which must be an object if it is anything. -/
def overriddenFields (context : Value) (overrides : Option Value) (position : Position) :
    Except RenderError (Table Value) :=
  let fields := RenderState.contextFields context
  match overrides.getD .undefined with
  | .undefined | .null => .ok fields
  | .object extra => .ok (Table.merge fields extra)
  | other => .error (.invalidContext other.typeName position)

/-- Renders the view of a path in place, without the variables of the place and with a context of
its own. -/
def callView (environment : Environment) (execute : Executor) (path : String)
    (overrides : Option Value) (position : Position) : Render Unit := do
  Render.enter path position
  Render.alwaysThen Render.leave do
    let view ← Render.ofCompiling (environment.compileView path)
    let before ← get
    let fields ← MonadExcept.ofExcept (overriddenFields before.context overrides position)
    set { before with context := .object fields, frames := [[]] }
    Render.alwaysThen
      (fun state => { state with context := before.context, frames := before.frames })
      (executePart execute view)

/-- The frame in which a print block runs: each parameter with its argument. -/
def argumentFrame (parameters : List String) (arguments : List Value) : Frame :=
  Table.ofEntries (parameters.zipIdx.map fun (name, i) => (name, arguments[i]?.getD .undefined))

/-- The text that a print block writes. -/
def captureBlock (execute : Executor) (block : BoundBlock) (arguments : List Value) :
    Render String := do
  Render.enter blockName block.position
  modify (·.saveTarget)
  let frame := argumentFrame block.parameters arguments
  let result ← (Render.inFrame frame (execute block.origin block.body)).attempt
  let captured ← modifyGet (·.restoreTarget)
  modify Render.leave
  match result with
  | .ok _ => return (captured.map (·.default)).getD ""
  | .error error => throw error

/-- Calls the print block at a place of the table of blocks. -/
def callBlock (execute : Executor) (index : Nat) (arguments : List Value) :
    Snippet.Eval RenderState RenderError Value := do
  match (← get).blocks[index]? with
  | none => throw (.unboundBlock index)
  | some block =>
    let text ← (captureBlock execute block arguments).adapt .failed
    return .string text

/-- Calls whose steps are executed in a given way. -/
def callsBy (environment : Environment) (execute : Executor) : Calls where
  view := callView environment execute
  block := callBlock execute

/-- Executes steps whose calls are `levels` deep at most, counting the steps themselves. Nothing is
executed on the lowest level, which is out of reach of a state that counts its calls. -/
def executeWithin (environment : Environment) : (levels : Nat) → Executor
  | 0 => fun _ _ => return ()
  | levels + 1 => executeSteps environment (callsBy environment (executeWithin environment levels))

/-- Executes steps in a render. -/
def Environment.execute (environment : Environment) : Executor :=
  executeWithin environment (maxDepth + 1)

/-- The calls of a render. -/
def Environment.calls (environment : Environment) : Calls :=
  callsBy environment (executeWithin environment maxDepth)

end ViewTemplate
