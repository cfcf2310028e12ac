import ViewTemplate.Proofs.Render.Calls

/-!
# Interrupted captures

A capture is interrupted when something fails between its start and its end.  How many captures a
failure interrupts cannot be seen from its error, nor from the steps that are executed: the failure
may come out of loops, views and print blocks, each with captures of its own around it.

So it is counted.  A counted execution does what an execution does, and its failures come with the
number of captures that they interrupt (`Interruption`).  A list of steps counts the captures that
are open in it, which it can tell from its own steps (`Step.opens`), and every list that a failure
passes on its way out adds those that are open at that place.  Frames, views and print blocks pass
it on as it is.

## Main Definitions

* `Interruption` — a failure, and how many captures it interrupts
* `Counted` — what changes the state of a render and can be interrupted
* `countedStep`, `countedSteps` — counted steps, given how calls are counted
* `countedView`, `countedBlock`, `countedWithin` — counted calls and executions
* `Environment.countedCalls` — the counted calls of a render
-/

namespace ViewTemplate

variable {α β : Type}

/-! ## Failures -/

/-- **A failure, and how many captures it interrupts.** -/
structure Interruption where
  error : RenderError
  /-- The captures around the step that failed, as far out as the failure has come. -/
  captures : Nat := 0

namespace Interruption

/-- A failure that interrupts no capture. -/
def bare (error : RenderError) : Interruption := { error }

/-- The same failure inside more captures. -/
def within (opened : Nat) (interruption : Interruption) : Interruption :=
  { interruption with captures := opened + interruption.captures }

/-- The failed evaluation of a snippet that starts at `position`.  It interrupts the captures in
the print block that failed, if one did. -/
def ofEval (position : Position) (cause : Snippet.EvalError Interruption) : Interruption :=
  match cause.own with
  | .error interruption => interruption
  | .ok own => bare (.evaluation own position)

end Interruption

/-- What changes the state of a render and can be interrupted. -/
abbrev Counted := ExceptT Interruption (StateM RenderState)

namespace Counted

/-- Does something in a new innermost frame. -/
def inFrame (frame : Frame) (action : Counted α) : Counted α :=
  ExceptT.mk fun state =>
    let (result, after) := action.run.run (state.pushFrame frame)
    (result, after.popFrame)

/-- Does something for each of several things, in order. -/
def forEach (action : β → Counted Unit) : List β → Counted Unit
  | [] => return ()
  | thing :: rest => do
    action thing
    forEach action rest

/-- Does something again and again while a condition holds, at most `turns` times. -/
def repeatWhile (position : Position) (condition : Counted Bool) (action : Counted Unit) :
    (turns : Nat) → Counted Unit
  | 0 => throw (.bare (.tooManyTurns position))
  | turns + 1 => do
    if ← condition then
      action
      repeatWhile position condition action turns

end Counted

/-! ## Steps -/

/-- How many captures are open in a list behind a step, where `opened` are in front of it. -/
def Step.opens (opened : Nat) : Step → Nat
  | .saveTarget => opened + 1
  | .mergeTarget _ => opened - 1
  | _ => opened

/-- How views and print blocks are called, and what their failures interrupt. -/
structure CountedCalls where
  view : String → Option Value → Position → Counted Unit
  block : Nat → List Value → Snippet.Eval RenderState Interruption Value

section

variable (environment : Environment) (calls : CountedCalls)

/-- The scope of the expressions of a counted execution. -/
def countedScope : Snippet.Scope RenderState Interruption where
  lookup := RenderState.lookup environment
  assign? := RenderState.assign?
  declare := RenderState.declare
  this := RenderState.context
  callBlock := calls.block
  callHost := environment.functions

/-- The value of a captured expression. -/
def countedExpression (expression : Expression) : Counted Value :=
  (Snippet.evaluate (countedScope environment calls) expression.body).adapt
    (Interruption.ofEval expression.position)

/-- The value of a captured statement that is run. -/
def countedAction (action : Action) : Counted Value :=
  (action.body.run (countedScope environment calls)).adapt (Interruption.ofEval action.position)

/-- The text that the parts of a value make. -/
def countedText : List AttributePart → Counted String
  | [] => return ""
  | .literal text :: rest => return text ++ (← countedText rest)
  | .expression expression :: rest => do
    let value ← countedExpression environment calls expression
    return value.text ++ (← countedText rest)

/-- The attributes of an opening tag, added to those before them. -/
def countedAttributes (attributes : AttributeSet) : List AttributeStep → Counted AttributeSet
  | [] => return attributes
  | .plain name none :: rest => countedAttributes (attributes.setBoolean name) rest
  | .plain name (some (quote, parts)) :: rest => do
    let text ← countedText environment calls parts
    countedAttributes (attributes.setValue name quote text) rest
  | .bound name quote expression :: rest => do
    let value ← countedExpression environment calls expression
    countedAttributes (attributes.setValue name quote value.text) rest
  | .conditional name condition :: rest => do
    if (← countedExpression environment calls condition).isTruthy then
      countedAttributes (attributes.setBoolean name) rest
    else
      countedAttributes attributes rest
  | .append name quote suffix condition :: rest => do
    if (← countedExpression environment calls condition).isTruthy then
      countedAttributes (attributes.appendValue name quote suffix) rest
    else
      countedAttributes attributes rest

/-- **A counted step** of the program that was made by the compilation `origin`. -/
def countedStep (origin : Nat) : Step → Counted Unit
  | .text text => modify (·.write text)
  | .comment text => modify (·.writeComment text)
  | .cdata text => modify (·.writeCData text)
  | .doctype => modify (·.writeDoctype)
  | .openTag name attributes => do
    let attributes ← countedAttributes environment calls [] attributes
    modify (·.writeOpenTag name attributes)
  | .closeTag name => modify (·.writeCloseTag name)
  | .block body => .inFrame [] (countedSteps origin 0 body)
  | .branch condition consequent alternate => do
    if (← countedExpression environment calls condition).isTruthy then
      .inFrame [] (countedSteps origin 0 consequent)
    else
      countedOptional origin alternate
  | .switch expression cases fallback => do
    let value ← countedExpression environment calls expression
    countedCases origin value (countedOptional origin fallback) cases
  | .foreach identifiers collection body empty => do
    let value ← countedExpression environment calls collection
    let items ← MonadExcept.ofExcept ((collectionAt collection.position value).mapError .bare)
    if items.isEmpty then
      countedOptional origin empty
    else
      let run := countedSteps origin 0 body
      .forEach (fun values => .inFrame (itemFrame identifiers values) run) items
  | .loop condition body =>
    .repeatWhile condition.position
      (return (← countedExpression environment calls condition).isTruthy)
      (.inFrame [] (countedSteps origin 0 body))
      environment.turns
  | .renderPartial path context position => do
    let overrides ← match context with
      | some expression => some <$> countedExpression environment calls expression
      | none => pure none
    calls.view path overrides position
  | .renderContent slot => modify (·.writeContent slot)
  | .saveTarget => modify (·.saveTarget)
  | .mergeTarget slot => modify (·.mergeTarget slot)
  | .renderValue expression => do
    let value ← countedExpression environment calls expression
    modify (·.writeValue value)
  | .renderAction action => do
    let value ← countedAction environment calls action
    modify (·.writeValue value)
  | .printBlock expression parameters body => do
    let index ← modifyGet (·.bindBlock ⟨origin, expression.position, parameters, body⟩)
    let frame := [(blockName, .function (.block index))]
    let value ← .inFrame frame (countedExpression environment calls expression)
    modify (·.writeValue value)
  | .execute action => do
    let _ ← countedAction environment calls action
  | .setLayout path =>
    modify fun state => if state.partialDepth = 0 then state.setLayout path else state
where
  /-- Counted steps, in order, in front of which `opened` captures are open in their list. -/
  countedSteps (origin : Nat) (opened : Nat) : List Step → Counted Unit
    | [] => return ()
    | step :: rest => do
      (countedStep origin step).adapt (.within opened)
      countedSteps origin (step.opens opened) rest
  /-- Counted steps with variables of their own, if there are any. -/
  countedOptional (origin : Nat) : Option (List Step) → Counted Unit
    | none => return ()
    | some body => .inFrame [] (countedSteps origin 0 body)
  /-- The first case whose value equals `value`, counted, or else the fallback. -/
  countedCases (origin : Nat) (value : Value) (fallback : Counted Unit) :
      List (Expression × List Step) → Counted Unit
    | [] => fallback
    | (expression, body) :: rest => do
      if (← countedExpression environment calls expression).strictEquals value then
        .inFrame [] (countedSteps origin 0 body)
      else
        countedCases origin value fallback rest

end

/-- **Counted steps**, in order, in front of which `opened` captures are open in their list. -/
def countedSteps (environment : Environment) (calls : CountedCalls) (origin opened : Nat)
    (steps : List Step) : Counted Unit :=
  countedStep.countedSteps environment calls origin opened steps

/-! ## Calls -/

/-- How steps of the program of some compilation are executed and counted. -/
abbrev Counter := Nat → List Step → Counted Unit

/-- Renders the view of a path in place. -/
def countedView (environment : Environment) (count : Counter) (path : String)
    (overrides : Option Value) (position : Position) : Counted Unit :=
  ExceptT.mk fun state =>
    if maxDepth ≤ state.depth then (.error (.bare (.tooDeep path position)), state)
    else
      match (environment.compileView path).run.run state.store with
      | (.error error, store) => (.error (.bare (.view error)), { state with store })
      | (.ok view, store) =>
        match overriddenFields state.context overrides position with
        | .error error => (.error (.bare error), { state with store })
        | .ok fields =>
          let (result, after) := (count view.serial view.program.steps).run.run
            (state.enterView store fields)
          (result, state.leaveView after)

/-- Calls the print block at a place of the table of blocks. -/
def countedBlock (count : Counter) (index : Nat) (arguments : List Value) :
    Snippet.Eval RenderState Interruption Value :=
  ExceptT.mk fun state =>
    match state.blocks[index]? with
    | none => (.error (.unboundBlock index), state)
    | some block =>
      if maxDepth ≤ state.depth then
        (.error (.failed (.bare (.tooDeep blockName block.position))), state)
      else
        let (result, after) := (count block.origin block.body).run.run
          (state.enterBlock (argumentFrame block.parameters arguments))
        match result with
        | .error interruption => (.error (.failed interruption), after.leaveBlock)
        | .ok _ =>
          (.ok (.string ((after.popFrame.restoreTarget.1.map (·.default)).getD "")),
            after.leaveBlock)

/-- Calls whose steps are counted in a given way. -/
def countedCallsBy (environment : Environment) (count : Counter) : CountedCalls where
  view := countedView environment count
  block := countedBlock count

/-- **Counted executions** of steps whose calls are `levels` deep at most. -/
def countedWithin (environment : Environment) : (levels : Nat) → Counter
  | 0 => fun _ _ => return ()
  | levels + 1 => fun origin =>
    let calls := countedCallsBy environment (countedWithin environment levels)
    countedSteps environment calls origin 0

/-- **The counted calls of a render.** -/
def Environment.countedCalls (environment : Environment) : CountedCalls :=
  countedCallsBy environment (countedWithin environment maxDepth)

/-! ## Equations -/

section

variable {environment : Environment} {calls : CountedCalls} (origin opened : Nat)

@[simp] theorem countedSteps_nil :
    countedSteps environment calls origin opened [] = pure () := rfl

theorem countedSteps_cons (step : Step) (rest : List Step) :
    countedSteps environment calls origin opened (step :: rest) = (do
      (countedStep environment calls origin step).adapt (.within opened)
      countedSteps environment calls origin (step.opens opened) rest) := rfl

end

theorem countedView_run (environment : Environment) (count : Counter) (path : String)
    (overrides : Option Value) (position : Position) (state : RenderState) :
    (countedView environment count path overrides position).run.run state =
      if maxDepth ≤ state.depth then (.error (.bare (.tooDeep path position)), state)
      else
        match (environment.compileView path).run.run state.store with
        | (.error error, store) => (.error (.bare (.view error)), { state with store })
        | (.ok view, store) =>
          match overriddenFields state.context overrides position with
          | .error error => (.error (.bare error), { state with store })
          | .ok fields =>
            let (result, after) := (count view.serial view.program.steps).run.run
              (state.enterView store fields)
            (result, state.leaveView after) := rfl

theorem countedBlock_run (count : Counter) (index : Nat) (arguments : List Value)
    (state : RenderState) :
    (countedBlock count index arguments).run.run state =
      match state.blocks[index]? with
      | none => (.error (.unboundBlock index), state)
      | some block =>
        if maxDepth ≤ state.depth then
          (.error (.failed (.bare (.tooDeep blockName block.position))), state)
        else
          let (result, after) := (count block.origin block.body).run.run
            (state.enterBlock (argumentFrame block.parameters arguments))
          match result with
          | .error interruption => (.error (.failed interruption), after.leaveBlock)
          | .ok _ =>
            (.ok (.string ((after.popFrame.restoreTarget.1.map (·.default)).getD "")),
              after.leaveBlock) := rfl

end ViewTemplate
