import ViewTemplate.Proofs.Render.Moments
import ViewTemplate.Proofs.Snippet.OperationLikeness
import ViewTemplate.Render.Layout

/-!
# Recorded renders

Renders that list what happens in them.

Evaluation, execution and layouts are gone through as in a render, with an account of every
value, every comparison, every call and every failure.  That the account is one of the render
itself is the first thing to be shown of it, and it is: a recorded render comes out as the
render does (`ViewTemplate.Proofs.Render.Account`).

## Main Definitions

* `recordExpr`, `recordStatement` — recorded evaluations
* `RecordedCalls`, `recordStep`, `recordSteps` — recorded steps, given how calls are recorded
* `recordWithin`, `Environment.record` — recorded executions
* `Environment.recordLayouts`, `Environment.recordView`, `Environment.recordPart` — recorded
  layouts and views
-/

namespace ViewTemplate

open Snippet

/-! ## Evaluations -/

section

variable (environment : Environment) (block : Nat → List Value → Recorded Fail Value)

/-- The value of a variable, `undefined` if there is none. -/
def recordRead (name : String) : Recorded Fail Value := do
  return ((← get).lookup environment name).getD .undefined

/-- Gives a variable that exists another value. -/
def recordWrite (name : String) (value : Value) : Recorded Fail Unit := do
  match (← get).assign? name value with
  | some state => set state
  | none => .fail (.notDefined name)

/-- Calls a function value. -/
def recordCall (callable : Callable) (arguments : List Value) : Recorded Fail Value := do
  .note (.called callable arguments) trivial
  .valued <|
    match callable with
    | .block index => block index arguments
    | .host name => .ofExcept ((environment.functions name arguments).mapError .raised)

/-- Calls a function on every item and its place. -/
def recordOnItems (callable : Callable) :
    (index : Nat) → List Value → Recorded Fail (List (Value × Value))
  | _, [] => return []
  | index, item :: rest => do
    let result ← recordCall environment block callable [item, .ofNat index]
    return (item, result) :: (← recordOnItems callable (index + 1) rest)

/-- The comparisons with which an array is searched. -/
def recordSearch (equal : Value → Value → Bool) (sought : Value) : List Value → Recorded Fail Unit
  | [] => return ()
  | item :: rest => do
    .note (.compared item sought) trivial
    if equal item sought then return () else recordSearch equal sought rest

/-- The methods of arrays. -/
def recordArrayMethod? (items : List Value) (name : String) (arguments : List Value) :
    Recorded Fail (Option Value) := do
  if name = "map" then
    let callable ← .ofExcept (callback "map" arguments)
    let results ← recordOnItems environment block callable 0 items
    return some (.array (results.map (·.2)))
  else if name = "filter" then
    let callable ← .ofExcept (callback "filter" arguments)
    let results ← recordOnItems environment block callable 0 items
    return some (.array ((results.filter (·.2.isTruthy)).map (·.1)))
  else
    match searchBy? name with
    | some equal => recordSearch equal (firstArgument arguments) items
    | none => pure ()
    return plainArrayMethod? items name arguments

/-- Calls the method of a value under a name. Nothing if it has none of that name. -/
def recordMethod? (receiver : Value) (name : String) (arguments : List Value) :
    Recorded Fail (Option Value) :=
  if name = "toString" then return some (.string receiver.text)
  else match receiver with
    | .string text => .ofExcept (stringMethod? text name arguments)
    | .array items => recordArrayMethod? environment block items name arguments
    | _ => return none

/-- Calls the member of a value under a key. -/
def recordMember (callee : String) (receiver : Value) (key : String) (arguments : List Value) :
    Recorded Fail Value := do
  match callMember.ownFunction? receiver key with
  | some callable => recordCall environment block callable arguments
  | none =>
    match ← recordMethod? environment block receiver key arguments with
    | some result => return result
    | none => .fail (.notAFunction callee)

/-- The value of an operator. -/
def recordOperation (op : BinaryOp) (left right : Value) : Recorded Fail Value := do
  if op.compares then .note (.compared left right) trivial
  return op.apply left right

/-- **The value of an expression**, with an account of its evaluation. -/
def recordExpr (expr : Expr) : Recorded Fail Value :=
  .valued <|
    match expr with
    | .number _ value => return .number value
    | .string _ text => return .string text
    | .boolean _ value => return .bool value
    | .null _ => return .null
    | .undefined _ => return .undefined
    | .identifier _ name => recordRead environment name
    | .this _ => return (← get).context
    | .binary _ op left right => do
      let first ← recordExpr left
      if op.shortcuts first then
        return first
      else
        recordOperation op first (← recordExpr right)
    | .unary _ op operand => return op.apply (← recordExpr operand)
    | .update _ op name => do
      let old := (← recordRead environment name).toNumber
      recordWrite name (.number (op.apply old))
      return .number old
    | .member _ object key _ optional => do
      let receiver ← recordExpr object
      if optional && receiver.isNullish then
        return .undefined
      else
        .ofExcept (readMember receiver (← recordExpr key).text)
    | .call _ callee arguments =>
      match callee with
      | .member span object key computed optional => do
        let receiver ← recordExpr object
        if receiver.isNullish then
          if optional then
            return .undefined
          else
            .ofExcept (readMember receiver (← recordExpr key).text)
        else
          let name := (← recordExpr key).text
          let values ← recordAll arguments
          recordMember environment block (describe (.member span object key computed optional))
            receiver name values
      | callee => do
        let value ← recordExpr callee
        let values ← recordAll arguments
        match value with
        | .function callable => recordCall environment block callable values
        | _ => .fail (.notAFunction (describe callee))
    | .ternary _ condition consequent alternate => do
      if (← recordExpr condition).isTruthy then
        recordExpr consequent
      else
        recordExpr alternate
    | .object _ properties => return .object (← recordProperties [] properties)
    | .array _ items => return .array (← recordAll items)
    | .assignment _ op name value => do
      let right ← recordExpr value
      let result ← match op.binaryOp? with
        | some op => recordOperation op (← recordRead environment name) right
        | none => pure right
      recordWrite name result
      return result
where
  /-- The values of expressions, from left to right. -/
  recordAll : List Expr → Recorded Fail (List Value)
    | [] => return []
    | expr :: rest => do
      let value ← recordExpr expr
      return value :: (← recordAll rest)
  /-- The fields of an object literal behind the given ones, from left to right. -/
  recordProperties (fields : List (String × Value)) :
      List (Property Expr) → Recorded Fail (List (String × Value))
    | [] => return fields
    | ⟨key, _, expr⟩ :: rest => do
      let value ← recordExpr expr
      recordProperties (Table.set fields key value) rest

/-- The effect of a statement. -/
def recordStatement : Statement → Recorded Fail Value
  | .expression expr => recordExpr environment block expr
  | .declaration name init => do
    let value ← match init with
      | some expr => recordExpr environment block expr
      | none => pure .undefined
    modify (·.declare name value)
    return .undefined

end

/-! ## Steps -/

/-- How views and print blocks are called, with an account of the calls. -/
structure RecordedCalls where
  view : String → Option Value → Position → Recorded RenderError Unit
  block : Nat → List Value → Recorded Fail Value

section

variable (environment : Environment) (calls : RecordedCalls)

/-- The value of a captured expression. -/
def recordExpression (expression : Expression) : Recorded RenderError Value :=
  .snippet expression.position (recordExpr environment calls.block expression.body)

/-- The value of a captured statement that is run. -/
def recordAction (action : Action) : Recorded RenderError Value :=
  .snippet action.position (recordStatement environment calls.block action.body)

/-- The text that the parts of a value make. -/
def recordText : List AttributePart → Recorded RenderError String
  | [] => return ""
  | .literal text :: rest => return text ++ (← recordText rest)
  | .expression expression :: rest => do
    let value ← recordExpression environment calls expression
    return value.text ++ (← recordText rest)

/-- The attributes of an opening tag, added to those before them. -/
def recordAttributes (attributes : AttributeSet) :
    List AttributeStep → Recorded RenderError AttributeSet
  | [] => return attributes
  | .plain name none :: rest => recordAttributes (attributes.setBoolean name) rest
  | .plain name (some (quote, parts)) :: rest => do
    let text ← recordText environment calls parts
    recordAttributes (attributes.setValue name quote text) rest
  | .bound name quote expression :: rest => do
    let value ← recordExpression environment calls expression
    recordAttributes (attributes.setValue name quote value.text) rest
  | .conditional name condition :: rest => do
    if (← recordExpression environment calls condition).isTruthy then
      recordAttributes (attributes.setBoolean name) rest
    else
      recordAttributes attributes rest
  | .append name quote suffix condition :: rest => do
    if (← recordExpression environment calls condition).isTruthy then
      recordAttributes (attributes.appendValue name quote suffix) rest
    else
      recordAttributes attributes rest

/-- **The effect of a step** of the program that was made by the compilation `origin`, with an
account of its execution. -/
def recordStep (origin : Nat) : Step → Recorded RenderError Unit
  | .text text => modify (·.write text)
  | .comment text => modify (·.writeComment text)
  | .cdata text => modify (·.writeCData text)
  | .doctype => modify (·.writeDoctype)
  | .openTag name attributes => do
    let attributes ← recordAttributes environment calls [] attributes
    modify (·.writeOpenTag name attributes)
  | .closeTag name => modify (·.writeCloseTag name)
  | .block body => .inFrame [] (recordSteps origin body)
  | .branch condition consequent alternate => do
    if (← recordExpression environment calls condition).isTruthy then
      .inFrame [] (recordSteps origin consequent)
    else
      recordOptional origin alternate
  | .switch expression cases fallback => do
    let value ← recordExpression environment calls expression
    recordCases origin value (recordOptional origin fallback) cases
  | .foreach identifiers collection body empty => do
    let value ← recordExpression environment calls collection
    let items ← .ofExcept (collectionAt collection.position value)
    if items.isEmpty then
      recordOptional origin empty
    else
      let run := recordSteps origin body
      .forEach (fun values => .inFrame (itemFrame identifiers values) run) items
  | .loop condition body =>
    .repeatWhile condition.position
      (return (← recordExpression environment calls condition).isTruthy)
      (.inFrame [] (recordSteps origin body))
      environment.turns
  | .renderPartial path context position => do
    let overrides ← match context with
      | some expression => some <$> recordExpression environment calls expression
      | none => pure none
    calls.view path overrides position
  | .renderContent slot => modify (·.writeContent slot)
  | .saveTarget => modify (·.saveTarget)
  | .mergeTarget slot => modify (·.mergeTarget slot)
  | .renderValue expression => do
    let value ← recordExpression environment calls expression
    modify (·.writeValue value)
  | .renderAction action => do
    let value ← recordAction environment calls action
    modify (·.writeValue value)
  | .printBlock expression parameters body => do
    let index ← .binding ⟨origin, expression.position, parameters, body⟩
    let frame := [(blockName, .function (.block index))]
    let value ← .inFrame frame (recordExpression environment calls expression)
    modify (·.writeValue value)
  | .execute action => do
    let _ ← recordAction environment calls action
  | .setLayout path =>
    modify fun state => if state.partialDepth = 0 then state.setLayout path else state
where
  /-- The effect of steps, in order. -/
  recordSteps (origin : Nat) : List Step → Recorded RenderError Unit
    | [] => return ()
    | step :: rest => do
      .step step (recordStep origin step)
      recordSteps origin rest
  /-- The effect of steps with variables of their own, if there are any. -/
  recordOptional (origin : Nat) : Option (List Step) → Recorded RenderError Unit
    | none => return ()
    | some body => .inFrame [] (recordSteps origin body)
  /-- The effect of the first case whose value equals `value`, or else of the fallback. -/
  recordCases (origin : Nat) (value : Value) (fallback : Recorded RenderError Unit) :
      List (Expression × List Step) → Recorded RenderError Unit
    | [] => fallback
    | (expression, body) :: rest => do
      let case ← recordExpression environment calls expression
      .note (.compared case value) trivial
      if case.strictEquals value then
        .inFrame [] (recordSteps origin body)
      else
        recordCases origin value fallback rest

end

/-- **The effect of steps**, with an account of their execution. -/
def recordSteps (environment : Environment) (calls : RecordedCalls) (origin : Nat)
    (steps : List Step) : Recorded RenderError Unit :=
  recordStep.recordSteps environment calls origin steps

/-! ## Calls -/

/-- How steps of the program of some compilation are executed, with an account. -/
abbrev Recorder := Nat → List Step → Recorded RenderError Unit

/-- One more call is refused when `maxDepth` others are active. -/
def recordAdmission (name : String) (position : Position) : Recorded RenderError Unit := do
  if maxDepth ≤ (← get).depth then .fail (.tooDeep name position)

/-- Renders the view of a path in place. -/
def recordCallView (environment : Environment) (record : Recorder) (path : String)
    (overrides : Option Value) (position : Position) : Recorded RenderError Unit := do
  recordAdmission path position
  let view ← .silent (Render.ofCompiling (environment.compileView path))
  let fields ← .ofExcept (overriddenFields (← get).context overrides position)
  .inView fields (record view.serial view.program.steps)

/-- Calls the print block at a place of the table of blocks. -/
def recordCallBlock (record : Recorder) (index : Nat) (arguments : List Value) :
    Recorded Fail Value := do
  match (← get).blocks[index]? with
  | none =>
    .note (.missed index) trivial
    .fail (.unboundBlock index)
  | some block => .relayed do
    recordAdmission blockName block.position
    .inBlock block arguments (record block.origin block.body)

/-- Calls whose steps are executed in a given way. -/
def recordCallsBy (environment : Environment) (record : Recorder) : RecordedCalls where
  view := recordCallView environment record
  block := recordCallBlock record

/-- **Executions whose calls are `levels` deep at most**, with an account. -/
def recordWithin (environment : Environment) : (levels : Nat) → Recorder
  | 0 => fun _ _ => return ()
  | levels + 1 => recordSteps environment (recordCallsBy environment (recordWithin environment levels))

namespace Environment

variable (environment : Environment)

/-- Executes steps in a render, with an account. -/
def record : Recorder :=
  recordWithin environment (maxDepth + 1)

/-- The calls of a render, with an account. -/
def recordedCalls : RecordedCalls :=
  recordCallsBy environment (recordWithin environment maxDepth)

/-! ## Views and layouts -/

/-- Applies the registered layout, then the one that it registers, and so on. -/
def recordLayouts : (budget : Nat) → Recorded RenderError Unit
  | 0 => .fail .tooManyLayouts
  | budget + 1 => do
    match ← modifyGet fun state => (state.pendingLayout, { state with pendingLayout := none }) with
    | none => return ()
    | some path =>
      let key ← .ofExcept ((environment.source.resolve path).mapError .view)
      let applied := (← get).layouts
      if applied.contains key then
        .fail (.layoutCycle (applied ++ [key]))
      else
        let view ← .silent (Render.ofCompiling (environment.compileView path))
        modify fun state =>
          { state with
            layouts := applied ++ [key], target := state.target.startLayout, frames := [[]] }
        environment.record view.serial view.program.steps
        recordLayouts budget

/-- A view, and then its layouts. -/
def recordView (view : CompiledView) : Recorded RenderError Unit := do
  match environment.options.defaultLayout with
  | some path => modify (·.setLayout path)
  | none => pure ()
  environment.record view.serial view.program.steps
  environment.recordLayouts (environment.source.viewCount + 1)

/-- A view without layouts. -/
def recordPart (view : CompiledView) : Recorded RenderError Unit :=
  .inPart (environment.record view.serial view.program.steps)

end Environment

end ViewTemplate
