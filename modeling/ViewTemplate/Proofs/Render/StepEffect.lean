import ViewTemplate.Proofs.Program.Nesting
import ViewTemplate.Proofs.Render.Calls
import ViewTemplate.Proofs.Snippet.EvaluationEffect

/-!
# The effect of steps

A step is made of a few things: expressions it evaluates, text it writes, views
it calls, bodies it executes in frames of their own, and — for four kinds of
steps — a change of the state that no other step makes.  `executeStep_bounds`
says once that a step keeps to an effect as soon as all of these do.  What an
execution does to the state in any respect is then a matter of its parts, and no
later proof goes through the kinds of steps again.  Where the parts of a step keep
to less than what stands inside it, `StepKeeps.bounds` says the same of a single
step whose bodies are only known inside their frames.

Expressions in turn are made of assignments and calls (`evaluate_bounds`), so
that `RenderKeeps.of_calls` reduces the whole to the operations of the state and
to the two kinds of calls.

## Main Definitions

* `Step.OwnChange` — the change that a step makes by itself keeps to an effect
* `StateKeeps` — the operations of the state that all steps share do
* `RenderKeeps` — everything that steps are made of does
* `StepKeeps` — everything that one step is made of does
-/

namespace ViewTemplate

variable {environment : Environment} {calls : Calls} {effect : Effect RenderState}

/-- **The change that a step makes by itself keeps to an effect.**  Steps that
only write, evaluate, call and execute bodies make none. -/
def Step.OwnChange (effect : Effect RenderState) (origin : Nat) : Step → Prop
  | .saveTarget => ∀ state : RenderState, effect.returns state state.saveTarget
  | .mergeTarget slot => ∀ state : RenderState, effect.returns state (state.mergeTarget slot)
  | .printBlock expression parameters body => ∀ state : RenderState,
      effect.returns state
        (state.bindBlock ⟨origin, expression.position, parameters, body⟩).2
  | .setLayout path => ∀ state : RenderState,
      state.partialDepth = 0 → effect.returns state (state.setLayout path)
  | _ => True

/-- **The operations of the state that all steps share keep to an effect.** -/
structure StateKeeps (effect : Effect RenderState) : Prop where
  write : ∀ (state : RenderState) (text : String), effect.returns state (state.write text)
  assign : ∀ {state after : RenderState} {name : String} {value : Value},
    state.assign? name value = some after → effect.returns state after
  declare : ∀ (state : RenderState) (name : String) (value : Value),
    effect.returns state (state.declare name value)
  /-- A frame that is opened and closed again leaves what happened inside. -/
  popFrame : ∀ {state after : RenderState} (frame : Frame),
    effect.returns (state.pushFrame frame) after → effect.returns state after.popFrame
  /-- The same when what happened inside failed. -/
  popFrame_throws : ∀ {state after : RenderState} (frame : Frame),
    effect.throws (state.pushFrame frame) after → effect.throws state after.popFrame

/-- **Everything that steps are made of keeps to an effect.** -/
structure RenderKeeps (environment : Environment) (calls : Calls)
    (effect : Effect RenderState) : Prop extends StateKeeps effect where
  evaluate : ∀ expression, effect.Bounds (evaluateExpression environment calls expression)
  run : ∀ action, effect.Bounds (runAction environment calls action)
  view : ∀ path overrides position, effect.Bounds (calls.view path overrides position)

/-- The statement that a step runs. -/
def Step.action? : Step → Option Action
  | .renderAction action | .execute action => some action
  | _ => none

/-- **Everything that one step is made of keeps to an effect.**  Bodies, and what is
printed with a block, count only together with the frames in which they are executed. -/
structure StepKeeps (environment : Environment) (calls : Calls) (effect : Effect RenderState)
    (origin : Nat) (step : Step) : Prop where
  write : ∀ (state : RenderState) (text : String), effect.returns state (state.write text)
  evaluate : ∀ expression, effect.Bounds (evaluateExpression environment calls expression)
  print : ∀ frame expression,
    effect.Bounds (Render.inFrame frame (evaluateExpression environment calls expression))
  run : ∀ action ∈ step.action?, effect.Bounds (runAction environment calls action)
  view : ∀ path overrides position, effect.Bounds (calls.view path overrides position)
  bodies : ∀ body ∈ step.bodies, ∀ frame,
    effect.Bounds (Render.inFrame frame (executeSteps environment calls origin body))
  own : step.OwnChange effect origin

/-! ## Evaluations -/

theorem evaluateExpression_bounds (scope : (renderScope environment calls).Keeps effect)
    (expression : Expression) :
    effect.Bounds (evaluateExpression environment calls expression) :=
  .adapt _ (Snippet.evaluate_bounds scope expression.body)

theorem runAction_bounds (scope : (renderScope environment calls).Keeps effect)
    (declare : ∀ (state : RenderState) (name : String) (value : Value),
      effect.returns state (state.declare name value))
    (action : Action) : effect.Bounds (runAction environment calls action) :=
  .adapt _ (Snippet.Statement.run_bounds scope declare action.body)

/-- Whatever the state and the calls keep to, all that steps are made of does. -/
theorem RenderKeeps.of_calls (state : StateKeeps effect)
    (block : ∀ index arguments, effect.Bounds (calls.block index arguments))
    (view : ∀ path overrides position, effect.Bounds (calls.view path overrides position)) :
    RenderKeeps environment calls effect where
  toStateKeeps := state
  evaluate := evaluateExpression_bounds ⟨state.assign, block⟩
  run := runAction_bounds ⟨state.assign, block⟩ state.declare
  view := view

/-! ## Loops and frames -/

theorem StateKeeps.inFrame {α : Type} (state : StateKeeps effect) (frame : Frame)
    {action : Render α} (h : effect.Bounds action) :
    effect.Bounds (Render.inFrame frame action) := by
  intro before
  rw [Render.inFrame_run]
  have allowed := h (before.pushFrame frame)
  generalize action.run.run (before.pushFrame frame) = result at allowed ⊢
  rcases result with ⟨error | value, after⟩
  · exact state.popFrame_throws frame allowed
  · exact state.popFrame frame allowed

theorem forEach_bounds {β : Type} {action : β → Render Unit}
    (h : ∀ thing, effect.Bounds (action thing)) :
    ∀ things : List β, effect.Bounds (Render.forEach action things) := by
  intro things
  induction things with
  | nil => exact .pure _
  | cons thing rest ih => exact .bind (h thing) fun _ => ih

/-- However many turns a loop takes, it does nothing but its condition and body. -/
theorem repeatWhile_bounds {position : Position} {condition : Render Bool} {action : Render Unit}
    (test : effect.Bounds condition) (body : effect.Bounds action) :
    ∀ turns : Nat, effect.Bounds (Render.repeatWhile position condition action turns) := by
  intro turns
  induction turns with
  | zero => exact .throw _
  | succ turns ih =>
    refine .bind test fun holds => ?_
    split
    · exact .bind body fun _ => ih
    · exact .pure _

/-! ## Attributes -/

theorem attributeText_bounds
    (evaluate : ∀ expression, effect.Bounds (evaluateExpression environment calls expression)) :
    ∀ parts : List AttributePart, effect.Bounds (attributeText environment calls parts) := by
  intro parts
  induction parts with
  | nil => exact .pure _
  | cons part rest ih =>
    cases part with
    | literal text => exact .bind ih fun _ => .pure _
    | expression expression =>
      exact .bind (evaluate _) fun _ => .bind ih fun _ => .pure _

theorem buildAttributes_bounds
    (evaluate : ∀ expression, effect.Bounds (evaluateExpression environment calls expression)) :
    ∀ (steps : List AttributeStep) (attributes : AttributeSet),
      effect.Bounds (buildAttributes environment calls attributes steps) := by
  intro steps
  induction steps with
  | nil => intro attributes; exact .pure _
  | cons step rest ih =>
    intro attributes
    cases step with
    | plain name value =>
      cases value with
      | none => exact ih _
      | some value => exact .bind (attributeText_bounds evaluate _) fun _ => ih _
    | bound name quote expression => exact .bind (evaluate _) fun _ => ih _
    | conditional name condition | append name quote suffix condition =>
      refine .bind (evaluate _) fun value => ?_
      split
      · exact ih _
      · exact ih _

/-! ## Steps -/

@[simp] theorem executeSteps_nil (origin : Nat) :
    executeSteps environment calls origin [] = pure () := rfl

theorem executeSteps_cons (origin : Nat) (step : Step) (rest : List Step) :
    executeSteps environment calls origin (step :: rest) = (do
      executeStep environment calls origin step
      executeSteps environment calls origin rest) := rfl

/-- A list of one step does what the step does. -/
theorem executeSteps_single {origin : Nat} (step : Step) :
    executeSteps environment calls origin [step] = executeStep environment calls origin step := by
  rw [executeSteps_cons, executeSteps_nil]
  exact bind_pure _

theorem executeOptional_bounds {origin : Nat} {body? : Option (List Step)}
    (bodies : ∀ body ∈ body?, ∀ frame,
      effect.Bounds (Render.inFrame frame (executeSteps environment calls origin body))) :
    effect.Bounds (executeStep.executeOptional environment calls origin body?) := by
  cases body? with
  | none => exact .pure _
  | some body => exact bodies body rfl []

theorem executeCases_bounds
    (evaluate : ∀ expression, effect.Bounds (evaluateExpression environment calls expression))
    {origin : Nat} {value : Value} {fallback : Render Unit} (otherwise : effect.Bounds fallback) :
    ∀ cases : List (Expression × List Step),
      (∀ case ∈ cases, ∀ frame,
        effect.Bounds (Render.inFrame frame (executeSteps environment calls origin case.2))) →
      effect.Bounds (executeStep.executeCases environment calls origin value fallback cases) := by
  intro cases
  induction cases with
  | nil => intro _; exact otherwise
  | cons case rest ih =>
    intro bodies
    refine .bind (evaluate _) fun found => ?_
    split
    · exact bodies case List.mem_cons_self []
    · exact ih fun other mem => bodies other (List.mem_cons_of_mem _ mem)

/-- **A step keeps to an effect** when all that it is made of does. -/
theorem StepKeeps.bounds {origin : Nat} {step : Step}
    (keeps : StepKeeps environment calls effect origin step) :
    effect.Bounds (executeStep environment calls origin step) := by
  have writes (text : String) :
      effect.Bounds (modify (·.write text) : Render Unit) :=
    .modify fun state => keeps.write state text
  have writesValue (value : Value) :
      effect.Bounds (modify (·.writeValue value) : Render Unit) := by
    unfold RenderState.writeValue
    cases value.isNullish with
    | true => exact .modify effect.returns_refl
    | false => exact writes _
  have bodies := keeps.bodies
  have own := keeps.own
  cases step with
  | text text => exact writes _
  | comment text => exact writes _
  | cdata text => exact writes _
  | doctype => exact writes _
  | openTag name attributes =>
    exact .bind (buildAttributes_bounds keeps.evaluate attributes []) fun _ => writes _
  | closeTag name => exact writes _
  | block body => exact bodies body (by simp [Step.bodies]) []
  | branch condition consequent alternate =>
    refine .bind (keeps.evaluate _) fun value => ?_
    split
    · exact bodies consequent (by simp [Step.bodies]) []
    · exact executeOptional_bounds fun body mem =>
        bodies body (by simp [Step.bodies, Option.mem_def.mp mem])
  | switch expression cases fallback =>
    refine .bind (keeps.evaluate _) fun value => ?_
    refine executeCases_bounds keeps.evaluate ?_ cases fun case mem => ?_
    · exact executeOptional_bounds fun body mem =>
        bodies body (by simp [Step.bodies, Option.mem_def.mp mem])
    · exact bodies case.2 (List.mem_append_left _ (List.mem_map_of_mem mem))
  | foreach identifiers collection body empty =>
    refine .bind (keeps.evaluate _) fun value => ?_
    have items : effect.Bounds
        (MonadExcept.ofExcept (collectionAt collection.position value) : Render _) := by
      cases collectionAt collection.position value with
      | error error => exact .throw _
      | ok items => exact .pure _
    refine .bind items fun items => ?_
    split
    · exact executeOptional_bounds fun body mem =>
        bodies body (by simp [Step.bodies, Option.mem_def.mp mem])
    · exact forEach_bounds (fun _ => bodies body (by simp [Step.bodies]) _) items
  | loop condition body =>
    exact repeatWhile_bounds (.bind (keeps.evaluate _) fun _ => .pure _)
      (bodies body (by simp [Step.bodies]) []) _
  | renderPartial path context position =>
    cases context with
    | none => exact .bind (.pure _) fun _ => keeps.view _ _ _
    | some expression => exact .bind (.map _ (keeps.evaluate _)) fun _ => keeps.view _ _ _
  | renderContent slot =>
    cases slot with
    | none => exact .modify fun state => keeps.write state _
    | some slot => exact .modify fun state => keeps.write state _
  | saveTarget => exact .modify own
  | mergeTarget slot => exact .modify own
  | renderValue expression => exact .bind (keeps.evaluate _) fun _ => writesValue _
  | renderAction action => exact .bind (keeps.run _ rfl) fun _ => writesValue _
  | printBlock expression parameters body =>
    refine .bind (.modifyGet own) fun index => ?_
    exact .bind (keeps.print _ _) fun _ => writesValue _
  | execute action => exact .bind (keeps.run _ rfl) fun _ => .pure _
  | setLayout path =>
    refine .modify fun state => ?_
    split
    · exact own state ‹_›
    · exact effect.returns_refl state

/-- **A step keeps to an effect** when all that steps are made of does, its own
change does, and the steps directly inside it do. -/
theorem executeStep_bounds (keeps : RenderKeeps environment calls effect) {origin : Nat}
    (step : Step) (own : step.OwnChange effect origin)
    (bodies : ∀ body ∈ step.bodies, effect.Bounds (executeSteps environment calls origin body)) :
    effect.Bounds (executeStep environment calls origin step) :=
  StepKeeps.bounds
    { write := keeps.write
      evaluate := keeps.evaluate
      print := fun _ _ => keeps.inFrame _ (keeps.evaluate _)
      run := fun action _ => keeps.run action
      view := keeps.view
      bodies := fun body direct _ => keeps.inFrame _ (bodies body direct)
      own := own }

/-- **Steps keep to an effect** when all that steps are made of does, and so do the
changes that the steps of the list make by themselves, however deep they stand: by
induction on how steps are nested, and along each list. -/
theorem executeSteps_bounds (keeps : RenderKeeps environment calls effect) {origin : Nat}
    {steps : List Step} (own : ∀ step : Step, step.Occurs steps → step.OwnChange effect origin) :
    effect.Bounds (executeSteps environment calls origin steps) := by
  refine Step.listInduction (.pure _) (fun step rest first others => ?_)
    (executeStep_bounds keeps) own
  rw [executeSteps_cons]
  exact .bind first fun _ => others

end ViewTemplate
