import ViewTemplate.Proofs.Render.StepRelation
import ViewTemplate.Proofs.Snippet.EvaluationCoupling

/-!
# Two executions side by side

Steps that are executed in two environments, with two kinds of calls, do the same from
related states as soon as what they are made of does: the operations of the state, the
calls, and for six kinds of steps a change or a bound that no other step has
(`executeSteps_couple`).  No later comparison of two renders goes through the kinds of
steps again.

Values are the same on both sides here, so these are the cases of `StepRelate.couples` in
which values are alike if they are equal.

## Main Definitions

* `Step.OwnCouples` — what a step does by itself is the same in both executions
* `StateCouple` — so are the operations of the state that all steps share
* `RenderCouple` — so is everything that steps are made of
* `StepCouple` — so is everything that one step is made of
-/

namespace ViewTemplate

variable {environment environment' : Environment} {calls calls' : Calls}
  {coupling : Coupling RenderState}

/-- **What a step does by itself is the same in both executions.**  Steps that only write,
evaluate, call and execute bodies do nothing else. -/
def Step.OwnCouples (environment environment' : Environment) (coupling : Coupling RenderState)
    (origin : Nat) : Step → Prop
  | .saveTarget => ∀ state state', coupling.returns state state' →
      coupling.returns state.saveTarget state'.saveTarget
  | .mergeTarget slot => ∀ state state', coupling.returns state state' →
      coupling.returns (state.mergeTarget slot) (state'.mergeTarget slot)
  | .renderContent slot => ∀ state state', coupling.returns state state' →
      coupling.returns (state.writeContent slot) (state'.writeContent slot)
  | .printBlock expression parameters body => ∀ state state', coupling.returns state state' →
      let block : BoundBlock := ⟨origin, expression.position, parameters, body⟩
      (state.bindBlock block).1 = (state'.bindBlock block).1 ∧
        coupling.returns (state.bindBlock block).2 (state'.bindBlock block).2
  | .setLayout path => ∀ state state', coupling.returns state state' →
      coupling.returns (if state.partialDepth = 0 then state.setLayout path else state)
        (if state'.partialDepth = 0 then state'.setLayout path else state')
  | .loop _ _ => environment.turns = environment'.turns
  | _ => True

/-- **The operations of the state that all steps share keep states related**, and show the
same of both. -/
structure StateCouple (environment environment' : Environment)
    (coupling : Coupling RenderState) : Prop where
  lookup : ∀ {state state'} (name : String), coupling.returns state state' →
    state.lookup environment name = state'.lookup environment' name
  context : ∀ {state state'}, coupling.returns state state' → state.context = state'.context
  write : ∀ (text : String) (state state' : RenderState), coupling.returns state state' →
    coupling.returns (state.write text) (state'.write text)
  assign : ∀ {state state'} (name : String) (value : Value), coupling.returns state state' →
    Option.Rel coupling.returns (state.assign? name value) (state'.assign? name value)
  declare : ∀ (name : String) (value : Value) (state state' : RenderState),
    coupling.returns state state' →
      coupling.returns (state.declare name value) (state'.declare name value)
  pushFrame : ∀ {state state'} (frame : Frame), coupling.returns state state' →
    coupling.returns (state.pushFrame frame) (state'.pushFrame frame)
  popFrame : ∀ {state state'}, coupling.returns state state' →
    coupling.returns state.popFrame state'.popFrame
  popFrame_throws : ∀ {state state'}, coupling.throws state state' →
    coupling.throws state.popFrame state'.popFrame

/-- **Everything that steps are made of does the same in both executions.** -/
structure RenderCouple (environment environment' : Environment) (calls calls' : Calls)
    (coupling : Coupling RenderState) : Prop
    extends StateCouple environment environment' coupling where
  functions : environment.functions = environment'.functions
  block : ∀ index arguments,
    coupling.Couples (calls.block index arguments) (calls'.block index arguments)
  view : ∀ path overrides position,
    coupling.Couples (calls.view path overrides position) (calls'.view path overrides position)

/-- **Everything that one step is made of does the same in both executions.**  Bodies, and
what is printed with a block, count only together with the frames in which they are
executed. -/
structure StepCouple (environment environment' : Environment) (calls calls' : Calls)
    (coupling : Coupling RenderState) (origin : Nat) (step : Step) : Prop where
  write : ∀ (text : String) (state state' : RenderState), coupling.returns state state' →
    coupling.returns (state.write text) (state'.write text)
  evaluate : ∀ expression, coupling.Couples (evaluateExpression environment calls expression)
    (evaluateExpression environment' calls' expression)
  print : ∀ frame expression,
    coupling.Couples (Render.inFrame frame (evaluateExpression environment calls expression))
      (Render.inFrame frame (evaluateExpression environment' calls' expression))
  run : ∀ action ∈ step.action?,
    coupling.Couples (runAction environment calls action) (runAction environment' calls' action)
  view : ∀ path overrides position,
    coupling.Couples (calls.view path overrides position) (calls'.view path overrides position)
  bodies : ∀ body ∈ step.bodies, ∀ frame,
    coupling.Couples (Render.inFrame frame (executeSteps environment calls origin body))
      (Render.inFrame frame (executeSteps environment' calls' origin body))
  own : step.OwnCouples environment environment' coupling origin

namespace RenderCouple

/-! ## Evaluations -/

theorem scope (same : RenderCouple environment environment' calls calls' coupling) :
    (renderScope environment calls).Couple (renderScope environment' calls') coupling where
  lookup := same.lookup
  this := same.context
  assign := same.assign
  callBlock := same.block
  callHost := same.functions

theorem evaluate (same : RenderCouple environment environment' calls calls' coupling)
    (expression : Expression) :
    coupling.Couples (evaluateExpression environment calls expression)
      (evaluateExpression environment' calls' expression) :=
  .adapt _ (Snippet.evaluate_couples same.scope expression.body)

theorem run (same : RenderCouple environment environment' calls calls' coupling)
    (action : Action) :
    coupling.Couples (runAction environment calls action)
      (runAction environment' calls' action) :=
  .adapt _ (Snippet.Statement.run_couples same.scope same.declare action.body)

end RenderCouple

/-! ## Attributes, loops and frames -/

/-- Evaluations that do the same have values that are alike. -/
theorem evaluateExpression_relates {expression : Expression}
    (h : coupling.Couples (evaluateExpression environment calls expression)
      (evaluateExpression environment' calls' expression)) :
    coupling.Relates (Value.Like Eq) (evaluateExpression environment calls expression)
      (evaluateExpression environment' calls' expression) := by
  rw [Value.like_eq]
  exact .of_couples h

theorem buildAttributes_couples
    (evaluate : ∀ expression, coupling.Couples (evaluateExpression environment calls expression)
      (evaluateExpression environment' calls' expression))
    (attributes : AttributeSet) (steps : List AttributeStep) :
    coupling.Couples (buildAttributes environment calls attributes steps)
      (buildAttributes environment' calls' attributes steps) :=
  buildAttributes_relates attributes fun _ _ => evaluateExpression_relates (evaluate _)

theorem StateCouple.inFrame {α : Type} (same : StateCouple environment environment' coupling)
    (frame : Frame) {action action' : Render α} (h : coupling.Couples action action') :
    coupling.Couples (Render.inFrame frame action) (Render.inFrame frame action') := by
  intro state state' related
  rw [Render.inFrame_run, Render.inFrame_run]
  have agree := h _ _ (same.pushFrame frame related)
  generalize action.run.run (state.pushFrame frame) = result at agree ⊢
  generalize action'.run.run (state'.pushFrame frame) = result' at agree ⊢
  rcases result with ⟨error | value, after⟩ <;> rcases result' with ⟨error' | value', after'⟩
  · exact ⟨agree.1, same.popFrame_throws agree.2⟩
  · exact agree.elim
  · exact agree.elim
  · exact ⟨agree.1, same.popFrame agree.2⟩

theorem forEach_couples {β : Type} {action action' : β → Render Unit}
    (h : ∀ thing, coupling.Couples (action thing) (action' thing)) (things : List β) :
    coupling.Couples (Render.forEach action things) (Render.forEach action' things) := by
  refine forEach_relates ?_ (List.forall₂_same.mpr fun thing _ => Eq.refl thing)
  rintro thing _ rfl
  exact h thing

/-! ## Steps -/

/-- What a step does by itself is the same for values that are equal. -/
theorem StepCouple.ownRelates {origin : Nat} {step : Step}
    (same : StepCouple environment environment' calls calls' coupling origin step) :
    step.OwnRelates environment environment' calls calls' coupling Eq origin origin := by
  have own := same.own
  cases step with
  | renderPartial path context position =>
    intro overrides overrides' likes
    rw [Value.like_eq] at likes
    cases likes with
    | none => exact same.view path none position
    | some equal => exact equal ▸ same.view path (some _) position
  | printBlock expression parameters body =>
    refine ⟨own, fun frame frame' likes => ?_⟩
    rw [likes.eq (Value.Like.eq id), Value.like_eq]
    exact .of_couples (same.print frame' expression)
  | _ => exact own

/-- **A step does the same in both executions** when all that it is made of does. -/
theorem StepCouple.couples {origin : Nat} {step : Step}
    (same : StepCouple environment environment' calls calls' coupling origin step) :
    coupling.Couples (executeStep environment calls origin step)
      (executeStep environment' calls' origin step) := by
  refine StepRelate.couples
    { write := same.write
      evaluate := fun _ _ => evaluateExpression_relates (same.evaluate _)
      run := fun action runs => ?_
      bodies := fun body direct frame frame' likes => ?_
      own := same.ownRelates
      apart := Value.keptApart_eq }
  · rw [Value.like_eq]
    exact .of_couples (same.run action runs)
  · rw [likes.eq (Value.Like.eq id)]
    exact same.bodies body direct frame'

/-- **A step does the same in both executions** when all that steps are made of does, and
so do its own change and the steps directly inside it. -/
theorem executeStep_couples (same : RenderCouple environment environment' calls calls' coupling)
    {origin : Nat} (step : Step)
    (own : step.OwnCouples environment environment' coupling origin)
    (bodies : ∀ body ∈ step.bodies, coupling.Couples (executeSteps environment calls origin body)
      (executeSteps environment' calls' origin body)) :
    coupling.Couples (executeStep environment calls origin step)
      (executeStep environment' calls' origin step) :=
  StepCouple.couples
    { write := same.write
      evaluate := same.evaluate
      print := fun _ _ => same.inFrame _ (same.evaluate _)
      run := fun action _ => same.run action
      view := same.view
      bodies := fun body direct _ => same.inFrame _ (bodies body direct)
      own := own }

/-- **Steps do the same in both executions** when all that steps are made of does, and so
does what each step of the list does by itself, however deep it stands. -/
theorem executeSteps_couple (same : RenderCouple environment environment' calls calls' coupling)
    {origin : Nat} {steps : List Step}
    (own : ∀ step : Step, step.Occurs steps →
      step.OwnCouples environment environment' coupling origin) :
    coupling.Couples (executeSteps environment calls origin steps)
      (executeSteps environment' calls' origin steps) := by
  refine Step.listInduction (.pure _) (fun step rest first others => ?_)
    (executeStep_couples same) own
  rw [executeSteps_cons, executeSteps_cons]
  exact .bind first fun _ => others

end ViewTemplate
