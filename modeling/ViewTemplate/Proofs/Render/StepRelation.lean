import ViewTemplate.Proofs.Render.StepEffect
import ViewTemplate.Proofs.Render.VariableLikeness
import ViewTemplate.Proofs.Snippet.EvaluationRelation

/-!
# Two executions with values that are alike

A step does the same in two executions as soon as what it is made of does: the expressions
that it evaluates by itself, the bodies that it executes in frames of their own, and for
seven kinds of steps something that no other step does (`StepRelate.couples`).

Values are compared up to the print blocks in them, as in `Scope.Relate`, and so are the
frames in which items are handled.  A step asks for nothing that it does not need: only its
own expressions have to have values that are alike (`Step.expressions`), and a body has to
do the same only in frames that are alike.  So a comparison may be one of steps that keep to
some names and never call anything.

## Main Definitions

* `Step.expressions` — the expressions that a step evaluates by itself
* `Step.OwnRelates` — what a step does by itself is the same in both executions
* `StepRelate` — so is everything that one step is made of
-/

namespace ViewTemplate

/-! ## What steps evaluate -/

/-- The expression that is a part of a value, if it is one. -/
def AttributePart.expression? : AttributePart → Option Expression
  | literal _ => none
  | expression captured => some captured

/-- The expressions of an attribute, in order. -/
def AttributeStep.expressions : AttributeStep → List Expression
  | plain _ none => []
  | plain _ (some (_, parts)) => parts.filterMap AttributePart.expression?
  | bound _ _ expression => [expression]
  | conditional _ condition => [condition]
  | append _ _ _ condition => [condition]

/-- The expressions that a step evaluates by itself, and not in its bodies. -/
def Step.expressions : Step → List Expression
  | openTag _ attributes => attributes.flatMap AttributeStep.expressions
  | branch condition _ _ => [condition]
  | switch expression cases _ => expression :: cases.map (·.1)
  | foreach _ collection _ _ => [collection]
  | loop condition _ => [condition]
  | renderPartial _ context _ => context.toList
  | renderValue expression => [expression]
  | printBlock expression _ _ => [expression]
  | _ => []

variable {environment environment' : Environment} {calls calls' : Calls}
  {coupling : Coupling RenderState} {matched : Nat → Nat → Prop} {origin origin' : Nat}

/-! ## What is to be compared -/

/-- **What a step does by itself is the same in both executions.**  Steps that only write,
evaluate and execute bodies do nothing else. -/
def Step.OwnRelates (environment environment' : Environment) (calls calls' : Calls)
    (coupling : Coupling RenderState) (matched : Nat → Nat → Prop) (origin origin' : Nat) :
    Step → Prop
  | .saveTarget => ∀ state state', coupling.returns state state' →
      coupling.returns state.saveTarget state'.saveTarget
  | .mergeTarget slot => ∀ state state', coupling.returns state state' →
      coupling.returns (state.mergeTarget slot) (state'.mergeTarget slot)
  | .renderContent slot => ∀ state state', coupling.returns state state' →
      coupling.returns (state.writeContent slot) (state'.writeContent slot)
  | .renderPartial path _ position => ∀ overrides overrides',
      Option.Rel (Value.Like matched) overrides overrides' →
        coupling.Couples (calls.view path overrides position)
          (calls'.view path overrides' position)
  | .printBlock expression parameters body =>
      (∀ state state', coupling.returns state state' →
        let bound := state.bindBlock ⟨origin, expression.position, parameters, body⟩
        let bound' := state'.bindBlock ⟨origin', expression.position, parameters, body⟩
        matched bound.1 bound'.1 ∧ coupling.returns bound.2 bound'.2) ∧
      ∀ frame frame', Value.FieldsLike matched frame frame' →
        coupling.Relates (Value.Like matched)
          (Render.inFrame frame (evaluateExpression environment calls expression))
          (Render.inFrame frame' (evaluateExpression environment' calls' expression))
  | .setLayout path => ∀ state state', coupling.returns state state' →
      coupling.returns (if state.partialDepth = 0 then state.setLayout path else state)
        (if state'.partialDepth = 0 then state'.setLayout path else state')
  | .loop _ _ => environment.turns = environment'.turns
  | _ => True

/-- **Everything that one step is made of does the same in both executions.** -/
structure StepRelate (environment environment' : Environment) (calls calls' : Calls)
    (coupling : Coupling RenderState) (matched : Nat → Nat → Prop) (origin origin' : Nat)
    (step : Step) : Prop where
  write : ∀ (text : String) (state state' : RenderState), coupling.returns state state' →
    coupling.returns (state.write text) (state'.write text)
  evaluate : ∀ expression ∈ step.expressions, coupling.Relates (Value.Like matched)
    (evaluateExpression environment calls expression)
    (evaluateExpression environment' calls' expression)
  run : ∀ action ∈ step.action?, coupling.Relates (Value.Like matched)
    (runAction environment calls action) (runAction environment' calls' action)
  bodies : ∀ body ∈ step.bodies, ∀ {frame frame'}, Value.FieldsLike matched frame frame' →
    coupling.Couples (Render.inFrame frame (executeSteps environment calls origin body))
      (Render.inFrame frame' (executeSteps environment' calls' origin' body))
  own : step.OwnRelates environment environment' calls calls' coupling matched origin origin'
  /-- Print blocks are told apart, wherever they are compared. -/
  apart : ∀ value other : Value, value.KeptApart matched other

/-! ## Attributes -/

/-- Parts of a value make the same text. -/
theorem attributeText_relates {parts : List AttributePart}
    (evaluate : ∀ expression ∈ parts.filterMap AttributePart.expression?,
      coupling.Relates (Value.Like matched) (evaluateExpression environment calls expression)
        (evaluateExpression environment' calls' expression)) :
    coupling.Couples (attributeText environment calls parts)
      (attributeText environment' calls' parts) := by
  induction parts with
  | nil => exact .pure _
  | cons part rest ih =>
    cases part with
    | literal text =>
      rw [List.filterMap_cons_none rfl] at evaluate
      exact .bind (ih evaluate) fun _ => .pure _
    | expression captured =>
      have ⟨first, others⟩ := List.forall_mem_cons.mp evaluate
      refine .bind_relates first fun value value' like => ?_
      rw [like.text]
      exact .bind (ih others) fun _ => .pure _

/-- Attributes are built in the same way. -/
theorem buildAttributes_relates (attributes : AttributeSet) {steps : List AttributeStep}
    (evaluate : ∀ expression ∈ steps.flatMap AttributeStep.expressions,
      coupling.Relates (Value.Like matched) (evaluateExpression environment calls expression)
        (evaluateExpression environment' calls' expression)) :
    coupling.Couples (buildAttributes environment calls attributes steps)
      (buildAttributes environment' calls' attributes steps) := by
  induction steps generalizing attributes with
  | nil => exact .pure _
  | cons step rest ih =>
    rw [List.flatMap_cons] at evaluate
    have ⟨own, others⟩ := List.forall_mem_append.mp evaluate
    cases step with
    | plain name value =>
      cases value with
      | none => exact ih _ others
      | some value => exact .bind (attributeText_relates own) fun _ => ih _ others
    | bound name quote expression =>
      have first := own expression List.mem_cons_self
      refine .bind_relates first fun value value' like => ?_
      rw [like.text]
      exact ih _ others
    | conditional name condition | append name quote suffix condition =>
      have first := own condition List.mem_cons_self
      refine .bind_relates first fun value value' like => ?_
      rw [like.isTruthy]
      split
      · exact ih _ others
      · exact ih _ others

/-! ## Loops and bodies -/

/-- A loop over items does the same for items that are related. -/
theorem forEach_relates {α β : Type} {related : α → β → Prop} {action : α → Render Unit}
    {action' : β → Render Unit}
    (each : ∀ {thing thing'}, related thing thing' →
      coupling.Couples (action thing) (action' thing'))
    {things : List α} {things' : List β} (likes : List.Forall₂ related things things') :
    coupling.Couples (Render.forEach action things) (Render.forEach action' things') := by
  induction likes with
  | nil => exact .pure _
  | cons first _ ih => exact .bind (each first) fun _ => ih

theorem repeatWhile_couples {position : Position} {condition condition' : Render Bool}
    {action action' : Render Unit} (test : coupling.Couples condition condition')
    (body : coupling.Couples action action') (turns : Nat) :
    coupling.Couples (Render.repeatWhile position condition action turns)
      (Render.repeatWhile position condition' action' turns) := by
  induction turns with
  | zero => exact .throw _
  | succ turns ih =>
    refine .bind test fun holds => ?_
    split
    · exact .bind body fun _ => ih
    · exact .pure _

theorem executeOptional_relates {body? : Option (List Step)}
    (bodies : ∀ body ∈ body?, ∀ {frame frame'}, Value.FieldsLike matched frame frame' →
      coupling.Couples (Render.inFrame frame (executeSteps environment calls origin body))
        (Render.inFrame frame' (executeSteps environment' calls' origin' body))) :
    coupling.Couples (executeStep.executeOptional environment calls origin body?)
      (executeStep.executeOptional environment' calls' origin' body?) := by
  cases body? with
  | none => exact .pure _
  | some body => exact bodies body rfl .nil

theorem executeCases_relates (apart : ∀ value other : Value, value.KeptApart matched other)
    {cases : List (Expression × List Step)} {value value' : Value}
    (like : value.Like matched value') {fallback fallback' : Render Unit}
    (otherwise : coupling.Couples fallback fallback')
    (evaluate : ∀ expression ∈ cases.map (·.1), coupling.Relates (Value.Like matched)
      (evaluateExpression environment calls expression)
      (evaluateExpression environment' calls' expression))
    (bodies : ∀ case ∈ cases, ∀ {frame frame'}, Value.FieldsLike matched frame frame' →
      coupling.Couples (Render.inFrame frame (executeSteps environment calls origin case.2))
        (Render.inFrame frame' (executeSteps environment' calls' origin' case.2))) :
    coupling.Couples (executeStep.executeCases environment calls origin value fallback cases)
      (executeStep.executeCases environment' calls' origin' value' fallback' cases) := by
  induction cases with
  | nil => exact otherwise
  | cons case rest ih =>
    have ⟨first, others⟩ := List.forall_mem_cons.mp evaluate
    refine .bind_relates first fun found found' like' => ?_
    rw [like'.strictEquals like (apart _ _)]
    split
    · exact bodies case List.mem_cons_self .nil
    · exact ih others fun other mem => bodies other (List.mem_cons_of_mem _ mem)

/-! ## Steps -/

/-- What is written of values that are alike is the same. -/
theorem writeValue_relates
    (write : ∀ (text : String) (state state' : RenderState), coupling.returns state state' →
      coupling.returns (state.write text) (state'.write text))
    {value value' : Value} (like : value.Like matched value') :
    coupling.Couples (modify (·.writeValue value) : Render Unit)
      (modify (·.writeValue value')) := by
  unfold RenderState.writeValue
  rw [like.isNullish, like.text]
  split
  · exact .modify fun _ _ states => states
  · exact .modify (write _)

/-- **A step does the same in both executions** when all that it is made of does. -/
theorem StepRelate.couples {step : Step}
    (same : StepRelate environment environment' calls calls' coupling matched origin origin'
      step) :
    coupling.Couples (executeStep environment calls origin step)
      (executeStep environment' calls' origin' step) := by
  have writes (text : String) :
      coupling.Couples (modify (·.write text) : Render Unit) (modify (·.write text)) :=
    .modify (same.write text)
  have evaluate := same.evaluate
  have bodies := same.bodies
  have own := same.own
  cases step with
  | text | comment | cdata | doctype | closeTag => exact writes _
  | openTag name attributes => exact .bind (buildAttributes_relates [] evaluate) fun _ => writes _
  | block body => exact bodies body List.mem_cons_self .nil
  | branch condition consequent alternate =>
    have ⟨first, others⟩ := List.forall_mem_cons.mp bodies
    refine .bind_relates (evaluate _ List.mem_cons_self) fun value value' like => ?_
    rw [like.isTruthy]
    split
    · exact first .nil
    · exact executeOptional_relates fun body mem => others body (Option.mem_toList.mpr mem)
  | switch expression cases fallback =>
    have ⟨inCases, inFallback⟩ := List.forall_mem_append.mp bodies
    have ⟨first, others⟩ := List.forall_mem_cons.mp evaluate
    refine .bind_relates first fun value value' like => ?_
    refine executeCases_relates same.apart like ?_ others fun case mem => ?_
    · exact executeOptional_relates fun body mem => inFallback body (Option.mem_toList.mpr mem)
    · exact inCases case.2 (List.mem_map_of_mem mem)
  | foreach identifiers collection body empty =>
    have ⟨first, others⟩ := List.forall_mem_cons.mp bodies
    refine .bind_relates (evaluate _ List.mem_cons_self) fun value value' like => ?_
    have collected : coupling.Relates (List.Forall₂ (Value.ListLike matched))
        (MonadExcept.ofExcept (collectionAt collection.position value) : Render _)
        (MonadExcept.ofExcept (collectionAt collection.position value')) := by
      have ends : Ends (List.Forall₂ (Value.ListLike matched)) (fun _ => True)
          (collectionAt collection.position value) (collectionAt collection.position value') :=
        collectionAt_like _ trivial (fun _ => trivial) like
      generalize collectionAt collection.position value = items at ends ⊢
      generalize collectionAt collection.position value' = items' at ends ⊢
      cases ends with
      | ok likes => exact .pure likes
      | error => exact .throw _
    refine .bind_relates collected fun items items' likes => ?_
    -- As many items on both sides, so the loop runs in both executions or in none.
    have none : items.isEmpty = items'.isEmpty := by
      cases likes <;> rfl
    rw [none]
    split
    · exact executeOptional_relates fun body mem => others body (Option.mem_toList.mpr mem)
    · exact forEach_relates (fun likes => first (itemFrame_like identifiers likes)) likes
  | loop condition body =>
    have turns : environment.turns = environment'.turns := own
    unfold executeStep
    rw [turns]
    refine repeatWhile_couples ?_ (bodies body List.mem_cons_self .nil) _
    refine .bind_relates (evaluate _ List.mem_cons_self) fun value value' like => ?_
    rw [like.isTruthy]
    exact .pure _
  | renderPartial path context position =>
    cases context with
    | none =>
      have none : coupling.Relates (Option.Rel (Value.Like matched))
          (pure none : Render (Option Value)) (pure none) := .pure .none
      exact .bind_relates none own
    | some expression =>
      have overrides : coupling.Relates (Option.Rel (Value.Like matched))
          (some <$> evaluateExpression environment calls expression)
          (some <$> evaluateExpression environment' calls' expression) := by
        rw [map_eq_pure_bind, map_eq_pure_bind]
        exact .bind (evaluate _ List.mem_cons_self) fun _ _ like => .pure (.some like)
      exact .bind_relates overrides own
  | renderContent slot | saveTarget | mergeTarget slot | setLayout path => exact .modify own
  | renderValue expression =>
    refine .bind_relates (evaluate _ List.mem_cons_self) fun value value' like => ?_
    exact writeValue_relates same.write like
  | renderAction action =>
    refine .bind_relates (same.run _ rfl) fun value value' like => ?_
    exact writeValue_relates same.write like
  | printBlock expression parameters body =>
    have bound : coupling.Relates matched
        (modifyGet (·.bindBlock ⟨origin, expression.position, parameters, body⟩) : Render Nat)
        (modifyGet (·.bindBlock ⟨origin', expression.position, parameters, body⟩)) := own.1
    refine .bind_relates bound fun index index' here => ?_
    have frames : Value.FieldsLike matched [(blockName, .function (.block index))]
        [(blockName, .function (.block index'))] :=
      .cons (.block here) .nil
    refine .bind_relates (own.2 _ _ frames) fun value value' like => ?_
    exact writeValue_relates same.write like
  | execute action => exact .bind_relates (same.run _ rfl) fun _ _ _ => .pure _

end ViewTemplate
