import ViewTemplate.Proofs.Program.Nesting
import ViewTemplate.Proofs.Render.EvaluationLikeness

/-!
# Executions that correspond to each other

The steps of a program do in one render what their record in another one says, if calls do.

As for evaluations, the proof goes through the kinds of steps once, for all correspondences
(`Correspondence.recordStep_alike`).  Programs are the same in both renders, so only what is
evaluated has to be followed: it decides the same branches, goes over as many items and writes
the same text.

## Main Definitions

* `Correspondence.CallsAlike` — calls that correspond to each other
-/

namespace ViewTemplate

open Snippet

namespace Correspondence

variable {left right : Environment} {K : Correspondence left right} {world : K.World}

/-! ## Contexts -/

theorem overriddenFields_like {context context' : Value} {overrides overrides' : Option Value}
    (position : Position) (contexts : K.ValueLike world context context')
    (like : Option.Rel (K.ValueLike world) overrides overrides') :
    Ends (K.FieldsLike world) K.Permits (overriddenFields context overrides position)
      (overriddenFields context' overrides' position) := by
  unfold overriddenFields
  have fields := contextFields_like contexts
  have extra := getD_like like
  have named := extra.typeName
  generalize overrides.getD .undefined = value at extra named ⊢
  generalize overrides'.getD .undefined = value' at extra named ⊢
  cases extra with
  | undefined | null => exact .ok fields
  | object more => exact .ok (fields.merge more)
  | array =>
    dsimp only
    rw [named]
    exact .error False.elim
  | _ => exact .error False.elim

/-! ## Changes of the state -/

namespace States

variable {state state' : RenderState}

theorem write (states : K.States world state state') (text : String) :
    K.States world (state.write text) (state'.write text) := by
  obtain ⟨stock, contexts, scopes⟩ := states
  exact ⟨stock, contexts, scopes⟩

theorem writeValue (states : K.States world state state') {value value' : Value}
    (like : K.ValueLike world value value') :
    K.States world (state.writeValue value) (state'.writeValue value') := by
  unfold RenderState.writeValue
  rw [like.isNullish, like.text]
  split
  · exact states
  · exact states.write _

theorem writeContent (states : K.States world state state') (slot : Option String) :
    K.States world (state.writeContent slot) (state'.writeContent slot) := by
  obtain ⟨stock, contexts, scopes⟩ := states
  cases slot with
  | none => exact ⟨stock, contexts, scopes⟩
  | some slot => exact ⟨stock, contexts, scopes⟩

theorem saveTarget (states : K.States world state state') :
    K.States world state.saveTarget state'.saveTarget := by
  obtain ⟨stock, contexts, scopes⟩ := states
  exact ⟨stock, contexts, scopes⟩

/-- The same target ends in both states. -/
theorem restoreTarget (states : K.States world state state') :
    state.restoreTarget.1 = state'.restoreTarget.1 ∧
      K.States world state.restoreTarget.2 state'.restoreTarget.2 := by
  obtain ⟨stock, contexts, scopes⟩ := states
  unfold RenderState.restoreTarget
  dsimp only
  split
  · exact ⟨rfl, stock, contexts, scopes⟩
  · exact ⟨rfl, stock, contexts, scopes⟩

theorem mergeTarget (states : K.States world state state') (slot : String) :
    K.States world (state.mergeTarget slot) (state'.mergeTarget slot) := by
  obtain ⟨ended, restored⟩ := states.restoreTarget
  unfold RenderState.mergeTarget
  generalize state.restoreTarget = run at ended restored ⊢
  generalize state'.restoreTarget = run' at ended restored ⊢
  obtain ⟨target, after⟩ := run
  obtain ⟨_, after'⟩ := run'
  cases ended
  obtain ⟨stock, contexts, scopes⟩ := restored
  cases target with
  | none => exact ⟨stock, contexts, scopes⟩
  | some target => exact ⟨stock, contexts, scopes⟩

theorem partialDepth (states : K.States world state state') :
    state.partialDepth = state'.partialDepth := by
  cases states
  rfl

theorem setLayout (states : K.States world state state') (path : String) :
    K.States world (state.setLayout path) (state'.setLayout path) := by
  obtain ⟨stock, contexts, scopes⟩ := states
  exact ⟨stock, contexts, scopes⟩

end States

/-! ## Expressions and attributes -/

/-- **How views and print blocks are called in two renders**, the one with an account. -/
structure CallsAlike (K : Correspondence left right) (recorded : RecordedCalls) (calls : Calls) :
    Prop where
  block : K.BlocksAlike recorded.block calls.block
  view : ∀ {world} (path : String) {overrides overrides'} (position : Position),
    Option.Rel (K.ValueLike world) overrides overrides' →
      K.Alike world (fun _ => Eq) (recorded.view path overrides position)
        (calls.view path overrides' position)

section

variable {recorded : RecordedCalls} {calls : Calls}

theorem recordExpression_alike (same : K.CallsAlike recorded calls) (expression : Expression)
    (world : K.World) :
    K.Alike world K.ValueLike (recordExpression left recorded expression)
      (evaluateExpression right calls expression) :=
  .snippet (recordExpr_alike same.block expression.body world)

theorem recordStatement_alike (same : K.CallsAlike recorded calls) (statement : Statement)
    (world : K.World) :
    K.Alike world K.ValueLike (recordStatement left recorded.block statement)
      (statement.run (renderScope right calls)) := by
  cases statement with
  | expression expr => exact recordExpr_alike same.block expr world
  | declaration name init =>
    have declared : ∀ later : K.World, ∀ value value', K.ValueLike later value value' →
        K.Alike later K.ValueLike
          (do modify (·.declare name value); return .undefined : Recorded Fail Value)
          (do modify ((renderScope right calls).declare · name value'); return .undefined) :=
      fun later value value' like =>
        .bind (.modify fun states => states.declare name like) fun _ _ _ _ _ => .pure .undefined
    unfold recordStatement Statement.run
    cases init with
    | none => exact .bind (.pure .undefined) fun later _ => declared later
    | some expr =>
      exact .bind (recordExpr_alike same.block expr world) fun later _ => declared later

theorem recordAction_alike (same : K.CallsAlike recorded calls) (action : Action)
    (world : K.World) :
    K.Alike world K.ValueLike (recordAction left recorded action)
      (runAction right calls action) :=
  .snippet (recordStatement_alike same action.body world)

/-- Parts of a value make the same text. -/
theorem recordText_alike (same : K.CallsAlike recorded calls) (parts : List AttributePart)
    (world : K.World) :
    K.Alike world (fun _ => Eq) (recordText left recorded parts)
      (attributeText right calls parts) := by
  induction parts generalizing world with
  | nil => exact .pure rfl
  | cons part rest ih =>
    cases part with
    | literal text =>
      refine .bind (ih world) fun later _ behind _ equal => ?_
      rw [equal]
      exact .pure rfl
    | expression expression =>
      refine .bind (recordExpression_alike same expression world)
        fun later _ value value' like => ?_
      refine .bind (ih later) fun last _ behind _ equal => ?_
      rw [equal, like.text]
      exact .pure rfl

/-- Attributes are written in the same way. -/
theorem recordAttributes_alike (same : K.CallsAlike recorded calls) (steps : List AttributeStep)
    (attributes : AttributeSet) (world : K.World) :
    K.Alike world (fun _ => Eq) (recordAttributes left recorded attributes steps)
      (buildAttributes right calls attributes steps) := by
  induction steps generalizing attributes world with
  | nil => exact .pure rfl
  | cons step rest ih =>
    cases step with
    | plain name value =>
      cases value with
      | none => exact ih _ world
      | some value =>
        refine .bind (recordText_alike same value.2 world) fun later _ text _ equal => ?_
        rw [equal]
        exact ih _ later
    | bound name quote expression =>
      refine .bind (recordExpression_alike same expression world)
        fun later _ value value' like => ?_
      rw [like.text]
      exact ih _ later
    | conditional name condition =>
      refine .bind (recordExpression_alike same condition world)
        fun later _ value value' like => ?_
      rw [like.isTruthy]
      split
      · exact ih _ later
      · exact ih _ later
    | append name quote suffix condition =>
      refine .bind (recordExpression_alike same condition world)
        fun later _ value value' like => ?_
      rw [like.isTruthy]
      split
      · exact ih _ later
      · exact ih _ later

/-! ## Steps -/

theorem recordOptional_alike {origin origin' : Nat} {body : Option (List Step)}
    (same : ∀ steps ∈ body, ∀ later, K.le world later →
      K.Alike later (fun _ => Eq) (recordSteps left recorded origin steps)
        (executeSteps right calls origin' steps)) :
    ∀ later, K.le world later →
      K.Alike later (fun _ => Eq) (recordStep.recordOptional left recorded origin body)
        (executeStep.executeOptional right calls origin' body) := by
  intro later grown
  cases body with
  | none => exact .pure rfl
  | some steps => exact .inFrame .nil (same steps rfl later grown)

theorem recordCases_alike (same : K.CallsAlike recorded calls) {origin origin' : Nat}
    {cases : List (Expression × List Step)} {fallback : Recorded RenderError Unit}
    {fallback' : Render Unit}
    (bodies : ∀ case ∈ cases, ∀ later, K.le world later →
      K.Alike later (fun _ => Eq) (recordSteps left recorded origin case.2)
        (executeSteps right calls origin' case.2))
    (otherwise : ∀ later, K.le world later → K.Alike later (fun _ => Eq) fallback fallback') :
    ∀ later, K.le world later → ∀ value value', K.ValueLike later value value' →
      K.Alike later (fun _ => Eq) (recordStep.recordCases left recorded origin value fallback cases)
        (executeStep.executeCases right calls origin' value' fallback' cases) := by
  induction cases with
  | nil => exact fun later grown _ _ _ => otherwise later grown
  | cons case rest ih =>
    intro later grown value value' like
    refine .bind (recordExpression_alike same case.1 later) fun next grown' found found' like' => ?_
    have like := value_mono grown' like
    have grown := K.le_trans grown grown'
    refine .compared_bind like' like fun apart => ?_
    rw [like'.strictEquals like apart]
    split
    · exact .inFrame .nil (bodies case List.mem_cons_self next grown)
    · exact ih (fun other mem => bodies other (List.mem_cons_of_mem _ mem)) next grown _ _ like

/-- Steps do the same if each of them does. -/
theorem steps_alike {steps : List Step}
    (each : ∀ step ∈ steps, ∀ (world : K.World) {origin origin' : Nat},
      K.origins world origin origin' → K.Alike world (fun _ => Eq)
        (recordStep left recorded origin step) (executeStep right calls origin' step))
    (world : K.World) {origin origin' : Nat} (origins : K.origins world origin origin') :
    K.Alike world (fun _ => Eq) (recordSteps left recorded origin steps)
      (executeSteps right calls origin' steps) := by
  induction steps generalizing world with
  | nil => exact .pure rfl
  | cons step rest ih =>
    refine .bind (.step (each step List.mem_cons_self world origins)) fun later grown _ _ _ => ?_
    exact ih (fun other mem => each other (List.mem_cons_of_mem _ mem)) later
      (K.origins_mono grown origins)

/-- **Every step does the same**, by induction on the steps inside each other. -/
theorem recordStep_alike (same : K.CallsAlike recorded calls) (step : Step) (world : K.World)
    {origin origin' : Nat} (origins : K.origins world origin origin') :
    K.Alike world (fun _ => Eq) (recordStep left recorded origin step)
      (executeStep right calls origin' step) := by
  -- The induction is on how steps are nested, so all bodies of a step are covered at once.
  induction step using Step.induction generalizing world origin origin' with
  | inside step ih =>
    have bodies : ∀ body ∈ step.bodies, ∀ later, K.le world later →
        K.Alike later (fun _ => Eq) (recordSteps left recorded origin body)
          (executeSteps right calls origin' body) :=
      fun body direct later grown =>
        steps_alike (fun inner mem world => ih body direct inner mem world) later
          (K.origins_mono grown origins)
    cases step with
    | text text | comment text | cdata text | closeTag name =>
      exact .modify fun states => states.write _
    | doctype => exact .modify fun states => states.write _
    | openTag name attributes =>
      refine .bind (recordAttributes_alike same attributes [] world) fun later _ text _ equal => ?_
      rw [equal]
      exact .modify fun states => states.write _
    | block body => exact .inFrame .nil (bodies body List.mem_cons_self world (K.le_refl world))
    | branch condition consequent alternate =>
      refine .bind (recordExpression_alike same condition world)
        fun later grown value value' like => ?_
      rw [like.isTruthy]
      split
      · exact .inFrame .nil (bodies consequent List.mem_cons_self later grown)
      · refine recordOptional_alike (fun steps mem => ?_) later grown
        exact bodies steps (List.mem_cons_of_mem _ (Option.mem_toList.mpr mem))
    | switch expression cases fallback =>
      refine .bind (recordExpression_alike same expression world)
        fun later grown value value' like => ?_
      refine recordCases_alike same (fun case mem => ?_)
        (recordOptional_alike fun steps mem => ?_) later grown _ _ like
      · exact bodies case.2 (List.mem_append_left _ (List.mem_map_of_mem mem))
      · exact bodies steps (List.mem_append_right _ (Option.mem_toList.mpr mem))
    | foreach identifiers collection body empty =>
      refine .bind (recordExpression_alike same collection world)
        fun later grown value value' like => ?_
      have collected : K.Alike later (fun last => List.Forall₂ (K.ValuesLike last))
          (.ofExcept (collectionAt collection.position value))
          (MonadExcept.ofExcept (collectionAt collection.position value')) :=
        .ofExcept (collectionAt_like collection.position False.elim (fun _ => False.elim) like)
      refine .bind collected fun last grown' items items' likes => ?_
      have grown := K.le_trans grown grown'
      -- As many items on both sides, so the loop runs in both renders or in none.
      have none : items.isEmpty = items'.isEmpty := by
        cases likes <;> rfl
      rw [none]
      split
      · refine recordOptional_alike (fun steps mem => ?_) last grown
        exact bodies steps (List.mem_cons_of_mem _ (Option.mem_toList.mpr mem))
      · refine Alike.forEach (likes.imp fun values values' like next grown'' => ?_) last
          (K.le_refl last)
        exact .inFrame (itemFrame_like identifiers (values_mono grown'' like))
          (bodies body List.mem_cons_self next (K.le_trans grown grown''))
    | loop condition body =>
      change K.Alike world _ (.repeatWhile _ _ _ left.turns) _
      rw [K.turns]
      refine Alike.repeatWhile (fun later _ => ?_) (fun later grown => ?_) right.turns world
        (K.le_refl world)
      · exact .bind (recordExpression_alike same condition later) fun _ _ _ _ like =>
          .pure like.isTruthy
      · exact .inFrame .nil (bodies body List.mem_cons_self later grown)
    | renderPartial path context position =>
      cases context with
      | none => exact .bind (.pure .none) fun later _ _ _ like => same.view path position like
      | some expression =>
        have overrides : K.Alike world (fun later => Option.Rel (K.ValueLike later))
            (some <$> recordExpression left recorded expression)
            (some <$> evaluateExpression right calls expression) :=
          .map (recordExpression_alike same expression world) .some
        exact .bind overrides fun later _ _ _ like => same.view path position like
    | renderContent slot => exact .modify fun states => states.writeContent slot
    | saveTarget => exact .modify fun states => states.saveTarget
    | mergeTarget slot => exact .modify fun states => states.mergeTarget slot
    | renderValue expression =>
      exact .bind (recordExpression_alike same expression world) fun _ _ _ _ like =>
        .modify fun states => states.writeValue like
    | renderAction action =>
      exact .bind (recordAction_alike same action world) fun _ _ _ _ like =>
        .modify fun states => states.writeValue like
    | printBlock expression parameters body =>
      refine .bind (.binding origins _ _ _) fun later _ index index' places => ?_
      have frame : K.FieldsLike later [(blockName, .function (.block index))]
          [(blockName, .function (.block index'))] :=
        .cons (.block places) .nil
      exact .bind (.inFrame frame (recordExpression_alike same expression later))
        fun _ _ _ _ like => .modify fun states => states.writeValue like
    | execute action =>
      exact .bind (recordAction_alike same action world) fun _ _ _ _ _ => .pure rfl
    | setLayout path =>
      refine .modify fun states => ?_
      rw [states.partialDepth]
      split
      · exact states.setLayout path
      · exact states

end

end Correspondence

end ViewTemplate
