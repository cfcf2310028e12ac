import ViewTemplate.Proofs.Render.Declarations
import ViewTemplate.Proofs.Render.Moments

/-!
# Programs that nest calls

How deep the calls of a program go, for programs that do nothing but write, render views
and call their print blocks.

Calls nest to the depth of the deepest of them, however many stand beside each other
(`Nests`).  Such a program runs to its end as long as its calls and those that are active
already are not more than a render allows, and it is refused otherwise
(`Nests.execute`).  It cannot fail in any other way, which is why so few kinds of steps
are in it.

What a print block does that calls itself is one equation (`printBlock_run`): the block gets
its place in the table, its steps are executed in two frames more and one call deeper, and
the text that they write is written.

## Main Definitions

* `Step.Plain` — steps that only write
* `Snippet.Expr.CallsBlock` — expressions that only call the print block around them
* `Nests` — how deep the calls of steps go
* `nestedBlocks` — a program whose calls go as deep as one likes
* `Environment.Bears` — how an execution ends in which calls nest to some depth
-/

namespace ViewTemplate

open Snippet

/-- A step that writes and does nothing else. -/
def Step.Plain : Step → Prop
  | .text _ | .comment _ | .cdata _ | .doctype | .openTag _ [] | .closeTag _ => True
  | _ => False

/-- An expression that calls the print block that it belongs to and does nothing else. -/
def Snippet.Expr.CallsBlock (expr : Expr) : Prop :=
  ∃ span nameSpan, expr = .call span (.identifier nameSpan blockName) []

/-- **How deep the calls of steps go**, in a store that has the programs of the views that
are rendered.  Steps that stand beside each other go as deep as the deepest of them. -/
inductive Nests (environment : Environment) (store : ViewStore) : (depth : Nat) → List Step → Prop
    where
  | nil : Nests environment store 0 []
  | write {step : Step} {rest : List Step} {beside : Nat} (plain : step.Plain)
      (others : Nests environment store beside rest) :
      Nests environment store beside (step :: rest)
  | view {path : String} {position : Position} {program : Program} {rest : List Step}
      {inside beside : Nat} (found : environment.programOf store path = .ok program)
      (body : Nests environment store inside program.steps)
      (others : Nests environment store beside rest) :
      Nests environment store (max (inside + 1) beside)
        (.renderPartial path none position :: rest)
  | block {expression : Expression} {parameters : List String} {steps rest : List Step}
      {inside beside : Nat} (calls : expression.body.CallsBlock)
      (body : Nests environment store inside steps)
      (others : Nests environment store beside rest) :
      Nests environment store (max (inside + 1) beside)
        (.printBlock expression parameters steps :: rest)

/-- Steps in a print block, in a print block, and so on, `count` of them. -/
def nestedBlocks (steps : List Step) : (count : Nat) → List Step
  | 0 => steps
  | count + 1 =>
    [.printBlock ⟨"$block()", default, .call default (.identifier default blockName) []⟩ []
      (nestedBlocks steps count)]

/-- Each print block around steps is one call more. -/
theorem nestedBlocks_nests {environment : Environment} {store : ViewStore} {depth : Nat}
    {steps : List Step} (nests : Nests environment store depth steps) (count : Nat) :
    Nests environment store (depth + count) (nestedBlocks steps count) := by
  induction count with
  | zero => exact nests
  | succ count ih =>
    have outer : Nests environment store (max (depth + count + 1) 0)
        (nestedBlocks steps (count + 1)) := .block ⟨default, default, rfl⟩ ih .nil
    rwa [Nat.max_zero] at outer

/-! ## Print blocks that call themselves -/

/-- The frame in which the expression of a print block is evaluated. -/
def blockFrame (index : Nat) : Frame :=
  [(blockName, .function (.block index))]

/-- The state in which the steps of a print block start that is called from its own expression,
without arguments. -/
def RenderState.enterPrinted (block : BoundBlock) (state : RenderState) : RenderState :=
  let (index, blocks) := block.bindIn state.blocks
  ({ state with blocks }.pushFrame (blockFrame index)).enterBlock
    (argumentFrame block.parameters [])

section

variable {environment : Environment}

/-- An expression that calls the print block around it does what the call does. -/
theorem evaluate_callsBlock {calls : Calls} {expression : Expression}
    (only : expression.body.CallsBlock) {index : Nat} {state : RenderState}
    (bound : state.lookup environment blockName = some (.function (.block index))) :
    (evaluateExpression environment calls expression).run.run state =
      ((calls.block index []).adapt (RenderError.ofEval expression.position)).run.run state := by
  obtain ⟨span, nameSpan, same⟩ := only
  have read : (Snippet.evaluate (renderScope environment calls)
      (.identifier nameSpan blockName)).run.run state =
        (.ok (.function (.block index)), state) := by
    change (Except.ok ((state.lookup environment blockName).getD .undefined), state) = _
    rw [bound]
    rfl
  rw [evaluateExpression, same, run_adapt, run_adapt, Snippet.evaluate, run_bind, read]
  · rfl
  · exact nofun

/-- **A print block that its own expression calls**, in closed form. -/
theorem printBlock_run {execute : Executor} {origin : Nat} {expression : Expression}
    (calls : expression.body.CallsBlock) {parameters : List String} {body : List Step}
    {state : RenderState} :
    (executeStep environment (callsBy environment execute) origin
        (.printBlock expression parameters body)).run.run state =
      let block : BoundBlock := ⟨origin, expression.position, parameters, body⟩
      if maxDepth ≤ state.depth then
        (.error (.tooDeep blockName expression.position),
          { state with blocks := (block.bindIn state.blocks).2 })
      else
        let (result, after) := (execute origin body).run.run (state.enterPrinted block)
        match result with
        | .error error => (.error error, after.leaveBlock.popFrame)
        | .ok _ =>
          (.ok (), after.leaveBlock.popFrame.writeValue
            (.string ((after.popFrame.restoreTarget.1.map (·.default)).getD ""))) := by
  dsimp only
  generalize blockEq : (⟨origin, expression.position, parameters, body⟩ : BoundBlock) = block
  rw [executeStep, run_bind, run_modifyGet, blockEq, RenderState.bindBlock_eq]
  have found := block.getElem?_bindIn state.blocks
  unfold RenderState.enterPrinted blockFrame
  generalize block.bindIn state.blocks = place at found ⊢
  obtain ⟨index, blocks⟩ := place
  dsimp only
  rw [run_bind, Render.inFrame_run]
  generalize enteredEq : RenderState.pushFrame _ { state with blocks } = entered
  have known : entered.lookup environment blockName = some (.function (.block index)) := by
    rw [← enteredEq]
    rfl
  have here : entered.blocks[index]? = some block := by
    rw [← enteredEq]
    exact found
  have deep : entered.depth = state.depth := by
    rw [← enteredEq]
    rfl
  have ran : ((callsBy environment execute).block index []).run.run entered = _ :=
    callBlock_run execute index [] entered
  rw [here, deep] at ran
  dsimp only at ran
  rw [evaluate_callsBlock calls known, run_adapt]
  by_cases full : maxDepth ≤ state.depth
  · rw [if_pos full] at ran ⊢
    rw [ran, ← enteredEq, ← blockEq]
    rfl
  · rw [if_neg full] at ran ⊢
    subst blockEq
    rw [ran]
    generalize (execute origin body).run.run _ = outcome
    obtain ⟨error | _, after⟩ := outcome
    · rfl
    · rfl

end

/-! ## Executions -/

/-- **How an execution ends in which calls nest to some depth**: it returns, as deep as it
was and with the same programs for all paths, if all these calls may be active at once;
otherwise one of them is refused. -/
def Environment.Bears (environment : Environment) (store : ViewStore) (active depth : Nat)
    (outcome : Except RenderError Unit × RenderState) : Prop :=
  if active + depth ≤ maxDepth then
    outcome.1 = .ok () ∧ outcome.2.depth = active ∧
      environment.SamePrograms store outcome.2.store
  else ∃ name position, outcome.1 = .error (.tooDeep name position)

section

variable {environment : Environment} {store : ViewStore}

/-- What returns goes on with the rest. -/
theorem Environment.Bears.bind {active inside beside : Nat} {action : Render Unit}
    {next : Render Unit} {state : RenderState}
    (first : environment.Bears store active inside (action.run.run state))
    (rest : ∀ after, after.depth = active → environment.SamePrograms store after.store →
      environment.Bears store active beside (next.run.run after)) :
    environment.Bears store active (max inside beside)
      ((action >>= fun _ => next).run.run state) := by
  rw [run_bind]
  unfold Bears at first
  generalize action.run.run state = outcome at first ⊢
  obtain ⟨result, after⟩ := outcome
  by_cases fits : active + inside ≤ maxDepth
  · rw [if_pos fits] at first
    obtain ⟨rfl, depth, same⟩ := first
    have behind := rest after depth same
    unfold Bears at behind ⊢
    by_cases fits' : active + beside ≤ maxDepth
    · rw [if_pos fits'] at behind
      rw [if_pos (by omega)]
      exact behind
    · rw [if_neg fits'] at behind
      rw [if_neg (by omega)]
      exact behind
  · rw [if_neg fits] at first
    obtain ⟨name, position, rfl⟩ := first
    unfold Bears
    rw [if_neg (by omega)]
    exact ⟨name, position, rfl⟩

/-- A step that only writes changes the target. -/
theorem Step.Plain.execute {calls : Calls} {step : Step} (plain : step.Plain) (origin : Nat)
    (state : RenderState) :
    ∃ target, (executeStep environment calls origin step).run.run state =
      (.ok (), { state with target }) := by
  cases step with
  | text | comment | cdata | doctype | closeTag => exact ⟨_, rfl⟩
  | openTag name attributes =>
    cases attributes with
    | nil => exact ⟨_, rfl⟩
    | cons => exact plain.elim
  | _ => exact plain.elim

/-- The render of a view inside goes as deep as its steps and one call more. -/
theorem callView_bears {execute : Executor} {path : String} {position : Position}
    {program : Program} {inside : Nat} {state : RenderState}
    (same : environment.SamePrograms store state.store)
    (found : environment.programOf store path = .ok program)
    (body : state.depth < maxDepth → ∀ serial entered, entered.depth = state.depth + 1 →
      environment.SamePrograms store entered.store →
      environment.Bears store (state.depth + 1) inside
        ((execute serial program.steps).run.run entered)) :
    environment.Bears store state.depth (inside + 1)
      ((callView environment execute path none position).run.run state) := by
  rw [callView_run]
  by_cases full : maxDepth ≤ state.depth
  · rw [if_pos full]
    unfold Environment.Bears
    rw [if_neg (by omega)]
    exact ⟨path, position, rfl⟩
  · rw [if_neg full]
    obtain ⟨serial, kept, compiled⟩ := compileView_of_programOf ((same path).trans found)
    have still : environment.SamePrograms store kept := by
      have := compileView_samePrograms environment path state.store
      rw [compiled] at this
      exact same.trans this
    have ended := body (Nat.not_le.mp full) serial
      (state.enterView kept (RenderState.contextFields state.context)) rfl still
    rw [compiled]
    change environment.Bears store state.depth (inside + 1)
      (((execute serial program.steps).run.run
        (state.enterView kept (RenderState.contextFields state.context))).1, state.leaveView
          ((execute serial program.steps).run.run
            (state.enterView kept (RenderState.contextFields state.context))).2)
    generalize (execute serial program.steps).run.run _ = outcome at ended ⊢
    unfold Environment.Bears at ended ⊢
    by_cases fits : state.depth + (inside + 1) ≤ maxDepth
    · rw [if_pos (by omega)] at ended
      rw [if_pos fits]
      exact ⟨ended.1, by rw [RenderState.leaveView, ended.2.1]; rfl, ended.2.2⟩
    · rw [if_neg (by omega)] at ended
      rw [if_neg fits]
      exact ended

/-- Writing a value changes nothing but the target. -/
theorem RenderState.writeValue_eq (value : Value) (state : RenderState) :
    state.writeValue value = { state with target := (state.writeValue value).target } := by
  unfold writeValue
  cases value.isNullish <;> rfl

/-- **The call of a print block from its own expression** goes as deep as its steps and one
call more. -/
theorem printBlock_bears {execute : Executor} {origin : Nat} {expression : Expression}
    {parameters : List String} {steps : List Step} {inside : Nat} {state : RenderState}
    (calls : expression.body.CallsBlock) (same : environment.SamePrograms store state.store)
    (body : state.depth < maxDepth → ∀ entered, entered.depth = state.depth + 1 →
      environment.SamePrograms store entered.store →
      environment.Bears store (state.depth + 1) inside
        ((execute origin steps).run.run entered)) :
    environment.Bears store state.depth (inside + 1)
      ((executeStep environment (callsBy environment execute) origin
        (.printBlock expression parameters steps)).run.run state) := by
  rw [printBlock_run calls]
  dsimp only
  by_cases full : maxDepth ≤ state.depth
  · rw [if_pos full]
    unfold Environment.Bears
    rw [if_neg (by omega)]
    exact ⟨blockName, expression.position, rfl⟩
  · rw [if_neg full]
    have ended := body (Nat.not_le.mp full)
      (state.enterPrinted ⟨origin, expression.position, parameters, steps⟩) rfl same
    generalize (execute origin steps).run.run _ = outcome at ended ⊢
    obtain ⟨result, after⟩ := outcome
    unfold Environment.Bears at ended ⊢
    by_cases fits : state.depth + (inside + 1) ≤ maxDepth
    · rw [if_pos (by omega)] at ended
      obtain ⟨rfl, depth', same'⟩ := ended
      rw [if_pos fits]
      refine ⟨rfl, ?_, ?_⟩
      · show (RenderState.writeValue _ after.leaveBlock.popFrame).depth = state.depth
        rw [RenderState.writeValue_eq, RenderState.leaveBlock, RenderState.restoreTarget_eq]
        exact congrArg (· - 1) depth'
      · show environment.SamePrograms store
          (RenderState.writeValue _ after.leaveBlock.popFrame).store
        rw [RenderState.writeValue_eq, RenderState.leaveBlock, RenderState.restoreTarget_eq]
        exact same'
    · rw [if_neg (by omega)] at ended
      obtain ⟨name, position, rfl⟩ := ended
      rw [if_neg fits]
      exact ⟨name, position, rfl⟩

/-- **How every execution ends** in which calls nest to some depth, on every level: as many
calls are active as there are levels above it. -/
def Environment.BearsAll (environment : Environment) (store : ViewStore) (depth : Nat)
    (steps : List Step) : Prop :=
  ∀ (levels origin : Nat) (state : RenderState), state.depth + levels = maxDepth →
    environment.SamePrograms store state.store →
    environment.Bears store state.depth depth
      ((executeWithin environment (levels + 1) origin steps).run.run state)

/-- **Step of nesting.**  What runs to its end or is refused at smaller depths does so at
the next, by induction on the steps beside each other. -/
theorem Nests.step {bound : Nat}
    (deeper : ∀ depth < bound, ∀ steps, Nests environment store depth steps →
      environment.BearsAll store depth steps)
    {depth : Nat} {steps : List Step} (nests : Nests environment store depth steps)
    (le : depth ≤ bound) : environment.BearsAll store depth steps := by
  -- What is called executes its steps on the level below, with one more active call.
  have below {inside levels serial : Nat} {steps : List Step} {entered : RenderState}
      {active : Nat} (smaller : inside < bound) (body : Nests environment store inside steps)
      (room : active < maxDepth) (counts : active + levels = maxDepth)
      (deep : entered.depth = active + 1)
      (same : environment.SamePrograms store entered.store) :
      environment.Bears store (active + 1) inside
        ((executeWithin environment levels serial steps).run.run entered) := by
    obtain ⟨fewer, rfl⟩ := Nat.exists_eq_add_one_of_ne_zero (by omega : levels ≠ 0)
    rw [← deep]
    exact deeper inside smaller steps body fewer serial entered (by omega) same
  induction nests with
  | nil =>
    intro levels origin state counts same
    change environment.Bears store state.depth 0 (.ok (), state)
    unfold Environment.Bears
    rw [if_pos (by omega)]
    exact ⟨rfl, rfl, same⟩
  | @write step rest beside plain others ih =>
    intro levels origin state counts same
    obtain ⟨target, wrote⟩ : ∃ target,
        (executeStep environment (callsBy environment (executeWithin environment levels)) origin
          step).run.run state = (.ok (), { state with target }) := plain.execute origin state
    change environment.Bears store state.depth beside
      ((executeStep environment _ origin step >>= fun _ => _).run.run state)
    rw [run_bind, wrote]
    exact ih le levels origin { state with target } counts same
  | @view path position program rest inside beside found body others _ ih =>
    intro levels origin state counts same
    refine .bind (callView_bears same found fun room serial entered deep same' => ?_)
      fun after deep same' => ?_
    · exact below (by omega) body room counts deep same'
    · rw [← deep]
      exact ih (by omega) levels origin after (by omega) same'
  | @block expression parameters steps rest inside beside calls body others _ ih =>
    intro levels origin state counts same
    refine .bind (printBlock_bears calls same fun room entered deep same' => ?_)
      fun after deep same' => ?_
    · exact below (by omega) body room counts deep same'
    · rw [← deep]
      exact ih (by omega) levels origin after (by omega) same'

/-- **Programs that nest calls run to their end or are refused**, by induction on the
depth. -/
theorem Nests.execute {depth : Nat} {steps : List Step}
    (nests : Nests environment store depth steps) : environment.BearsAll store depth steps := by
  induction depth using Nat.strongRecOn generalizing steps with
  | ind depth ih => exact nests.step (fun smaller lt _ => ih smaller lt) (Nat.le_refl depth)

end

end ViewTemplate
