import ViewTemplate.Proofs.Effect
import ViewTemplate.Render.Execution

/-!
# Calls in closed form

What a call of a view or of a print block does to the state, as one equation
each.

Both calls exchange a part of the state, execute steps, and put the part back
whether or not the steps failed.  Their definitions spread this over several
actions; `callView_run` and `callBlock_run` say it in one place, so that no
later proof has to follow the individual exchanges.  The executor is a
parameter, as it is in the definitions: the equations hold for steps executed in
any way.
-/

namespace ViewTemplate

variable {α : Type}

/-! ## Brackets -/

/-- A bracket makes its change after a return and after a throw alike. -/
theorem Render.alwaysThen_run (change : RenderState → RenderState) (action : Render α)
    (state : RenderState) :
    (Render.alwaysThen change action).run.run state =
      ((action.run.run state).1, change (action.run.run state).2) := rfl

/-- A failure that is given as a result leaves the same state behind. -/
theorem Render.attempt_run (action : Render α) (state : RenderState) :
    action.attempt.run.run state = (.ok (action.run.run state).1, (action.run.run state).2) := rfl

/-- What is done in a new frame ends with that frame, whether or not it failed. -/
theorem Render.inFrame_run (frame : Frame) (action : Render α) (state : RenderState) :
    (Render.inFrame frame action).run.run state =
      ((action.run.run (state.pushFrame frame)).1,
        (action.run.run (state.pushFrame frame)).2.popFrame) := rfl

/-- An entry is refused when `maxDepth` calls are active, and counted otherwise. -/
theorem Render.enter_run (name : String) (position : Position) (state : RenderState) :
    (Render.enter name position).run.run state =
      if maxDepth ≤ state.depth then (.error (.tooDeep name position), state)
      else (.ok (), { state with depth := state.depth + 1 }) := by
  unfold Render.enter
  change (if maxDepth ≤ state.depth then throw (.tooDeep name position)
    else set { state with depth := state.depth + 1 } : Render Unit).run.run state = _
  split <;> rfl

/-- Compiling changes nothing but the views that are kept. -/
theorem Render.ofCompiling_run (action : Compiling α) (state : RenderState) :
    (Render.ofCompiling action).run.run state =
      match action.run.run state.store with
      | (.ok value, store) => (.ok value, { state with store })
      | (.error error, store) => (.error (.view error), { state with store }) := rfl

/-! ## Views -/

/-- The state in which the steps of a called view start: a call deeper, without
the caller's variables, and with layouts out of effect. -/
def RenderState.enterView (state : RenderState) (store : ViewStore) (fields : Table Value) :
    RenderState :=
  { state with
    store, depth := state.depth + 1, partialDepth := state.partialDepth + 1,
    context := .object fields, frames := [[]] }

/-- The state behind the call of a view, where `before` is the one before it:
context and variables are the caller's again. -/
def RenderState.leaveView (before state : RenderState) : RenderState :=
  { state with
    depth := state.depth - 1, partialDepth := state.partialDepth - 1,
    context := before.context, frames := before.frames }

/-- **A call of a view in closed form.** -/
theorem callView_run (environment : Environment) (execute : Executor) (path : String)
    (overrides : Option Value) (position : Position) (state : RenderState) :
    (callView environment execute path overrides position).run.run state =
      if maxDepth ≤ state.depth then (.error (.tooDeep path position), state)
      else
        match (environment.compileView path).run.run state.store with
        | (.error error, store) => (.error (.view error), { state with store })
        | (.ok view, store) =>
          match overriddenFields state.context overrides position with
          | .error error => (.error error, { state with store })
          | .ok fields =>
            let (result, after) := (execute view.serial view.program.steps).run.run
              (state.enterView store fields)
            (result, state.leaveView after) := by
  unfold callView
  rw [run_bind, Render.enter_run]
  by_cases full : maxDepth ≤ state.depth
  · simp only [if_pos full]
  · simp only [if_neg full, Render.alwaysThen_run, run_bind, Render.ofCompiling_run]
    rcases (environment.compileView path).run.run state.store with ⟨error | view, store⟩
    · rfl
    · simp only [run_get, run_set, run_ofExcept]
      cases overriddenFields state.context overrides position with
      | error error => rfl
      | ok fields => rfl

/-! ## Print blocks -/

/-- The state in which the steps of a called print block start: a call deeper,
with a target of its own and the arguments as its variables. -/
def RenderState.enterBlock (state : RenderState) (frame : Frame) : RenderState :=
  ({ state with depth := state.depth + 1 }.saveTarget).pushFrame frame

/-- The state behind the call of a print block: the newest target and frame end,
whatever the steps made of them. -/
def RenderState.leaveBlock (state : RenderState) : RenderState :=
  Render.leave state.popFrame.restoreTarget.2

/-- **A call of a print block in closed form.** -/
theorem callBlock_run (execute : Executor) (index : Nat) (arguments : List Value)
    (state : RenderState) :
    (callBlock execute index arguments).run.run state =
      match state.blocks[index]? with
      | none => (.error (.unboundBlock index), state)
      | some block =>
        if maxDepth ≤ state.depth then
          (.error (.failed (.tooDeep blockName block.position)), state)
        else
          let (result, after) := (execute block.origin block.body).run.run
            (state.enterBlock (argumentFrame block.parameters arguments))
          match result with
          | .error error => (.error (.failed error), after.leaveBlock)
          | .ok _ =>
            (.ok (.string ((after.popFrame.restoreTarget.1.map (·.default)).getD "")),
              after.leaveBlock) := by
  unfold callBlock
  simp only [run_bind, run_get]
  cases state.blocks[index]? with
  | none => rfl
  | some block =>
    simp only [captureBlock, run_bind, run_adapt, Render.enter_run]
    by_cases full : maxDepth ≤ state.depth
    · simp only [if_pos full]
      rfl
    · simp only [if_neg full, run_modify, run_modifyGet, Render.attempt_run, Render.inFrame_run]
      rw [RenderState.enterBlock]
      generalize (execute block.origin block.body).run.run _ = run
      rcases run with ⟨error | _, after⟩
      · rfl
      · rfl

end ViewTemplate
