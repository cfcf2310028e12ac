import ViewTemplate.Proofs.Render.StepEffect

/-!
# What executions put back

A render exchanges parts of its state all the time — frames for bodies, contexts
for views, counters for calls — and every exchange is undone on the way out, also
when what happened in between failed.

`RenderState.Restored` lists what every execution leaves as it was, on both
exits.  Its last field is the reason why it can be proved at all: a called view
must leave the registered layout alone, and what makes it do so is the counter of
active views, which the steps inside it see as positive.  So the invariant speaks
of the layout only where that counter is, and the call of a view turns it into an
unconditional fact (`callView_restored`).

The proof follows the structure of execution: the parts of a step
(`executeStep_bounds`), all steps by induction on how they are nested, and all
calls by induction on the levels that remain.

## Main Definitions

* `RenderState.Restored` — what an execution leaves as it was
* `RenderState.CallerRestored` — what the call of a view leaves as it was besides
-/

namespace ViewTemplate

variable {environment : Environment} {calls : Calls}

/-! ## The relation -/

/-- **What every execution leaves as it was.** -/
structure RenderState.Restored (before after : RenderState) : Prop where
  frames : after.frames.length = before.frames.length
  depth : after.depth = before.depth
  partialDepth : after.partialDepth = before.partialDepth
  layouts : after.layouts = before.layouts
  /-- Blocks may be added at the end of the table. -/
  blocks : before.blocks <+: after.blocks
  /-- Inside a called view no layout is registered. -/
  pendingLayout : before.partialDepth ≠ 0 → after.pendingLayout = before.pendingLayout

namespace RenderState.Restored

variable {first second third : RenderState}

theorem refl (state : RenderState) : state.Restored state :=
  ⟨rfl, rfl, rfl, rfl, List.prefix_rfl, fun _ => rfl⟩

theorem trans (h : first.Restored second) (h' : second.Restored third) :
    first.Restored third where
  frames := h'.frames.trans h.frames
  depth := h'.depth.trans h.depth
  partialDepth := h'.partialDepth.trans h.partialDepth
  layouts := h'.layouts.trans h.layouts
  blocks := h.blocks.trans h'.blocks
  pendingLayout inside :=
    (h'.pendingLayout (h.partialDepth.symm ▸ inside)).trans (h.pendingLayout inside)

end RenderState.Restored

/-- Restoration as an effect: it does not depend on the exit. -/
def restoring : Effect RenderState where
  returns := RenderState.Restored
  throws := RenderState.Restored
  returns_refl := .refl
  returns_trans := .trans
  throws_refl := .refl
  throws_after := .trans

/-- What a restoring action leaves behind, whatever its result is. -/
theorem restoring_bounds_iff {ε α : Type} {action : ExceptT ε (StateM RenderState) α} :
    restoring.Bounds action ↔
      ∀ state : RenderState, state.Restored (action.run.run state).2 := by
  refine forall_congr' fun state => ?_
  generalize action.run.run state = result
  rcases result with ⟨error | value, after⟩
  · exact Iff.rfl
  · exact Iff.rfl

/-! ## Operations of the state -/

theorem RenderState.assignFrames?_length {frames after : List Frame} {name : String}
    {value : Value} (h : assignFrames? frames name value = some after) :
    after.length = frames.length := by
  induction frames generalizing after with
  | nil => simp [assignFrames?] at h
  | cons frame rest ih =>
    simp only [assignFrames?] at h
    cases updated : frame.update? name value with
    | some frame =>
      simp only [updated, Option.some.injEq] at h
      subst h
      rfl
    | none =>
      simp only [updated, Option.map_eq_some_iff] at h
      obtain ⟨others, found, rfl⟩ := h
      simp [ih found]

theorem RenderState.assign?_restored {state after : RenderState} {name : String} {value : Value}
    (h : state.assign? name value = some after) : state.Restored after := by
  unfold assign? at h
  cases found : assignFrames? state.frames name value with
  | some frames =>
    simp only [found, Option.some.injEq] at h
    subst h
    exact { Restored.refl state with frames := assignFrames?_length found }
  | none =>
    simp only [found, Option.map_eq_some_iff] at h
    obtain ⟨fields, -, rfl⟩ := h
    exact { Restored.refl state with }

theorem RenderState.declare_restored (state : RenderState) (name : String) (value : Value) :
    state.Restored (state.declare name value) := by
  unfold declare
  cases frames : state.frames with
  | nil => exact .refl state
  | cons frame rest => exact { Restored.refl state with frames := by simp [frames] }

theorem RenderState.popFrame_restored {state after : RenderState} (frame : Frame)
    (h : (state.pushFrame frame).Restored after) : state.Restored after.popFrame where
  frames := by
    have pushed := h.frames
    simp only [pushFrame, List.length_cons] at pushed
    simp [popFrame, pushed]
  depth := h.depth
  partialDepth := h.partialDepth
  layouts := h.layouts
  blocks := h.blocks
  pendingLayout := h.pendingLayout

theorem RenderState.mergeTarget_restored (state : RenderState) (slot : String) :
    state.Restored (state.mergeTarget slot) := by
  unfold mergeTarget restoreTarget
  cases state.saved with
  | nil => exact .refl state
  | cons target saved => exact { Restored.refl state with }

theorem RenderState.bindBlock_restored (state : RenderState) (block : BoundBlock) :
    state.Restored (state.bindBlock block).2 := by
  unfold bindBlock
  cases state.blocks.findIdx? (· == block) with
  | some index => exact .refl state
  | none => exact { Restored.refl state with blocks := List.prefix_append _ _ }

theorem restoring_state : StateKeeps restoring where
  write state _ := { RenderState.Restored.refl state with }
  assign := RenderState.assign?_restored
  declare := RenderState.declare_restored
  popFrame := RenderState.popFrame_restored
  popFrame_throws := RenderState.popFrame_restored

/-- Every kind of step restores by itself.  A layout is registered only where no
view is active, which is where the invariant does not mention it. -/
theorem Step.ownChange_restoring (origin : Nat) (step : Step) :
    step.OwnChange restoring origin := by
  cases step with
  | saveTarget => exact fun state => { RenderState.Restored.refl state with }
  | mergeTarget slot => exact fun state => state.mergeTarget_restored slot
  | printBlock expression parameters body => exact fun state => state.bindBlock_restored _
  | setLayout path =>
    exact fun state outside =>
      { RenderState.Restored.refl state with pendingLayout := fun inside => absurd outside inside }
  | _ => trivial

/-! ## Steps and calls -/

/-- Steps restore when the calls they make do. -/
theorem executeSteps_restoring (keeps : RenderKeeps environment calls restoring) (origin : Nat)
    (steps : List Step) : restoring.Bounds (executeSteps environment calls origin steps) :=
  executeSteps_bounds keeps fun step _ => step.ownChange_restoring origin

/-- What the call of a view leaves as it was besides. -/
structure RenderState.CallerRestored (before after : RenderState) : Prop
    extends before.Restored after where
  allFrames : after.frames = before.frames
  context : after.context = before.context
  allPendingLayout : after.pendingLayout = before.pendingLayout

/-- What a view's steps put back, its call puts back, and the caller's frames,
context and layout with it. -/
theorem RenderState.leaveView_restored {state after : RenderState} {store : ViewStore}
    {fields : Table Value} (h : (state.enterView store fields).Restored after) :
    state.CallerRestored (state.leaveView after) where
  frames := rfl
  depth := by simp [leaveView, h.depth, enterView]
  partialDepth := by simp [leaveView, h.partialDepth, enterView]
  layouts := h.layouts
  blocks := h.blocks
  pendingLayout _ := h.pendingLayout (Nat.succ_ne_zero _)
  allFrames := rfl
  context := rfl
  allPendingLayout := h.pendingLayout (Nat.succ_ne_zero _)

/-- **The call of a view gives the caller its state back**, if the view's steps
restore. -/
theorem callView_restored {execute : Executor}
    (steps : ∀ origin steps, restoring.Bounds (execute origin steps))
    (path : String) (overrides : Option Value) (position : Position) (state : RenderState) :
    state.CallerRestored
      ((callView environment execute path overrides position).run.run state).2 := by
  have kept (store : ViewStore) : state.CallerRestored { state with store } :=
    ⟨{ RenderState.Restored.refl state with }, rfl, rfl, rfl⟩
  rw [callView_run]
  split
  · exact kept state.store
  · rcases (environment.compileView path).run.run state.store with ⟨error | view, store⟩
    · exact kept store
    · dsimp only
      cases overriddenFields state.context overrides position with
      | error error => exact kept store
      | ok fields =>
        have inside := restoring_bounds_iff.mp (steps view.serial view.program.steps)
          (state.enterView store fields)
        exact RenderState.leaveView_restored inside

/-- Ending the newest target restores. -/
theorem RenderState.restoreTarget_restored (state : RenderState) :
    state.Restored state.restoreTarget.2 := by
  unfold restoreTarget
  cases state.saved with
  | nil => exact .refl state
  | cons target saved => exact { Restored.refl state with }

/-- What a print block's steps put back, its call puts back. -/
theorem RenderState.leaveBlock_restored {state after : RenderState} (frame : Frame)
    (h : (state.enterBlock frame).Restored after) : state.Restored after.leaveBlock := by
  have ended := (popFrame_restored frame h).trans (restoreTarget_restored after.popFrame)
  exact
    { frames := ended.frames
      depth := by simp [leaveBlock, Render.leave, ended.depth, saveTarget]
      partialDepth := ended.partialDepth
      layouts := ended.layouts
      blocks := ended.blocks
      pendingLayout := ended.pendingLayout }

/-- The call of a print block restores, if the block's steps do. -/
theorem callBlock_restoring {execute : Executor}
    (steps : ∀ origin steps, restoring.Bounds (execute origin steps))
    (index : Nat) (arguments : List Value) :
    restoring.Bounds (callBlock execute index arguments) := by
  intro state
  rw [callBlock_run]
  cases state.blocks[index]? with
  | none => exact .refl state
  | some block =>
    dsimp only
    split
    · exact .refl state
    · have inside := restoring_bounds_iff.mp (steps block.origin block.body)
        (state.enterBlock (argumentFrame block.parameters arguments))
      generalize (execute block.origin block.body).run.run _ = result at inside ⊢
      rcases result with ⟨error | value, after⟩
      · exact RenderState.leaveBlock_restored _ inside
      · exact RenderState.leaveBlock_restored _ inside

/-- All that steps are made of restores, if what is called restores. -/
theorem callsBy_restoring {execute : Executor}
    (steps : ∀ origin steps, restoring.Bounds (execute origin steps)) :
    RenderKeeps environment (callsBy environment execute) restoring :=
  .of_calls restoring_state (callBlock_restoring steps)
    fun path overrides position => restoring_bounds_iff.mpr fun state =>
      (callView_restored steps path overrides position state).toRestored

/-- **Executions restore on every level**, by induction on the levels below. -/
theorem executeWithin_restoring (environment : Environment) (levels origin : Nat)
    (steps : List Step) :
    restoring.Bounds (executeWithin environment levels origin steps) := by
  induction levels generalizing origin steps with
  | zero => exact .pure _
  | succ levels ih => exact executeSteps_restoring (callsBy_restoring ih) origin steps

/-! ## The whole render -/

/-- **Executions put back what they exchange.**  Whatever the steps, and on
either exit, an execution leaves the number of frames, both counters and the
applied layouts as they were, and the table of blocks only grows at its end.  The
call of a view leaves all frames, the context and the registered layout besides. -/
theorem execute_restores (environment : Environment) (state : RenderState) :
    (∀ (origin : Nat) (steps : List Step),
      let after := ((environment.execute origin steps).run.run state).2
      after.frames.length = state.frames.length ∧ after.depth = state.depth ∧
        after.partialDepth = state.partialDepth ∧ after.layouts = state.layouts ∧
        state.blocks <+: after.blocks) ∧
    (∀ (path : String) (overrides : Option Value) (position : Position),
      let after := ((environment.calls.view path overrides position).run.run state).2
      after.depth = state.depth ∧
        after.partialDepth = state.partialDepth ∧ after.layouts = state.layouts ∧
        state.blocks <+: after.blocks ∧ after.frames = state.frames ∧
        after.context = state.context ∧ after.pendingLayout = state.pendingLayout) := by
  refine ⟨fun origin steps => ?_, fun path overrides position => ?_⟩
  · have h := restoring_bounds_iff.mp
      (executeWithin_restoring environment (maxDepth + 1) origin steps) state
    exact ⟨h.frames, h.depth, h.partialDepth, h.layouts, h.blocks⟩
  · have h : state.CallerRestored
        ((environment.calls.view path overrides position).run.run state).2 :=
      callView_restored (executeWithin_restoring environment maxDepth) path overrides position
        state
    exact ⟨h.depth, h.partialDepth, h.layouts, h.blocks, h.allFrames, h.context,
      h.allPendingLayout⟩

end ViewTemplate
