import ViewTemplate.Proofs.Render.LayoutChain

/-!
# Isolation of views and layouts

What the variables of the place where a view is called have to do with the view: nothing.

Two states that differ in their frames only are told apart by any expression that reads a
variable.  A called view does not get to see the difference, since it starts in the same
state for both (`RenderState.enterView_withFrames`), and so does a layout that is applied
(`layoutTurn_withFrames`).  From there on the two runs are one, whatever the steps do, and
whatever print blocks they got hold of: a block has no frames of its own, it runs in those
that are there when it is called.  Behind a view each of the two callers has its frames
back; behind a layout there is no caller to go back to.

## Main Definitions

* `RenderState.withFrames` — a state with other frames
* `RenderState.SameButFrames` — two states that differ in their frames only
-/

namespace ViewTemplate

variable {environment : Environment}

/-! ## States with other frames -/

/-- The state with other frames. -/
def RenderState.withFrames (frames : List Frame) (state : RenderState) : RenderState :=
  { state with frames }

/-- **Two states differ in their frames only.** -/
def RenderState.SameButFrames (state other : RenderState) : Prop :=
  other = state.withFrames other.frames

namespace RenderState.SameButFrames

theorem refl (state : RenderState) : state.SameButFrames state := rfl

theorem withFrames (state : RenderState) (frames : List Frame) :
    state.SameButFrames (state.withFrames frames) := rfl

end RenderState.SameButFrames

/-- The steps of a called view start without the frames of the caller. -/
theorem RenderState.enterView_withFrames (state : RenderState) (frames : List Frame)
    (store : ViewStore) (fields : Table Value) :
    (state.withFrames frames).enterView store fields = state.enterView store fields := rfl

/-- The steps of a layout start without the frames that were there before. -/
theorem RenderState.enterLayout_withFrames (state : RenderState) (frames : List Frame)
    (store : ViewStore) (key : String) :
    (state.withFrames frames).enterLayout store key = state.enterLayout store key := rfl

/-! ## Views -/

/-- **The call of a view is isolated**, in whatever way its steps are executed: from a state
with other frames it has the same result, and behind it each caller has its frames. -/
theorem callView_withFrames (execute : Executor) (path : String) (overrides : Option Value)
    (position : Position) (state : RenderState) (frames : List Frame) :
    let run := (callView environment execute path overrides position).run.run
    run (state.withFrames frames) = ((run state).1, (run state).2.withFrames frames) ∧
      (run state).2.frames = state.frames := by
  intro run
  have closed (state : RenderState) := callView_run environment execute path overrides position
    state
  dsimp only [run]
  rw [closed, closed]
  -- Neither what decides about the call nor the state in which the view starts has frames in it.
  have depth : (state.withFrames frames).depth = state.depth := rfl
  have store : (state.withFrames frames).store = state.store := rfl
  have context : (state.withFrames frames).context = state.context := rfl
  rw [depth, store, context]
  by_cases full : maxDepth ≤ state.depth
  · rw [if_pos full, if_pos full]
    exact ⟨rfl, rfl⟩
  · rw [if_neg full, if_neg full]
    rcases (environment.compileView path).run.run state.store with ⟨error | view, store⟩
    · exact ⟨rfl, rfl⟩
    · dsimp only
      cases overriddenFields state.context overrides position with
      | error error => exact ⟨rfl, rfl⟩
      | ok fields =>
        dsimp only
        rw [RenderState.enterView_withFrames]
        exact ⟨rfl, rfl⟩

/-! ## Layouts -/

/-- What a turn does about a registered layout does not depend on frames, and no layout
that is applied sees them. -/
theorem layoutTurn_withFrames (state : RenderState) (frames : List Frame) :
    environment.layoutTurn (state.withFrames frames) =
      match environment.layoutTurn state with
      | .done => .done
      | .refused error after => .refused error (after.withFrames frames)
      | .entered key view entered => .entered key view entered := by
  unfold Environment.layoutTurn
  have pending : (state.withFrames frames).pendingLayout = state.pendingLayout := rfl
  have layouts : (state.withFrames frames).layouts = state.layouts := rfl
  have store : (state.withFrames frames).store = state.store := rfl
  rw [pending, layouts, store]
  cases state.pendingLayout with
  | none => rfl
  | some path =>
    dsimp only
    cases environment.source.resolve path with
    | error error => rfl
    | ok key =>
      dsimp only
      by_cases again : state.layouts.contains key = true
      · rw [if_pos again, if_pos again]
        rfl
      · rw [if_neg again, if_neg again]
        rcases (environment.compileView path).run.run state.store with ⟨error | view, store⟩
        · rfl
        · dsimp only
          rw [RenderState.enterLayout_withFrames]

/-- A turn that is refused leaves the frames alone. -/
theorem layoutTurn_refused_frames {state after : RenderState} {error : RenderError}
    (turn : environment.layoutTurn state = .refused error after) :
    after.frames = state.frames := by
  obtain ⟨store, rfl⟩ := layoutTurn_refused_state turn
  rfl

/-- **Layouts are isolated.**  From a state with other frames they have the same result and
leave the same state behind, but for frames that were never exchanged since no layout was
applied. -/
theorem applyLayouts_withFrames (budget : Nat) (state : RenderState) (frames : List Frame) :
    let run := (environment.applyLayouts budget).run.run
    (run (state.withFrames frames)).1 = (run state).1 ∧
      ((run (state.withFrames frames)).2 = (run state).2 ∨
        (run (state.withFrames frames)).2 = (run state).2.withFrames frames ∧
          (run state).2.frames = state.frames) := by
  intro run
  dsimp only [run]
  cases budget with
  | zero => exact ⟨rfl, .inr ⟨rfl, rfl⟩⟩
  | succ budget =>
    rw [applyLayouts_run, applyLayouts_run, layoutTurn_withFrames]
    cases turn : environment.layoutTurn state with
    | done => exact ⟨rfl, .inr ⟨rfl, rfl⟩⟩
    | refused error after => exact ⟨rfl, .inr ⟨rfl, layoutTurn_refused_frames turn⟩⟩
    | entered key view entered => exact ⟨rfl, .inl rfl⟩

/-! ## The whole render -/

/-- **Views and layouts are isolated from the variables around them.**  From two states that
differ in their frames only, the call of a view has the same result, and it leaves states
that again differ in their frames only, of which each has those that it had before; layouts
have the same result and leave states that differ in their frames at most. -/
theorem calls_isolated (environment : Environment) (state other : RenderState)
    (same : state.SameButFrames other) :
    (∀ (path : String) (overrides : Option Value) (position : Position),
      let run := (environment.calls.view path overrides position).run.run
      (run state).1 = (run other).1 ∧ (run state).2.SameButFrames (run other).2 ∧
        (run state).2.frames = state.frames ∧ (run other).2.frames = other.frames) ∧
    let run := environment.renderLayouts.run.run
    (run state).1 = (run other).1 ∧ (run state).2.SameButFrames (run other).2 := by
  rw [same]
  constructor
  · intro path overrides position
    obtain ⟨again, kept⟩ := @callView_withFrames environment (executeWithin environment maxDepth)
      path overrides position state other.frames
    have run : environment.calls.view path overrides position =
        callView environment (executeWithin environment maxDepth) path overrides position := rfl
    dsimp only
    rw [run, again]
    exact ⟨rfl, .withFrames _ _, kept, rfl⟩
  · obtain ⟨again, after | ⟨after, _⟩⟩ := @applyLayouts_withFrames environment
      (environment.source.viewCount + 1) state other.frames
    · exact ⟨again.symm, after ▸ .refl _⟩
    · exact ⟨again.symm, after ▸ .withFrames _ _⟩

/-- A view that prints what it finds under a name, by itself and through a block that it
has from the context: a variable of that name where it is called makes no difference. -/
theorem calls_isolated_block_from_context :
    let environment : Environment :=
      { options := {}, source := .memory [("peek", "{%= typeof secret %},{%= ask() %}")]
        functions := fun _ _ => .ok .null }
    let asks : BoundBlock :=
      ⟨0, .start, [], [.renderValue ⟨"", .start, .unary ⟨0, 0⟩ .typeof
        (.identifier ⟨0, 0⟩ "secret")⟩]⟩
    let state : RenderState :=
      { RenderState.start (.object [("ask", .function (.block 0))]) {} with blocks := [asks] }
    let other := state.withFrames [[("secret", .bool true)]]
    state.SameButFrames other ∧
      let run := (environment.calls.view "peek" none .start).run.run
      (run other).2.target.default = "undefined,undefined" ∧
        (run state).1 = (run other).1 ∧ (run state).2.SameButFrames (run other).2 ∧
          (run state).2.frames = [[]] ∧ (run other).2.frames = [[("secret", .bool true)]] := by
  intro environment asks state other
  have same : state.SameButFrames other := .withFrames _ _
  have printed : ((environment.calls.view "peek" none .start).run.run other).2.target.default =
      "undefined,undefined" := by
    decide +kernel
  exact ⟨same, printed, (calls_isolated environment state other same).1 "peek" none .start⟩

end ViewTemplate
