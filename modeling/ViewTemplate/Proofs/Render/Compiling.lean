import ViewTemplate.Proofs.Render.Declarations
import ViewTemplate.Proofs.Render.LayoutChain
import ViewTemplate.Proofs.Views.Compilations

/-!
# Views compiled by renders

What a render does to the compiled views: it compiles some, one after the other, and nothing
else.

Views are compiled where they are called, where a layout is applied, and where a render
starts, and each of these may fail before or after.  Everything else that a render does leaves
the compiled views alone.  So on either exit there are compilations that lead from the store
before to the store behind (`compiling`), however the render came to its end.

## Main Definitions

* `compiling` — the effect of compiling views
* `Effect.onStore` — an effect on the compiled views, as one on the state of a render
-/

namespace ViewTemplate

variable {environment : Environment} {views : Table String}

/-- **Compiling views**, on either exit. -/
def compiling (environment : Environment) (views : Table String) : Effect ViewStore where
  returns before after := ∃ events, environment.Compiles views before events after
  throws before after := ∃ events, environment.Compiles views before events after
  returns_refl _ := ⟨[], .nil⟩
  returns_trans h h' :=
    have ⟨_, compiles⟩ := h
    have ⟨_, compiles'⟩ := h'
    ⟨_, compiles.trans compiles'⟩
  throws_refl _ := ⟨[], .nil⟩
  throws_after h h' :=
    have ⟨_, compiles⟩ := h
    have ⟨_, compiles'⟩ := h'
    ⟨_, compiles.trans compiles'⟩

/-- An effect on the compiled views, of what works with the state of a render. -/
def Effect.onStore (effect : Effect ViewStore) : Effect RenderState where
  returns before after := effect.returns before.store after.store
  throws before after := effect.throws before.store after.store
  returns_refl state := effect.returns_refl state.store
  returns_trans := effect.returns_trans
  throws_refl state := effect.throws_refl state.store
  throws_after := effect.throws_after

/-! ## Compilations -/

theorem compileView_compiling (path : String) :
    (compiling environment views).Bounds ((environment.over views).compileView path) := by
  intro store
  rcases compiled : ((environment.over views).compileView path).run.run store with
    ⟨error | view, after⟩
  · obtain rfl := compileView_over_error compiled
    exact ⟨[], .nil⟩
  · exact ⟨_, .view compiled .nil⟩

theorem compileAnew_compiling (name text : String) :
    (compiling environment views).Bounds (environment.compileAnew name text) := by
  intro store
  rcases compiled : (environment.compileAnew name text).run.run store with ⟨error | view, after⟩
  · rw [compileAnew_run] at compiled
    split at compiled
    · cases compiled
      exact ⟨[], .nil⟩
    · cases compiled
  · exact ⟨_, .source compiled .nil⟩

/-! ## Executions -/

section

variable {effect : Effect ViewStore}

theorem onStore_of_eq {before after : RenderState} (store : after.store = before.store) :
    effect.onStore.returns before after := by
  change effect.returns before.store after.store
  rw [store]
  exact effect.returns_refl before.store

/-- The operations of the state leave the compiled views alone. -/
theorem onStore_state : StateKeeps effect.onStore where
  write _ _ := onStore_of_eq rfl
  assign h := by
    rw [RenderState.assign?_eq h]
    exact onStore_of_eq rfl
  declare state name value := by
    rw [state.declare_eq]
    exact onStore_of_eq rfl
  popFrame _ h := h
  popFrame_throws _ h := h

/-- So does every step by itself. -/
theorem Step.ownChange_onStore (origin : Nat) (step : Step) :
    step.OwnChange effect.onStore origin := by
  cases step with
  | saveTarget => exact fun state => onStore_of_eq rfl
  | mergeTarget slot =>
    intro state
    rw [state.mergeTarget_eq]
    exact onStore_of_eq rfl
  | printBlock expression parameters body =>
    intro state
    unfold RenderState.bindBlock
    split
    · exact onStore_of_eq rfl
    · exact onStore_of_eq rfl
  | setLayout path => exact fun state _ => onStore_of_eq rfl
  | _ => trivial

/-- What is done with the compiled views in a render does the same to them. -/
theorem ofCompiling_onStore {α : Type} {action : Compiling α} (h : effect.Bounds action) :
    effect.onStore.Bounds (Render.ofCompiling action) := by
  intro state
  rw [Render.ofCompiling_run]
  have allowed := h state.store
  generalize action.run.run state.store = result at allowed ⊢
  rcases result with ⟨error | value, store⟩
  · exact allowed
  · exact allowed

/-- A change that leaves the compiled views alone does so on either exit. -/
theorem alwaysThen_onStore {α : Type} {change : RenderState → RenderState} {action : Render α}
    (blind : ∀ state, (change state).store = state.store) (h : effect.onStore.Bounds action) :
    effect.onStore.Bounds (Render.alwaysThen change action) := by
  intro state
  rw [Render.alwaysThen_run]
  have allowed := h state
  generalize action.run.run state = result at allowed ⊢
  rcases result with ⟨error | value, after⟩
  · change effect.throws state.store (change after).store
    rw [blind]
    exact allowed
  · change effect.returns state.store (change after).store
    rw [blind]
    exact allowed

/-- The call of a print block does to the compiled views what its steps do. -/
theorem callBlock_onStore {execute : Executor}
    (steps : ∀ origin steps, effect.onStore.Bounds (execute origin steps))
    (index : Nat) (arguments : List Value) :
    effect.onStore.Bounds (callBlock execute index arguments) := by
  intro state
  rw [callBlock_run]
  cases state.blocks[index]? with
  | none => exact effect.throws_refl state.store
  | some block =>
    dsimp only
    split
    · exact effect.throws_refl state.store
    · have inside := steps block.origin block.body
        (state.enterBlock (argumentFrame block.parameters arguments))
      have left (after : RenderState) : after.leaveBlock.store = after.store := by
        rw [RenderState.leaveBlock, RenderState.restoreTarget_eq]
        rfl
      generalize (execute block.origin block.body).run.run _ = result at inside ⊢
      rcases result with ⟨error | _, after⟩
      · change effect.throws state.store after.leaveBlock.store
        rw [left]
        exact inside
      · change effect.returns state.store after.leaveBlock.store
        rw [left]
        exact inside

end

/-- The call of a view compiles it, and what its steps compile. -/
theorem callView_compiling {execute : Executor}
    (steps : ∀ origin steps,
      (compiling environment views).onStore.Bounds (execute origin steps))
    (path : String) (overrides : Option Value) (position : Position) :
    (compiling environment views).onStore.Bounds
      (callView (environment.over views) execute path overrides position) := by
  intro state
  rw [callView_run]
  split
  · exact ⟨[], .nil⟩
  · have compiled := @compileView_compiling environment views path state.store
    generalize ((environment.over views).compileView path).run.run state.store = result
      at compiled ⊢
    rcases result with ⟨error | view, store⟩
    · exact compiled
    · dsimp only
      cases overriddenFields state.context overrides position with
      | error error => exact compiled
      | ok fields =>
        dsimp only
        have inside := steps view.serial view.program.steps (state.enterView store fields)
        generalize (execute view.serial view.program.steps).run.run _ = result at inside ⊢
        rcases result with ⟨error | _, after⟩
        · exact (compiling environment views).throws_after compiled inside
        · exact (compiling environment views).returns_trans compiled inside

/-- **Executions compile views and do nothing else to them**, by induction on the levels
below. -/
theorem executeWithin_compiling (environment : Environment) (views : Table String)
    (levels origin : Nat) (steps : List Step) :
    (compiling environment views).onStore.Bounds
      (executeWithin (environment.over views) levels origin steps) := by
  induction levels generalizing origin steps with
  | zero => exact .pure _
  | succ levels ih =>
    refine executeSteps_bounds (.of_calls onStore_state ?_ ?_) fun step _ =>
      step.ownChange_onStore origin
    · exact callBlock_onStore ih
    · exact callView_compiling ih

/-! ## Renders -/

/-- Layouts are compiled when they are applied, and compile what their steps do. -/
theorem applyLayouts_compiling (environment : Environment) (views : Table String) (budget : Nat) :
    (compiling environment views).onStore.Bounds
      ((environment.over views).applyLayouts budget) := by
  induction budget with
  | zero => exact .throw _
  | succ budget ih =>
    refine .bind (.modifyGet fun state => onStore_of_eq rfl) fun path? => ?_
    cases path? with
    | none => exact .pure _
    | some path =>
      have resolved : (compiling environment views).onStore.Bounds (MonadExcept.ofExcept
          (((environment.over views).source.resolve path).mapError .view) : Render String) := by
        cases (environment.over views).source.resolve path with
        | error error => exact .throw _
        | ok key => exact .pure _
      refine .bind resolved fun key => .get_bind fun state => ?_
      change (compiling environment views).onStore.Allows state
        ((if state.layouts.contains key then throw _ else _ : Render Unit).run.run state)
      split
      · exact ⟨[], .nil⟩
      · have applied (layouts : List String) : (compiling environment views).onStore.Bounds (do
            let view ← Render.ofCompiling ((environment.over views).compileView path)
            modify fun state =>
              { state with layouts, target := state.target.startLayout, frames := [[]] }
            (environment.over views).execute view.serial view.program.steps
            (environment.over views).applyLayouts budget : Render Unit) :=
          .bind (ofCompiling_onStore (compileView_compiling path)) fun view =>
            .bind (.modify fun state => onStore_of_eq rfl) fun _ =>
              .bind (executeWithin_compiling environment views _ _ _) fun _ => ih
        exact applied _ state

/-- A full render of a view compiles what its steps and layouts do. -/
theorem renderView_compiling (environment : Environment) (views : Table String)
    (view : CompiledView) :
    (compiling environment views).onStore.Bounds ((environment.over views).renderView view) := by
  have rest : (compiling environment views).onStore.Bounds (do
      (environment.over views).execute view.serial view.program.steps
      (environment.over views).renderLayouts : Render Unit) :=
    .bind (executeWithin_compiling environment views _ _ _) fun _ =>
      applyLayouts_compiling environment views _
  unfold Environment.renderView
  cases (environment.over views).options.defaultLayout with
  | none => exact rest
  | some path => exact .bind (.modify fun state => onStore_of_eq rfl) fun _ => rest

/-- A render of a view without layouts compiles what its steps do. -/
theorem renderPart_compiling (environment : Environment) (views : Table String)
    (view : CompiledView) :
    (compiling environment views).onStore.Bounds ((environment.over views).renderPart view) := by
  have inside := executeWithin_compiling environment views (maxDepth + 1) view.serial
    view.program.steps
  exact .bind (.modify fun state => onStore_of_eq rfl) fun _ =>
    alwaysThen_onStore (fun state => rfl) inside

/-- The text of a render starts from the compiled views and leaves those of the render. -/
theorem textOf_bounds {effect : Effect ViewStore} {action : Render Unit}
    (h : effect.onStore.Bounds action) (context : Value) :
    effect.Bounds (Environment.textOf context action) := by
  intro store
  rw [textOf_run]
  have allowed := h (.start context store)
  generalize action.run.run (.start context store) = result at allowed ⊢
  rcases result with ⟨error | _, after⟩
  · exact allowed
  · exact allowed

end ViewTemplate
