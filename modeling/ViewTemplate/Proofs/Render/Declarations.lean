import ViewTemplate.Proofs.Render.Restoration
import ViewTemplate.Proofs.Views.Programs
import ViewTemplate.Render.Layout

/-!
# Layouts registered by executions

A program can declare a layout in its first step only, and no print block can.  So
what a view registers can be read off its program: whatever its other steps do,
and whatever views and blocks they call, they leave the registered layout alone
(`executeSteps_keepingLayout`).

Called views may well declare layouts.  What makes their declarations void is the
counter of active views, which is positive inside a call; the first step of a
program looks at it (`executeWithin_declaring`).

Blocks and views come from programs that were compiled, so the invariant that
carries the induction also speaks of the programs that a state holds
(`RenderState.Holds`): the bodies of its blocks declare no layout, and its kept
views declare theirs first.  That compiling a view changes the program of no path
is recorded beside it, since both are known of the same executions.

## Main Definitions

* `RenderState.Holds` — the programs and blocks that a state holds have properties
* `RenderState.HoldsLayouts` — they declare layouts in first steps only
* `keepingLayout` — the effect of leaving the registered layout alone
-/

namespace ViewTemplate

variable {environment : Environment} {calls : Calls}

/-! ## Programs of a state -/

/-- **The programs that a state holds**: the views that are kept have one property, and
the bodies of print blocks another. -/
structure RenderState.Holds (programs bodies : List Step → Prop) (state : RenderState) :
    Prop where
  blocks : ∀ block ∈ state.blocks, bodies block.body
  store : state.store.Holds programs

/-- An assignment changes variables and nothing else. -/
theorem RenderState.assign?_eq {state after : RenderState} {name : String} {value : Value}
    (h : state.assign? name value = some after) :
    after = { state with frames := after.frames, context := after.context } := by
  unfold assign? at h
  cases found : assignFrames? state.frames name value with
  | some frames =>
    simp only [found, Option.some.injEq] at h
    rw [← h]
  | none =>
    simp only [found, Option.map_eq_some_iff] at h
    obtain ⟨fields, -, same⟩ := h
    rw [← same]

/-- A declaration changes the innermost frame and nothing else. -/
theorem RenderState.declare_eq (state : RenderState) (name : String) (value : Value) :
    state.declare name value = { state with frames := (state.declare name value).frames } := by
  unfold declare
  cases state.frames with
  | nil => rfl
  | cons frame rest => rfl

/-- Ending a target changes targets and nothing else. -/
theorem RenderState.restoreTarget_eq (state : RenderState) :
    state.restoreTarget.2 =
      { state with
        target := state.restoreTarget.2.target, saved := state.restoreTarget.2.saved } := by
  unfold restoreTarget
  split
  · rfl
  · rfl

/-- Capturing for a slot changes targets and nothing else. -/
theorem RenderState.mergeTarget_eq (state : RenderState) (slot : String) :
    state.mergeTarget slot =
      { state with
        target := (state.mergeTarget slot).target, saved := (state.mergeTarget slot).saved } := by
  unfold mergeTarget restoreTarget
  cases state.saved with
  | nil => rfl
  | cons target rest => rfl

/-- Binding a block adds one with its body at most. -/
theorem RenderState.bindBlock_holds {programs bodies : List Step → Prop} {state : RenderState}
    (h : state.Holds programs bodies) {block : BoundBlock} (body : bodies block.body) :
    (state.bindBlock block).2.Holds programs bodies := by
  unfold bindBlock
  split
  · exact h
  · refine ⟨fun other mem => ?_, h.store⟩
    rcases List.mem_append.mp mem with old | new
    · exact h.blocks other old
    · rw [List.mem_singleton.mp new]
      exact body

/-! ## Declarations -/

/-- A list of steps that declares a layout in its first step or not at all. -/
def Step.LayoutFirst (steps : List Step) : Prop :=
  Program.LayoutFirst ⟨steps⟩

/-- **The programs that a state holds declare layouts in first steps only.** -/
def RenderState.HoldsLayouts : RenderState → Prop :=
  RenderState.Holds Step.LayoutFirst Step.LayoutFree

/-- The program of a source declares a layout in its first step or not at all. -/
theorem compileSource_layoutFirst (environment : Environment) (name source : String) :
    Yields (environment.compileSource name source) Program.LayoutFirst := by
  have read : Yields ((Document.parse environment.options.lexical source).mapError
      (ViewError.parse name)) Document.Formed :=
    .mapError _ fun _ parsed => Document.parse_formed parsed
  refine .bind read fun document formed => .mapError _ ?_
  obtain ⟨program, compiled, first⟩ := formed.compiles
  rw [compiled]
  exact .pure first

theorem makes_layoutFirst (environment : Environment) :
    environment.Makes Step.LayoutFirst :=
  fun key source program _ compiled =>
    compileSource_layoutFirst environment key source program compiled

/-- The bodies inside steps that declare no layout declare none. -/
theorem Step.LayoutFree.of_occurs {steps body : List Step} {step : Step}
    (free : Step.LayoutFree steps) (occurs : step.Occurs steps) (direct : body ∈ step.bodies) :
    Step.LayoutFree body :=
  fun path inner => free path (occurs.of_mem_bodies direct inner)

/-! ## Executions that leave the layout alone -/

/-- **Leaving the registered layout alone**, in states whose programs declare layouts in
first steps only, and changing the program of no path. -/
def keepingLayout (environment : Environment) : Effect RenderState where
  returns before after := before.HoldsLayouts →
    after.HoldsLayouts ∧ after.pendingLayout = before.pendingLayout ∧
      environment.SamePrograms before.store after.store
  throws _ _ := True
  returns_refl state holds := ⟨holds, rfl, .refl state.store⟩
  returns_trans h h' holds :=
    have ⟨holds, layout, same⟩ := h holds
    have ⟨holds', layout', same'⟩ := h' holds
    ⟨holds', layout'.trans layout, same.trans same'⟩
  throws_refl _ := trivial
  throws_after _ _ := trivial

/-- A change that touches neither blocks nor store nor layout. -/
theorem keepingLayout_of_eq {before after : RenderState} (blocks : after.blocks = before.blocks)
    (store : after.store = before.store) (layout : after.pendingLayout = before.pendingLayout) :
    (keepingLayout environment).returns before after := by
  intro holds
  refine ⟨⟨?_, ?_⟩, layout, ?_⟩
  · rw [blocks]
    exact holds.blocks
  · rw [store]
    exact holds.store
  · rw [store]
    exact .refl before.store

theorem keepingLayout_state : StateKeeps (keepingLayout environment) where
  write _ _ := keepingLayout_of_eq rfl rfl rfl
  assign h := by
    rw [RenderState.assign?_eq h]
    exact keepingLayout_of_eq rfl rfl rfl
  declare state name value := by
    rw [state.declare_eq]
    exact keepingLayout_of_eq rfl rfl rfl
  popFrame _ h holds :=
    have ⟨holds', layout, same⟩ := h ⟨holds.blocks, holds.store⟩
    ⟨⟨holds'.blocks, holds'.store⟩, layout, same⟩
  popFrame_throws _ _ := trivial

/-- A step that stands among steps that declare no layout leaves the layout alone by
itself; the block that it may bind declares none. -/
theorem Step.ownChange_keepingLayout (origin : Nat) {step : Step} {steps : List Step}
    (free : Step.LayoutFree steps) (occurs : step.Occurs steps) :
    step.OwnChange (keepingLayout environment) origin := by
  cases step with
  | saveTarget => exact fun state => keepingLayout_of_eq rfl rfl rfl
  | mergeTarget slot =>
    intro state
    rw [state.mergeTarget_eq]
    exact keepingLayout_of_eq rfl rfl rfl
  | printBlock expression parameters body =>
    intro state holds
    have inside : Step.LayoutFree body := free.of_occurs occurs List.mem_cons_self
    refine ⟨RenderState.bindBlock_holds holds inside, ?_, ?_⟩
    · unfold RenderState.bindBlock
      split
      · rfl
      · rfl
    · unfold RenderState.bindBlock
      split
      · exact .refl _
      · exact .refl _
  | setLayout path => exact absurd occurs (free path)
  | _ => trivial

/-! ## Calls -/

/-- The call of a print block leaves the layout alone, if the steps of blocks do. -/
theorem callBlock_keepingLayout {execute : Executor}
    (steps : ∀ origin {steps}, Step.LayoutFree steps →
      (keepingLayout environment).Bounds (execute origin steps))
    (index : Nat) (arguments : List Value) :
    (keepingLayout environment).Bounds (callBlock execute index arguments) := by
  intro state
  rw [callBlock_run]
  cases found : state.blocks[index]? with
  | none => exact trivial
  | some block =>
    dsimp only
    split
    · exact trivial
    · have inside := fun holds : state.HoldsLayouts =>
        steps block.origin (holds.blocks block (List.mem_of_getElem? found))
          (state.enterBlock (argumentFrame block.parameters arguments))
      generalize (execute block.origin block.body).run.run _ = result at inside ⊢
      rcases result with ⟨error | _, after⟩
      · exact trivial
      · intro holds
        obtain ⟨holds', layout, same⟩ := inside holds ⟨holds.blocks, holds.store⟩
        rw [RenderState.leaveBlock, RenderState.restoreTarget_eq]
        exact ⟨⟨holds'.blocks, holds'.store⟩, layout, same⟩

/-- The call of a view leaves the layout alone, if the programs of views do where a view is
active. -/
theorem callView_keepingLayout {execute : Executor}
    (programs : ∀ origin {steps}, Step.LayoutFirst steps →
      ∀ state : RenderState, state.partialDepth ≠ 0 →
        (keepingLayout environment).Allows state ((execute origin steps).run.run state))
    (path : String) (overrides : Option Value) (position : Position) :
    (keepingLayout environment).Bounds
      (callView environment execute path overrides position) := by
  intro state
  rw [callView_run]
  split
  · exact trivial
  · have compiled := fun holds : state.HoldsLayouts =>
      compileView_holds (makes_layoutFirst environment) path holds.store
    have same := compileView_samePrograms environment path state.store
    generalize (environment.compileView path).run.run state.store = result at compiled same ⊢
    rcases result with ⟨error | view, store⟩
    · exact trivial
    · dsimp only
      cases overriddenFields state.context overrides position with
      | error error => exact trivial
      | ok fields =>
        dsimp only
        have inside := fun holds : state.HoldsLayouts =>
          programs view.serial (compiled holds).1 (state.enterView store fields)
            (Nat.succ_ne_zero _)
        generalize (execute view.serial view.program.steps).run.run _ = result at inside ⊢
        rcases result with ⟨error | _, after⟩
        · exact trivial
        · intro holds
          obtain ⟨holds', layout, same'⟩ := inside holds ⟨holds.blocks, (compiled holds).2⟩
          exact ⟨⟨holds'.blocks, holds'.store⟩, layout, same.trans same'⟩

/-! ## Programs -/

/-- A declaration at the head of a program is heeded where no view is active. -/
theorem executeWithin_setLayout (levels origin : Nat) (path : String) (rest : List Step)
    (state : RenderState) :
    (executeWithin environment (levels + 1) origin (.setLayout path :: rest)).run.run state =
      (executeWithin environment (levels + 1) origin rest).run.run
        (if state.partialDepth = 0 then state.setLayout path else state) := by
  rw [executeWithin, executeSteps_cons, run_bind]
  rfl

/-- Steps that declare no layout leave it alone when what they call does. -/
theorem executeSteps_keepingLayout
    (keeps : RenderKeeps environment calls (keepingLayout environment)) (origin : Nat)
    {steps : List Step} (free : Step.LayoutFree steps) :
    (keepingLayout environment).Bounds (executeSteps environment calls origin steps) :=
  executeSteps_bounds keeps fun _ occurs => Step.ownChange_keepingLayout origin free occurs

/-- **Steps that declare no layout leave it alone on every level**, by induction on the
levels below. -/
theorem executeWithin_keepingLayout (levels origin : Nat) {steps : List Step}
    (free : Step.LayoutFree steps) :
    (keepingLayout environment).Bounds (executeWithin environment levels origin steps) := by
  induction levels generalizing origin steps with
  | zero => exact .pure _
  | succ levels ih =>
    refine executeSteps_keepingLayout (.of_calls keepingLayout_state ?_ ?_) origin free
    · exact callBlock_keepingLayout fun origin _ => ih origin
    · refine callView_keepingLayout fun origin steps first state inside => ?_
      obtain ⟨layout, rest, rfl, free⟩ := first
      cases levels with
      | zero => exact (keepingLayout environment).returns_refl state
      | succ levels =>
        cases layout with
        | none => exact ih origin free state
        | some path =>
          change (keepingLayout environment).Allows state
            ((executeWithin environment (levels + 1) origin (.setLayout path :: rest)).run.run
              state)
          rw [executeWithin_setLayout, if_neg inside]
          exact ih origin free state

/-- **What a view registers.**  Behind a program that was executed where no view is
active, the registered layout is the one from before, or else the one that the
program declares. -/
theorem execute_declares {program : Program} (first : program.LayoutFirst) (origin : Nat)
    {state after : RenderState} (outside : state.partialDepth = 0) (holds : state.HoldsLayouts)
    (returned : (environment.execute origin program.steps).run.run state = (.ok (), after)) :
    after.HoldsLayouts ∧ after.pendingLayout = state.pendingLayout.or program.layout? ∧
      environment.SamePrograms state.store after.store := by
  obtain ⟨layout, rest, split, free⟩ := first
  have kept (state : RenderState) :
      (keepingLayout environment).Allows state
        ((environment.execute origin rest).run.run state) :=
    executeWithin_keepingLayout (maxDepth + 1) origin free state
  have declared : program.layout? = layout := by
    rw [Program.layout?, split]
    cases layout with
    | some path => rfl
    | none =>
      -- The first of the other steps is no declaration.
      cases rest with
      | nil => rfl
      | cons step rest =>
        cases step with
        | setLayout path => exact absurd (.here List.mem_cons_self) (free path)
        | _ => rfl
  rw [split] at returned
  rw [declared]
  cases layout with
  | none =>
    have allowed := kept state
    rw [show (environment.execute origin rest).run.run state = (.ok (), after) from returned]
      at allowed
    rw [Option.or_none]
    exact allowed holds
  | some path =>
    change (environment.execute origin (.setLayout path :: rest)).run.run state = _ at returned
    rw [Environment.execute, executeWithin_setLayout, if_pos outside] at returned
    have allowed := kept (state.setLayout path)
    rw [Environment.execute, returned] at allowed
    obtain ⟨holds', layout, same⟩ := allowed ⟨holds.blocks, holds.store⟩
    refine ⟨holds', layout.trans ?_, same⟩
    rw [RenderState.setLayout]
    cases state.pendingLayout with
    | none => rfl
    | some path => rfl

end ViewTemplate
