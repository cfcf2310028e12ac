import ViewTemplate.Proofs.Render.StepEffect
import ViewTemplate.Proofs.Views.Compilation
import ViewTemplate.Render.Layout

/-!
# Targets during executions

Output is written to the newest of a stack of targets.  Captured blocks and print
blocks put a target on the stack and take it off again, the first by two separate
steps of a program and the second inside a call.

An execution that returns leaves the stack as it was and only adds to the current
target (`appending`); an evaluation that returns adds nothing at all
(`evaluating`), since all that its print blocks write goes to targets of their
own.  Both hold for states whose print blocks and kept views are balanced, and
executions keep states so, on either exit: blocks come from programs, and so do
views.

Nothing is said here about the stack after a failure.  A captured block that fails
half way leaves its target where it is (`ViewTemplate.Proofs.Render.OpenCaptures`).

## Main Definitions

* `Target.Extends` — a target with more text at the end of each of its texts
* `RenderState.HoldsBalanced` — the print blocks and kept views of a state are balanced
-/

namespace ViewTemplate

variable {environment : Environment} {calls : Calls}

/-! ## Targets that grow -/

/-- **A target with more text**: each text continues the old one, and no slot is
missing. -/
structure Target.Extends (old new : Target) : Prop where
  default : ∃ added, new.default = old.default ++ added
  slots : ∀ name text, old.slots.get? name = some text →
    ∃ added, new.slots.get? name = some (text ++ added)
  layoutContent : new.layoutContent = old.layoutContent

namespace Target.Extends

variable {first second third : Target}

theorem refl (target : Target) : target.Extends target :=
  ⟨⟨"", by simp⟩, fun _ text found => ⟨"", by simpa using found⟩, rfl⟩

theorem trans (h : first.Extends second) (h' : second.Extends third) : first.Extends third where
  default := by
    obtain ⟨added, same⟩ := h.default
    obtain ⟨more, same'⟩ := h'.default
    exact ⟨added ++ more, by rw [same', same, String.append_assoc]⟩
  slots name text found := by
    obtain ⟨added, found'⟩ := h.slots name text found
    obtain ⟨more, found''⟩ := h'.slots name _ found'
    exact ⟨added ++ more, by rw [found'', String.append_assoc]⟩
  layoutContent := h'.layoutContent.trans h.layoutContent

end Target.Extends

theorem Target.append_extends (target : Target) (text : String) :
    target.Extends (target.append text) :=
  { Extends.refl target with default := ⟨text, rfl⟩ }

theorem Target.appendTo_extends (target : Target) (name text : String) :
    target.Extends (target.appendTo name text) where
  default := ⟨"", by simp [appendTo]⟩
  slots other old found := by
    by_cases same : name = other
    · subst same
      exact ⟨text, by simp [appendTo, Table.get?_set, slot, found]⟩
    · exact ⟨"", by simp [appendTo, Table.get?_set, same, found]⟩
  layoutContent := rfl

/-- What adds in each turn of a loop over slots adds in all of them. -/
theorem Target.Extends.foldl {add : Target → String × String → Target}
    (adds : ∀ target entry, Target.Extends target (add target entry)) (entries : Table String)
    (target : Target) : target.Extends (entries.foldl add target) := by
  induction entries generalizing target with
  | nil => exact .refl target
  | cons entry rest ih => exact (adds target entry).trans (ih _)

/-- Merging another target only adds. -/
theorem Target.merge_extends (target other : Target) (slot? : Option String) :
    target.Extends (target.merge other slot?) := by
  have slots := Extends.foldl (fun target entry => target.appendTo_extends entry.1 entry.2)
    other.slots target
  cases slot? with
  | none => exact slots.trans (append_extends _ _)
  | some name => exact slots.trans (appendTo_extends _ _ _)

/-! ## States that hold balanced programs -/

/-- **The print blocks and the kept views of a state are balanced.**  A print
block is only ever bound by a step of a program, and a view is only ever kept
when it was compiled. -/
structure RenderState.HoldsBalanced (state : RenderState) : Prop where
  blocks : ∀ block ∈ state.blocks, Balanced block.body
  store : state.store.HoldsBalanced

/-- Ending a print block binds no other and compiles nothing. -/
theorem RenderState.leaveBlock_holdsBalanced {state : RenderState} (h : state.HoldsBalanced) :
    state.leaveBlock.HoldsBalanced := by
  unfold leaveBlock restoreTarget
  cases state.popFrame.saved with
  | nil => exact ⟨h.blocks, h.store⟩
  | cons target saved => exact ⟨h.blocks, h.store⟩

/-- A render starts so. -/
theorem RenderState.start_holdsBalanced (context : Value) {store : ViewStore}
    (h : store.HoldsBalanced) : (RenderState.start context store).HoldsBalanced :=
  ⟨nofun, h⟩

/-! ## The two effects -/

/-- **Evaluations** that return leave the targets alone. -/
def evaluating : Effect RenderState where
  returns before after := before.HoldsBalanced →
    after.HoldsBalanced ∧ after.saved = before.saved ∧ after.target = before.target
  throws before after := before.HoldsBalanced → after.HoldsBalanced
  returns_refl _ holds := ⟨holds, rfl, rfl⟩
  returns_trans h h' holds :=
    have ⟨holds, saved, target⟩ := h holds
    have ⟨holds', saved', target'⟩ := h' holds
    ⟨holds', saved'.trans saved, target'.trans target⟩
  throws_refl _ holds := holds
  throws_after h h' holds := h' (h holds).1

/-- **Executions** that return leave the stack alone and add to the current target. -/
def appending : Effect RenderState where
  returns before after := before.HoldsBalanced →
    after.HoldsBalanced ∧ after.saved = before.saved ∧ before.target.Extends after.target
  throws before after := before.HoldsBalanced → after.HoldsBalanced
  returns_refl state holds := ⟨holds, rfl, .refl state.target⟩
  returns_trans h h' holds :=
    have ⟨holds, saved, target⟩ := h holds
    have ⟨holds', saved', target'⟩ := h' holds
    ⟨holds', saved'.trans saved, target.trans target'⟩
  throws_refl _ holds := holds
  throws_after h h' holds := h' (h holds).1

/-- An evaluation is an execution that adds nothing. -/
theorem Effect.Bounds.appending_of_evaluating {ε α : Type}
    {action : ExceptT ε (StateM RenderState) α} (h : evaluating.Bounds action) :
    appending.Bounds action :=
  h.mono
    (fun change holds =>
      have ⟨holds', saved, target⟩ := change holds
      ⟨holds', saved, target ▸ .refl _⟩)
    (fun change => change)

/-! ### Operations of the state -/

theorem evaluating_assign {state after : RenderState} {name : String} {value : Value}
    (h : state.assign? name value = some after) : evaluating.returns state after := by
  intro holds
  unfold RenderState.assign? at h
  cases found : RenderState.assignFrames? state.frames name value with
  | some frames =>
    simp only [found, Option.some.injEq] at h
    subst h
    exact ⟨⟨holds.blocks, holds.store⟩, rfl, rfl⟩
  | none =>
    simp only [found, Option.map_eq_some_iff] at h
    obtain ⟨fields, -, rfl⟩ := h
    exact ⟨⟨holds.blocks, holds.store⟩, rfl, rfl⟩

theorem evaluating_declare (state : RenderState) (name : String) (value : Value) :
    evaluating.returns state (state.declare name value) := by
  intro holds
  unfold RenderState.declare
  cases state.frames with
  | nil => exact ⟨holds, rfl, rfl⟩
  | cons frame rest => exact ⟨⟨holds.blocks, holds.store⟩, rfl, rfl⟩

theorem appending_state : StateKeeps appending where
  write state text holds :=
    ⟨⟨holds.blocks, holds.store⟩, rfl, state.target.append_extends text⟩
  assign h holds :=
    have ⟨holds', saved, target⟩ := evaluating_assign h holds
    ⟨holds', saved, target ▸ .refl _⟩
  declare state name value holds :=
    have ⟨holds', saved, target⟩ := evaluating_declare state name value holds
    ⟨holds', saved, target ▸ .refl _⟩
  popFrame _ h holds :=
    have ⟨holds', saved, target⟩ := h ⟨holds.blocks, holds.store⟩
    ⟨⟨holds'.blocks, holds'.store⟩, saved, target⟩
  popFrame_throws _ h holds :=
    have holds' := h ⟨holds.blocks, holds.store⟩
    ⟨holds'.blocks, holds'.store⟩

/-- Binding a block leaves the targets alone, and it holds for the block what holds for
its body. -/
theorem evaluating_bindBlock (block : BoundBlock) (inside : Balanced block.body)
    (state : RenderState) : evaluating.returns state (state.bindBlock block).2 := by
  intro holds
  unfold RenderState.bindBlock
  split
  · exact ⟨holds, rfl, rfl⟩
  · refine ⟨⟨fun other mem => ?_, holds.store⟩, rfl, rfl⟩
    rcases List.mem_append.mp mem with old | new
    · exact holds.blocks other old
    · rw [List.mem_singleton.mp new]
      exact inside

/-- A step that switches no target keeps to executions by itself; the block that
it may bind is one of the lists inside it. -/
theorem Step.ownChange_appending (origin : Nat) {step : Step} (keeps : ¬step.SwitchesTarget)
    (inside : ∀ body ∈ step.bodies, Balanced body) : step.OwnChange appending origin := by
  cases step with
  | saveTarget | mergeTarget slot => exact absurd trivial keeps
  | printBlock expression parameters body =>
    intro state holds
    have bound : Balanced body := inside body (by simp [bodies])
    obtain ⟨holds', saved, target⟩ :=
      evaluating_bindBlock ⟨origin, expression.position, parameters, body⟩ bound state holds
    exact ⟨holds', saved, target ▸ .refl _⟩
  | setLayout path =>
    exact fun state _ holds => ⟨⟨holds.blocks, holds.store⟩, rfl, .refl _⟩
  | _ => trivial

/-! ## Captures -/

theorem executeSteps_append (origin : Nat) (first rest : List Step) :
    executeSteps environment calls origin (first ++ rest) = (do
      executeSteps environment calls origin first
      executeSteps environment calls origin rest) := by
  induction first with
  | nil => simp
  | cons step others ih =>
    rw [List.cons_append, executeSteps_cons, executeSteps_cons, ih, bind_assoc]

/-- A capture and what follows it, as a sequence of two actions. -/
theorem executeSteps_capture (origin : Nat) (slot : String) (body rest : List Step) :
    executeSteps environment calls origin
        (.saveTarget :: (body ++ .mergeTarget slot :: rest)) = (do
      (do
        modify (·.saveTarget)
        executeSteps environment calls origin body
        modify (·.mergeTarget slot))
      executeSteps environment calls origin rest) := by
  rw [executeSteps_cons, executeSteps_append, executeSteps_cons]
  simp only [bind_assoc]
  rfl

/-- Ending a capture whose steps left the stack alone ends in the target it stands in. -/
theorem RenderState.mergeTarget_of_saved {state inner : RenderState}
    (saved : inner.saved = state.saveTarget.saved) (slot : String) :
    inner.mergeTarget slot =
      { inner with target := state.target.merge inner.target (some slot),
                   saved := state.saved } := by
  simp [mergeTarget, restoreTarget, saved, saveTarget]

/-- Ending a capture whose steps added to its target adds to the target it stands in. -/
theorem appending_mergeTarget {state after : RenderState}
    (h : appending.returns state.saveTarget after) (slot : String) :
    appending.returns state (after.mergeTarget slot) := by
  intro holds
  obtain ⟨holds', saved, -⟩ := h ⟨holds.blocks, holds.store⟩
  rw [RenderState.mergeTarget_of_saved saved]
  exact ⟨⟨holds'.blocks, holds'.store⟩, rfl,
    state.target.merge_extends after.target (some slot)⟩

/-- **A capture adds to the slots of the target it stands in.**  Its body writes to
a target of its own, under which the stack is the one before with the outer target
on top; so ending it finds just that target. -/
theorem capture_appending {body : Render Unit} (h : appending.Bounds body) (slot : String) :
    appending.Bounds (do
      modify (·.saveTarget)
      body
      modify (·.mergeTarget slot)) := by
  intro state
  rw [run_bind, run_modify]
  dsimp only
  rw [run_bind]
  have inside := h state.saveTarget
  generalize body.run.run state.saveTarget = result at inside ⊢
  rcases result with ⟨error | _, after⟩
  · exact fun holds => inside ⟨holds.blocks, holds.store⟩
  · exact appending_mergeTarget inside slot

/-! ## Steps and calls -/

/-- Balanced steps add, if the calls they make do: by induction on the derivation
that they are balanced, which is where a started target meets its end. -/
theorem executeSteps_appending (keeps : RenderKeeps environment calls appending) (origin : Nat)
    {steps : List Step} (balanced : Balanced steps) :
    appending.Bounds (executeSteps environment calls origin steps) := by
  induction balanced with
  | nil => exact .pure _
  | @step step rest leaves inside _ ihInside ihNext =>
    rw [executeSteps_cons]
    exact .bind (executeStep_bounds keeps step (Step.ownChange_appending origin leaves inside)
      ihInside) fun _ => ihNext
  | @capture slot body rest _ _ ihInside ihNext =>
    rw [executeSteps_capture]
    exact .bind (capture_appending ihInside slot) fun _ => ihNext

/-- What is allowed need only be shown of states that hold balanced programs. -/
theorem appending_of_holds {ε α : Type} {state : RenderState} {result : Except ε α × RenderState}
    (h : state.HoldsBalanced → appending.Allows state result) : appending.Allows state result := by
  rcases result with ⟨error | value, after⟩
  · exact fun holds => h holds holds
  · exact fun holds => h holds holds

/-- What the steps of a view add, its call adds. -/
theorem RenderState.leaveView_appending {state : RenderState} {store : ViewStore}
    {fields : Table Value} (kept : store.HoldsBalanced)
    {result : Except RenderError Unit × RenderState}
    (inside : appending.Allows (state.enterView store fields) result) :
    appending.Allows state (result.1, state.leaveView result.2) := by
  rcases result with ⟨error | _, after⟩
  · intro holds
    have holds' := inside ⟨holds.blocks, kept⟩
    exact ⟨holds'.blocks, holds'.store⟩
  · intro holds
    obtain ⟨holds', saved, target⟩ := inside ⟨holds.blocks, kept⟩
    exact ⟨⟨holds'.blocks, holds'.store⟩, saved, target⟩

/-- The call of a view adds what its steps add. -/
theorem callView_appending {execute : Executor}
    (steps : ∀ origin {steps}, Balanced steps → appending.Bounds (execute origin steps))
    (path : String) (overrides : Option Value) (position : Position) :
    appending.Bounds (callView environment execute path overrides position) := by
  refine fun state => appending_of_holds fun holds => ?_
  rw [callView_run]
  split
  · exact id
  · have compiled := compileView_balanced environment path holds.store
    generalize (environment.compileView path).run.run state.store = result at compiled ⊢
    rcases result with ⟨error | view, store⟩
    · exact fun _ => ⟨holds.blocks, compiled⟩
    · obtain ⟨balanced, kept⟩ := compiled
      dsimp only
      cases overriddenFields state.context overrides position with
      | error error => exact fun _ => ⟨holds.blocks, kept⟩
      | ok fields => exact RenderState.leaveView_appending kept (steps view.serial balanced _)

/-- Ending a print block whose steps left the stack alone brings back the target on top. -/
theorem RenderState.leaveBlock_of_saved {state : RenderState} {target : Target}
    {stack : List Target} (saved : state.saved = target :: stack) :
    state.leaveBlock.target = target ∧ state.leaveBlock.saved = stack := by
  simp [leaveBlock, Render.leave, popFrame, restoreTarget, saved]

/-- A print block that returned leaves the targets of its caller as they were. -/
theorem evaluating_leaveBlock {state after : RenderState} {frame : Frame}
    (h : appending.returns (state.enterBlock frame) after) :
    evaluating.returns state after.leaveBlock := by
  intro holds
  obtain ⟨holds', saved, -⟩ := h ⟨holds.blocks, holds.store⟩
  exact ⟨after.leaveBlock_holdsBalanced holds', (RenderState.leaveBlock_of_saved saved).symm⟩

/-- **The call of a print block leaves the targets alone.**  Its steps leave the
stack as they find it, with the caller's target on top, and ending the block's own
target brings that one back. -/
theorem callBlock_evaluating {execute : Executor}
    (steps : ∀ origin {steps}, Balanced steps → appending.Bounds (execute origin steps))
    (index : Nat) (arguments : List Value) :
    evaluating.Bounds (callBlock execute index arguments) := by
  intro state
  rw [callBlock_run]
  cases found : state.blocks[index]? with
  | none => exact id
  | some block =>
    dsimp only
    split
    · exact id
    · have inside := fun holds : state.HoldsBalanced =>
        steps block.origin (holds.blocks block (List.mem_of_getElem? found))
          (state.enterBlock (argumentFrame block.parameters arguments))
      generalize (execute block.origin block.body).run.run _ = result at inside ⊢
      rcases result with ⟨error | _, after⟩
      · intro holds
        have holds' := inside holds ⟨holds.blocks, holds.store⟩
        exact after.leaveBlock_holdsBalanced holds'
      · exact fun holds => evaluating_leaveBlock (inside holds) holds

/-- The scope of expressions leaves the targets alone, if what is called adds. -/
theorem scope_evaluating {execute : Executor}
    (steps : ∀ origin {steps}, Balanced steps → appending.Bounds (execute origin steps)) :
    (renderScope environment (callsBy environment execute)).Keeps evaluating where
  assign := evaluating_assign
  callBlock := callBlock_evaluating steps

/-- All that steps are made of adds, if what is called adds. -/
theorem callsBy_appending {execute : Executor}
    (steps : ∀ origin {steps}, Balanced steps → appending.Bounds (execute origin steps)) :
    RenderKeeps environment (callsBy environment execute) appending where
  toStateKeeps := appending_state
  evaluate expression :=
    (evaluateExpression_bounds (scope_evaluating steps) expression).appending_of_evaluating
  run action :=
    (runAction_bounds (scope_evaluating steps) evaluating_declare action).appending_of_evaluating
  view := callView_appending steps

/-- **Executions of balanced steps add on every level**, by induction on the levels
below. -/
theorem executeWithin_appending (levels origin : Nat) {steps : List Step}
    (balanced : Balanced steps) :
    appending.Bounds (executeWithin environment levels origin steps) := by
  induction levels generalizing origin steps with
  | zero => exact .pure _
  | succ levels ih =>
    exact executeSteps_appending (callsBy_appending fun origin _ => ih origin) origin balanced

/-! ## The whole render -/

/-- What evaluations do, read off at a state that holds balanced programs. -/
theorem evaluating_outcome {ε α : Type} {state : RenderState}
    {result : Except ε α × RenderState} (h : evaluating.Allows state result)
    (holds : state.HoldsBalanced) :
    result.2.HoldsBalanced ∧
      ∀ value, result.1 = .ok value →
        result.2.saved = state.saved ∧ result.2.target = state.target := by
  rcases result with ⟨error | value, after⟩
  · exact ⟨h holds, nofun⟩
  · exact ⟨(h holds).1, fun _ _ => (h holds).2⟩

/-- What executions do, read off at a state that holds balanced programs. -/
theorem appending_outcome {ε α : Type} {state : RenderState}
    {result : Except ε α × RenderState} (h : appending.Allows state result)
    (holds : state.HoldsBalanced) :
    result.2.HoldsBalanced ∧
      ∀ value, result.1 = .ok value →
        result.2.saved = state.saved ∧ state.target.Extends result.2.target := by
  rcases result with ⟨error | value, after⟩
  · exact ⟨h holds, nofun⟩
  · exact ⟨(h holds).1, fun _ _ => (h holds).2⟩

/-- **Executions that return leave the stack of targets as it was and only add to
the current one; evaluations that return add nothing.**  The steps are any list of
a compiled program, and the state is any that holds balanced programs, as the
state in which a render starts does (`RenderState.start_holdsBalanced`); it does so
again afterwards on either exit. -/
theorem execute_keeps_targets (environment : Environment) {document : Document}
    {program : Program} (compiled : document.compile = .ok program) {state : RenderState}
    (holds : state.HoldsBalanced) :
    (∀ (origin : Nat) (steps : List Step), program.HasList steps →
      let run := (environment.execute origin steps).run.run state
      run.2.HoldsBalanced ∧
        ∀ value, run.1 = .ok value →
          run.2.saved = state.saved ∧ state.target.Extends run.2.target) ∧
    (∀ expression : Expression,
      let run := (evaluateExpression environment environment.calls expression).run.run state
      run.2.HoldsBalanced ∧
        ∀ value, run.1 = .ok value →
          run.2.saved = state.saved ∧ run.2.target = state.target) ∧
    (∀ action : Action,
      let run := (runAction environment environment.calls action).run.run state
      run.2.HoldsBalanced ∧
        ∀ value, run.1 = .ok value →
          run.2.saved = state.saved ∧ run.2.target = state.target) := by
  have scope : (renderScope environment environment.calls).Keeps evaluating :=
    scope_evaluating fun origin _ => executeWithin_appending maxDepth origin
  refine ⟨fun origin steps inProgram => ?_, fun expression => ?_, fun action => ?_⟩
  · have balanced := inProgram.balanced (document.compile_balanced compiled)
    exact appending_outcome (executeWithin_appending (maxDepth + 1) origin balanced state) holds
  · exact evaluating_outcome (evaluateExpression_bounds scope expression state) holds
  · exact evaluating_outcome (runAction_bounds scope evaluating_declare action state) holds

/-- A view that prints a block in which content is captured for a slot: what the
block captures ends with its call, and only its text is added. -/
theorem execute_keeps_targets_printed_capture :
    let position : Position := .start
    let call : Expression := ⟨"$block()", position, .call ⟨0, 8⟩ (.identifier ⟨0, 6⟩ "$block") []⟩
    let body : List Step := [.saveTarget, .block [.text "x"], .mergeTarget "head", .text "y"]
    let document : Document := ⟨[.print position call
      (some ([], [.contentFor position "head" [.text position "x"], .text position "y"]))]⟩
    let program : Program := ⟨[.printBlock call [] body]⟩
    let environment : Environment :=
      { options := {}, source := .memory [], functions := fun _ _ => .ok .null }
    let state : RenderState := .start .undefined {}
    let run := (environment.execute 0 program.steps).run.run state
    document.compile = .ok program ∧ state.HoldsBalanced ∧ program.HasList program.steps ∧
      run.1 = .ok () ∧ run.2.saved = [] ∧ run.2.target = { default := "y" } ∧
      Target.Extends {} run.2.target := by
  intro position call body document program environment state run
  have compiled : document.compile = .ok program := rfl
  have holds : state.HoldsBalanced := RenderState.start_holdsBalanced _ nofun
  have returned : run.1 = .ok () := rfl
  have kept := ((execute_keeps_targets environment compiled holds).1 0 _ .steps).2 () returned
  exact ⟨compiled, holds, .steps, returned, kept.1, rfl, kept.2⟩

end ViewTemplate
