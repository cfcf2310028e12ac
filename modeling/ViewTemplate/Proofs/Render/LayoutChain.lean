import Mathlib.Data.List.Perm.Subperm
import ViewTemplate.Proofs.Render.Restoration
import ViewTemplate.Proofs.Views.Keys
import ViewTemplate.Proofs.Views.Programs
import ViewTemplate.Render.Layout

/-!
# Chains of layouts

Behind a view a render applies the registered layout, then the one that this
registers, and so on.  Every turn of that loop takes the registration, looks the
layout up, and executes its program in a state of its own; `layoutTurn` is what
happens before the execution, and `applyLayouts_run` the loop in terms of it.

A render that goes on for some turns has a list of stages (`Environment.Stages`),
one for each layout that was applied, and an end (`Environment.Stops`).  No key is
applied twice, so there are no more stages than views and the loop is never stopped
by its budget (`applyLayouts_stages`); and what a render has applied when it ends, in
whatever way, are distinct views (`renderView_applicable`).  What it means that a
program ran is a parameter of both relations: a render executes programs, and other
accounts of what programs do are followed through the same stages.

## Main Definitions

* `LayoutTurn`, `Environment.layoutTurn` — what a turn does before it executes a program
* `Stage`, `Environment.Stages` — the layouts that were applied one after the other
* `Environment.Stops` — how the loop ends behind the last of them
* `Environment.pageStart` — the state in which the program of a page starts
-/

namespace ViewTemplate

variable {environment : Environment}

/-! ## Turns -/

/-- What a turn does before it executes a program. -/
inductive LayoutTurn where
  /-- No layout is registered. -/
  | done
  /-- The registered layout cannot be applied. -/
  | refused (error : RenderError) (state : RenderState)
  /-- The layout with a key is applied; its program starts in a state. -/
  | entered (key : String) (view : CompiledView) (state : RenderState)

/-- The state in which the program of a layout starts: what was written is its content,
and there are no variables. -/
def RenderState.enterLayout (state : RenderState) (store : ViewStore) (key : String) :
    RenderState :=
  { state with
    store, pendingLayout := none, layouts := state.layouts ++ [key],
    target := state.target.startLayout, frames := [[]] }

/-- What is done about the layout that is registered in a state. -/
def Environment.layoutTurn (environment : Environment) (state : RenderState) : LayoutTurn :=
  match state.pendingLayout with
  | none => .done
  | some path =>
    match environment.source.resolve path with
    | .error error => .refused (.view error) { state with pendingLayout := none }
    | .ok key =>
      if state.layouts.contains key then
        .refused (.layoutCycle (state.layouts ++ [key])) { state with pendingLayout := none }
      else
        match (environment.compileView path).run.run state.store with
        | (.error error, store) =>
          .refused (.view error) { state with pendingLayout := none, store }
        | (.ok view, store) => .entered key view (state.enterLayout store key)

/-- **The loop in closed form.** -/
theorem applyLayouts_run (environment : Environment) (budget : Nat) (state : RenderState) :
    (environment.applyLayouts (budget + 1)).run.run state =
      match environment.layoutTurn state with
      | .done => (.ok (), state)
      | .refused error after => (.error error, after)
      | .entered _ view entered =>
        (do
          environment.execute view.serial view.program.steps
          environment.applyLayouts budget : Render Unit).run.run entered := by
  rw [Environment.applyLayouts, run_bind, run_modifyGet, Environment.layoutTurn]
  cases registered : state.pendingLayout with
  | none =>
    dsimp only
    rw [← registered]
    rfl
  | some path =>
    dsimp only
    rw [run_bind, run_ofExcept]
    cases environment.source.resolve path with
    | error error => rfl
    | ok key =>
      dsimp only [Except.mapError]
      rw [run_bind, run_get]
      dsimp only
      by_cases again : state.layouts.contains key = true
      · rw [if_pos again, if_pos again]
        rfl
      · rw [if_neg again, if_neg again]
        rw [run_bind, Render.ofCompiling_run]
        rcases (environment.compileView path).run.run state.store with ⟨error | view, store⟩
        · rfl
        · dsimp only
          rw [run_bind, run_modify]
          rfl

theorem layoutTurn_eq_done_iff {state : RenderState} :
    environment.layoutTurn state = .done ↔ state.pendingLayout = none := by
  rw [Environment.layoutTurn]
  cases state.pendingLayout with
  | none => exact iff_of_true rfl rfl
  | some path =>
    refine iff_of_false ?_ (Option.some_ne_none path)
    dsimp only
    split
    · exact LayoutTurn.noConfusion
    · split
      · exact LayoutTurn.noConfusion
      · split
        · exact LayoutTurn.noConfusion
        · exact LayoutTurn.noConfusion

/-- **A layout is applied** when its path leads to a key that was not applied before, and
to a program. -/
theorem layoutTurn_entered {state entered : RenderState} {key : String} {view : CompiledView}
    (turn : environment.layoutTurn state = .entered key view entered) :
    ∃ path store, state.pendingLayout = some path ∧ environment.source.resolve path = .ok key ∧
      key ∉ state.layouts ∧
      (environment.compileView path).run.run state.store = (.ok view, store) ∧
      entered = state.enterLayout store key := by
  rw [Environment.layoutTurn] at turn
  cases registered : state.pendingLayout with
  | none =>
    rw [registered] at turn
    cases turn
  | some path =>
    rw [registered] at turn
    dsimp only at turn
    cases resolved : environment.source.resolve path with
    | error error =>
      rw [resolved] at turn
      cases turn
    | ok found =>
      rw [resolved] at turn
      dsimp only at turn
      split at turn
      · cases turn
      · rename_i fresh
        rcases compiled : (environment.compileView path).run.run state.store with
          ⟨error | made, store⟩
        · rw [compiled] at turn
          cases turn
        · rw [compiled] at turn
          cases turn
          have unknown : key ∉ state.layouts := fun mem => fresh (List.contains_iff_mem.mpr mem)
          exact ⟨path, store, rfl, resolved, unknown, compiled, rfl⟩

/-- **A layout is refused** when its path leads to a key that was applied before, or to no
program. -/
theorem layoutTurn_refused {state after : RenderState} {error : RenderError}
    (turn : environment.layoutTurn state = .refused error after) :
    ∃ path, state.pendingLayout = some path ∧
      ((∃ key, environment.source.resolve path = .ok key ∧ key ∈ state.layouts ∧
          error = .layoutCycle (state.layouts ++ [key])) ∨
        ∃ cause, environment.programOf state.store path = .error cause ∧
          (∀ key, environment.source.resolve path = .ok key → key ∉ state.layouts) ∧
          error = .view cause) := by
  rw [Environment.layoutTurn] at turn
  cases registered : state.pendingLayout with
  | none =>
    rw [registered] at turn
    cases turn
  | some path =>
    rw [registered] at turn
    dsimp only at turn
    refine ⟨path, rfl, ?_⟩
    cases resolved : environment.source.resolve path with
    | error cause =>
      rw [resolved] at turn
      cases turn
      refine .inr ⟨cause, ?_, nofun, rfl⟩
      rw [programOf_eq, resolved]
    | ok key =>
      rw [resolved] at turn
      dsimp only at turn
      split at turn
      · rename_i again
        cases turn
        exact .inl ⟨key, rfl, List.contains_iff_mem.mp again, rfl⟩
      · rename_i fresh
        rcases compiled : (environment.compileView path).run.run state.store with
          ⟨cause | view, store⟩
        · rw [compiled] at turn
          cases turn
          refine .inr ⟨cause, programOf_eq_error compiled, ?_, rfl⟩
          rintro _ ⟨⟩ mem
          exact fresh (List.contains_iff_mem.mpr mem)
        · rw [compiled] at turn
          cases turn

/-- A layout that is refused leaves the state as it was, but for the registration and for the
views that are kept. -/
theorem layoutTurn_refused_state {state after : RenderState} {error : RenderError}
    (turn : environment.layoutTurn state = .refused error after) :
    ∃ store, after = { state with pendingLayout := none, store } := by
  unfold Environment.layoutTurn at turn
  split at turn
  · cases turn
  · split at turn
    · cases turn
      exact ⟨state.store, rfl⟩
    · split at turn
      · cases turn
        exact ⟨state.store, rfl⟩
      · split at turn
        · cases turn
          exact ⟨_, rfl⟩
        · cases turn

/-! ## Stages -/

/-- What an execution of steps ends in. -/
abbrev Outcome := Except RenderError Unit × RenderState

/-- The text of a render that ends in an outcome, and the views that it keeps. -/
def Outcome.text (outcome : Outcome) : Except RenderError String × ViewStore :=
  (outcome.1.map fun _ => outcome.2.output, outcome.2.store)

/-- The text of an action is that of its outcome. -/
theorem textOf_run (context : Value) (action : Render Unit) (store : ViewStore) :
    (Environment.textOf context action).run.run store =
      Outcome.text (action.run.run (.start context store)) := by
  rw [Environment.textOf, ExceptT.run_mk, StateT.run]
  rcases action.run.run (.start context store) with ⟨error | _, after⟩
  · rfl
  · rfl

/-- The steps of a compilation, executed from a state, end in an outcome. -/
def Environment.Executes (environment : Environment) (origin : Nat) (steps : List Step)
    (state : RenderState) (outcome : Outcome) : Prop :=
  (environment.execute origin steps).run.run state = outcome

/-- A layout that was applied. -/
structure Stage where
  /-- Its key. -/
  key : String
  /-- The compiled layout. -/
  view : CompiledView
  /-- The state in which its program started. -/
  entered : RenderState
  /-- The state that its program left. -/
  left : RenderState

/-- **Layouts that were applied one after the other**, from a state behind a view to the
state behind the last of them.  What it means that a program ran is a parameter. -/
inductive Environment.Stages (environment : Environment)
    (runs : Nat → List Step → RenderState → Outcome → Prop) :
    RenderState → List Stage → RenderState → Prop where
  | nil {state : RenderState} : Stages environment runs state [] state
  | cons {state last : RenderState} {stage : Stage} {stages : List Stage}
      (turn : environment.layoutTurn state = .entered stage.key stage.view stage.entered)
      (ran : runs stage.view.serial stage.view.program.steps stage.entered (.ok (), stage.left))
      (behind : Stages environment runs stage.left stages last) :
      Stages environment runs state (stage :: stages) last

/-- **How the loop ends** behind the last layout that was applied. -/
inductive Environment.Stops (environment : Environment)
    (runs : Nat → List Step → RenderState → Outcome → Prop) : RenderState → Outcome → Prop where
  | done {state : RenderState} (turn : environment.layoutTurn state = .done) :
      Stops environment runs state (.ok (), state)
  | refused {state after : RenderState} {error : RenderError}
      (turn : environment.layoutTurn state = .refused error after) :
      Stops environment runs state (.error error, after)
  | failed {state entered after : RenderState} {key : String} {view : CompiledView}
      {error : RenderError} (turn : environment.layoutTurn state = .entered key view entered)
      (ran : runs view.serial view.program.steps entered (.error error, after)) :
      Stops environment runs state (.error error, after)

/-- The applied layouts of a state are distinct views. -/
structure Environment.Applicable (environment : Environment) (state : RenderState) : Prop where
  distinct : state.layouts.Nodup
  known : ∀ key ∈ state.layouts, key ∈ environment.source.keys

/-- There are no more applied layouts than views. -/
theorem Environment.Applicable.length_le {state : RenderState}
    (applies : environment.Applicable state) :
    state.layouts.length ≤ environment.source.viewCount := by
  rw [← environment.source.length_keys]
  exact (List.subperm_of_subset applies.distinct applies.known).length_le

/-- No layout was applied. -/
theorem Environment.Applicable.of_nil {state : RenderState} (nothing : state.layouts = []) :
    environment.Applicable state := by
  constructor
  · rw [nothing]
    exact List.nodup_nil
  · rw [nothing]
    exact List.forall_mem_nil _

/-- No further layout was applied. -/
theorem Environment.Applicable.of_eq {before after : RenderState}
    (applies : environment.Applicable before) (same : after.layouts = before.layouts) :
    environment.Applicable after := by
  constructor
  · rw [same]
    exact applies.distinct
  · rw [same]
    exact applies.known

/-- Executions put back what they exchange. -/
theorem Environment.Executes.restored {origin : Nat} {steps : List Step} {state : RenderState}
    {outcome : Outcome} (ran : environment.Executes origin steps state outcome) :
    state.Restored outcome.2 := by
  have bounds := executeWithin_restoring environment (maxDepth + 1) origin steps
  rw [← ran]
  exact restoring_bounds_iff.mp bounds state

/-- A layout that is applied is a further view. -/
theorem applicable_entered {state entered : RenderState}
    (applies : environment.Applicable state) {key : String} {view : CompiledView}
    (turn : environment.layoutTurn state = .entered key view entered) :
    environment.Applicable entered ∧ entered.layouts = state.layouts ++ [key] := by
  obtain ⟨path, store, -, resolved, fresh, -, rfl⟩ := layoutTurn_entered turn
  refine ⟨⟨?_, ?_⟩, rfl⟩
  · exact List.nodup_append.mpr ⟨applies.distinct, List.nodup_singleton key, by grind⟩
  · refine List.forall_mem_append.mpr ⟨applies.known, List.forall_mem_singleton.mpr ?_⟩
    exact ViewSource.mem_keys_of_resolve resolved

/-- Where the loop ends, the layouts that were applied are distinct views. -/
theorem Environment.Stops.applicable {last : RenderState} {outcome : Outcome}
    (stops : environment.Stops environment.Executes last outcome)
    (applies : environment.Applicable last) : environment.Applicable outcome.2 := by
  cases stops with
  | done turn => exact applies
  | refused turn =>
    obtain ⟨store, rfl⟩ := layoutTurn_refused_state turn
    exact applies.of_eq rfl
  | failed turn ran => exact (applicable_entered applies turn).1.of_eq ran.restored.layouts

/-- **The loop is a list of stages and an end**, if its budget exceeds the number of views
that are left: every turn applies a view that was not applied before. -/
theorem applyLayouts_stages {budget : Nat} {state : RenderState}
    (applies : environment.Applicable state)
    (room : environment.source.viewCount < budget + state.layouts.length) :
    ∃ stages last, environment.Stages environment.Executes state stages last ∧
      environment.Stops environment.Executes last
        ((environment.applyLayouts budget).run.run state) ∧
      environment.Applicable last := by
  induction budget generalizing state with
  | zero =>
    -- More layouts would have been applied than there are views.
    have fewer := applies.length_le
    omega
  | succ budget ih =>
    rw [applyLayouts_run]
    cases turn : environment.layoutTurn state with
    | done => exact ⟨[], state, .nil, .done turn, applies⟩
    | refused error after => exact ⟨[], state, .nil, .refused turn, applies⟩
    | entered key view entered =>
      obtain ⟨applies', longer⟩ := applicable_entered applies turn
      dsimp only
      rw [run_bind]
      rcases ran : (environment.execute view.serial view.program.steps).run.run entered with
        ⟨error | _, left⟩
      · exact ⟨[], state, .nil, .failed turn ran, applies⟩
      · have kept : left.layouts = entered.layouts := (Environment.Executes.restored ran).layouts
        have room' : environment.source.viewCount < budget + left.layouts.length := by
          rw [kept, longer, List.length_append, List.length_singleton]
          omega
        obtain ⟨stages, last, behind, stops⟩ := ih (applies'.of_eq kept) room'
        exact ⟨⟨key, view, entered, left⟩ :: stages, last, .cons turn ran behind, stops⟩

/-! ## Whole renders -/

/-- The state in which the program of a view starts: the default layout is registered
before any that the program declares. -/
def Environment.pageStart (environment : Environment) (context : Value) (store : ViewStore) :
    RenderState :=
  { RenderState.start context store with pendingLayout := environment.options.defaultLayout }

/-- **A full render in closed form.** -/
theorem renderView_run (environment : Environment) (view : CompiledView) (context : Value)
    (store : ViewStore) :
    (environment.renderView view).run.run (.start context store) =
      (do
        environment.execute view.serial view.program.steps
        environment.renderLayouts : Render Unit).run.run (environment.pageStart context store) := by
  unfold Environment.renderView Environment.pageStart
  cases environment.options.defaultLayout with
  | none => rfl
  | some path =>
    dsimp only
    rw [run_bind, run_modify]
    rfl

/-- **A source whose program writes a text**, whatever the state is, is rendered as that
text if no layout is applied by default. -/
theorem renderString_eq_ok {source text : String} {program : Program}
    (compiled : environment.compileSource Environment.sourceName source = .ok program)
    (writes : ∀ origin state,
      (environment.execute origin program.steps).run.run state = (.ok (), state.write text))
    (noLayout : environment.options.defaultLayout = none) (context : Value) (store : ViewStore) :
    ((environment.renderString source context).run.run store).1 = .ok text := by
  let view : CompiledView := ⟨store.next, program⟩
  rw [Environment.renderString, run_bind, Environment.compiling, run_adapt, compileAnew_run,
    compiled]
  show ((environment.renderProgram view context).run.run _).1 = _
  rw [Environment.renderProgram, textOf_run, renderView_run, run_bind, writes]
  have done : environment.layoutTurn
      ((environment.pageStart context { store with next := store.next + 1 }).write text) = .done :=
    layoutTurn_eq_done_iff.mpr noLayout
  show (Outcome.text ((environment.renderLayouts).run.run _)).1 = _
  rw [Environment.renderLayouts, applyLayouts_run, done]
  exact congrArg Except.ok String.empty_append

/-- **A render is its page, a list of stages and an end**, unless the page fails. -/
theorem renderView_stages (environment : Environment) (view : CompiledView) (context : Value)
    (store : ViewStore) :
    let run := (environment.renderView view).run.run (.start context store)
    let ended (outcome : Outcome) :=
      environment.Executes view.serial view.program.steps (environment.pageStart context store)
        outcome
    (∃ error, ended (.error error, run.2) ∧ run.1 = .error error) ∨
      ∃ page stages last, ended (.ok (), page) ∧ page.layouts = [] ∧
        environment.Stages environment.Executes page stages last ∧
        environment.Stops environment.Executes last run ∧ environment.Applicable last := by
  intro run ended
  have closed : run = _ := renderView_run environment view context store
  rw [run_bind] at closed
  rcases ran : (environment.execute view.serial view.program.steps).run.run
    (environment.pageStart context store) with ⟨error | _, page⟩
  · rw [ran] at closed
    exact .inl ⟨error, by rw [closed]; exact ran, by rw [closed]⟩
  · rw [ran] at closed
    have nothing : page.layouts = [] := (Environment.Executes.restored ran).layouts
    have applies : environment.Applicable page := .of_nil nothing
    have room : environment.source.viewCount <
        environment.source.viewCount + 1 + page.layouts.length := by
      omega
    obtain ⟨stages, last, applied, stops, applies'⟩ := applyLayouts_stages applies room
    exact .inr ⟨page, stages, last, ran, nothing, applied, closed ▸ stops, applies'⟩

/-- **The layouts that a full render applies are distinct views**, however it ends. -/
theorem renderView_applicable (environment : Environment) (view : CompiledView) (context : Value)
    (store : ViewStore) :
    environment.Applicable ((environment.renderView view).run.run (.start context store)).2 := by
  rcases renderView_stages environment view context store with
    ⟨error, failed, -⟩ | ⟨page, stages, last, -, -, -, stopped, applies⟩
  · exact .of_nil failed.restored.layouts
  · exact stopped.applicable applies

end ViewTemplate
