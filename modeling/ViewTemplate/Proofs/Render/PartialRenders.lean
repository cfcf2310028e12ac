import ViewTemplate.Proofs.Render.Declarations
import ViewTemplate.Proofs.Render.LayoutChain
import ViewTemplate.Proofs.Render.StepCoupling

/-!
# Renders without layouts

A render without layouts executes its view as if it were a part of another one: the
counter of active views is positive from the start, and that alone keeps layouts from being
registered.  It does the same as a full render of the view without its declaration, where no
layout is registered by default (`renderPartial_eq_render`).

The two executions differ in the counter and in nothing else (`RenderState.Aside`).  The
counter is looked at in one place, the declaration of a layout, and a declaration can only
stand first in a program.  The program of the page has lost it in the full render, and
inside the page a view is active in both, so that every other program does in both what it
does without its declaration (`executeWithin_withoutLayout`).  What is left are steps that
declare nothing, and by induction on the levels of calls the counters stay one apart,
through the calls of views and print blocks and behind every failure.

## Main Definitions

* `Program.withoutLayout`, `CompiledView.withoutLayout` — a program without its declaration
* `Environment.plain` — an environment without a default layout
* `RenderState.Aside` — how the states of the two executions are related
-/

namespace ViewTemplate

/-! ## Programs without layouts -/

/-- A program without the declaration of its layout. -/
def Program.withoutLayout (program : Program) : Program :=
  match program.steps with
  | .setLayout _ :: rest => ⟨rest⟩
  | _ => program

/-- A view without the declaration of its layout. -/
def CompiledView.withoutLayout (view : CompiledView) : CompiledView :=
  { view with program := view.program.withoutLayout }

/-- An environment in which no layout is registered by default. -/
def Environment.plain (environment : Environment) : Environment :=
  { environment with options := { environment.options with defaultLayout := none } }

/-- The steps of a program are its declaration and the others. -/
theorem Program.steps_eq_withoutLayout (program : Program) :
    program.steps =
      (program.layout?.map Step.setLayout).toList ++ program.withoutLayout.steps := by
  obtain ⟨_ | ⟨step, rest⟩⟩ := program
  · rfl
  · cases step <;> rfl

/-- Without its declaration a program declares nothing, if only its first step can. -/
theorem Program.LayoutFirst.withoutLayout {program : Program} (first : program.LayoutFirst) :
    Step.LayoutFree program.withoutLayout.steps := by
  obtain ⟨layout, rest, steps, free⟩ := first
  obtain ⟨_⟩ := program
  cases steps
  cases layout with
  | some path => exact free
  | none =>
    cases rest with
    | nil => exact free
    | cons step rest =>
      cases step with
      | setLayout path => exact absurd (.here List.mem_cons_self) (free path)
      | _ => exact free

variable {environment : Environment}

/-- **Where a view is active, a program does what it does without its declaration.** -/
theorem executeWithin_withoutLayout (levels origin : Nat) (program : Program)
    {state : RenderState} (inside : state.partialDepth ≠ 0) :
    (executeWithin environment levels origin program.steps).run.run state =
      (executeWithin environment levels origin program.withoutLayout.steps).run.run state := by
  cases levels with
  | zero => rfl
  | succ levels =>
    rw [program.steps_eq_withoutLayout]
    cases program.layout? with
    | none => rfl
    | some path =>
      change (executeWithin environment (levels + 1) origin
        (.setLayout path :: program.withoutLayout.steps)).run.run state = _
      rw [executeWithin_setLayout, if_neg inside]

/-! ## Counters that are one apart -/

namespace RenderState

/-- A state with another number of active views. -/
def withViews (views : Nat) (state : RenderState) : RenderState :=
  { state with partialDepth := views }

/-- Assignments look at no counter. -/
theorem assign?_withViews (views : Nat) (state : RenderState) (name : String) (value : Value) :
    (state.withViews views).assign? name value =
      (state.assign? name value).map (withViews views) := by
  unfold assign? withViews
  cases assignFrames? state.frames name value with
  | some frames => rfl
  | none =>
    dsimp only
    cases (contextFields state.context).update? name value with
    | none => rfl
    | some fields => rfl

theorem declare_withViews (views : Nat) (state : RenderState) (name : String) (value : Value) :
    (state.withViews views).declare name value = (state.declare name value).withViews views := by
  rcases state with ⟨_, _, _, _, _, _, _ | ⟨frame, rest⟩, _⟩
  · rfl
  · rfl

theorem mergeTarget_withViews (views : Nat) (state : RenderState) (slot : String) :
    (state.withViews views).mergeTarget slot = (state.mergeTarget slot).withViews views := by
  rcases state with ⟨_, _, _ | ⟨target, saved⟩, _⟩
  · rfl
  · rfl

theorem bindBlock_withViews (views : Nat) (state : RenderState) (block : BoundBlock) :
    (state.withViews views).bindBlock block =
      ((state.bindBlock block).1, (state.bindBlock block).2.withViews views) := by
  unfold bindBlock withViews
  cases state.blocks.findIdx? (· == block) with
  | some index => rfl
  | none => rfl

/-- What a print block ended with, and the state behind it. -/
theorem leaveBlock_withViews (views : Nat) (state : RenderState) :
    (state.withViews views).popFrame.restoreTarget.1 = state.popFrame.restoreTarget.1
      ∧ (state.withViews views).leaveBlock = state.leaveBlock.withViews views := by
  rcases state with ⟨_, _, _ | ⟨target, saved⟩, _⟩
  · exact ⟨rfl, rfl⟩
  · exact ⟨rfl, rfl⟩

/-- Nothing was registered or applied in a state, and what it holds declares layouts in
first steps only. -/
structure Unwrapped (state : RenderState) : Prop where
  holds : state.HoldsLayouts
  pendingLayout : state.pendingLayout = none
  layouts : state.layouts = []

/-- A change that touches neither programs nor layouts. -/
theorem Unwrapped.of_eq {before after : RenderState} (plain : before.Unwrapped)
    (blocks : after.blocks = before.blocks) (store : after.store = before.store)
    (pending : after.pendingLayout = before.pendingLayout)
    (layouts : after.layouts = before.layouts) : after.Unwrapped where
  holds := by
    constructor
    · rw [blocks]
      exact plain.holds.blocks
    · rw [store]
      exact plain.holds.store
  pendingLayout := pending.trans plain.pendingLayout
  layouts := layouts.trans plain.layouts

/-- **A state of a render without layouts beside one of a full render**, in which some
number of views are active.  In the first there is one more, and all else is the same. -/
structure Aside (views : Nat) (state other : RenderState) : Prop where
  same : state = other.withViews (views + 1)
  views : other.partialDepth = views
  plain : other.Unwrapped

namespace Aside

variable {views : Nat} {state other : RenderState}

theorem enterBlock (aside : state.Aside views other) (frame : Frame) :
    (state.enterBlock frame).Aside views (other.enterBlock frame) := by
  obtain ⟨rfl, counted, plain⟩ := aside
  exact ⟨rfl, counted, plain.of_eq rfl rfl rfl rfl⟩

/-- Behind the call of a print block no counter and no layout has changed. -/
theorem leaveBlock (aside : state.Aside views other) :
    state.leaveBlock.Aside views other.leaveBlock := by
  obtain ⟨rfl, counted, plain⟩ := aside
  refine ⟨(other.leaveBlock_withViews _).2, ?_, ?_⟩
  · rw [RenderState.leaveBlock, restoreTarget_eq]
    exact counted
  · rw [RenderState.leaveBlock, restoreTarget_eq]
    exact plain.of_eq rfl rfl rfl rfl

/-- Compiling a view keeps programs that declare layouts in first steps only. -/
theorem withStore (aside : state.Aside views other) {store : ViewStore}
    (holds : store.Holds Step.LayoutFirst) :
    Aside views { state with store } { other with store } := by
  obtain ⟨rfl, counted, plain⟩ := aside
  exact ⟨rfl, counted, ⟨plain.holds.blocks, holds⟩, plain.pendingLayout, plain.layouts⟩

/-- Inside a view one more is active. -/
theorem enterView (aside : state.Aside views other) {store : ViewStore}
    (holds : store.Holds Step.LayoutFirst) (fields : Table Value) :
    (state.enterView store fields).Aside (views + 1) (other.enterView store fields) := by
  obtain ⟨rfl, counted, plain⟩ := aside
  exact ⟨by rw [← counted]; rfl, congrArg (· + 1) counted, ⟨plain.holds.blocks, holds⟩,
    plain.pendingLayout, plain.layouts⟩

/-- Behind a view the ones that were active before are left. -/
theorem leaveView (aside : state.Aside views other) {after after' : RenderState}
    (inside : after.Aside (views + 1) after') :
    (state.leaveView after).Aside views (other.leaveView after') := by
  obtain ⟨rfl, -, -⟩ := aside
  obtain ⟨rfl, counted, plain⟩ := inside
  exact ⟨rfl, congrArg (· - 1) counted, plain.of_eq rfl rfl rfl rfl⟩

/-- Where no other view is active, the states are the same without the counter. -/
theorem left (aside : state.Aside 0 other) : state.withViews (state.partialDepth - 1) = other := by
  obtain ⟨rfl, counted, -⟩ := aside
  show other.withViews 0 = other
  rw [withViews, ← counted]

end Aside

end RenderState

/-- The states of the two renders while both go on, and also when both failed. -/
def apart (views : Nat) : Coupling RenderState where
  returns := RenderState.Aside views
  throws := RenderState.Aside views
  throws_of_returns aside := aside

/-- The two renders end alike with one result, and with states that are one apart. -/
theorem apart_agrees_iff {ε α : Type} {views : Nat} {result result' : Except ε α × RenderState} :
    (apart views).Agrees result result' ↔
      result.1 = result'.1 ∧ result.2.Aside views result'.2 := by
  rcases result with ⟨error | value, after⟩ <;> rcases result' with ⟨error' | value', after'⟩
  · exact and_congr_left' ⟨congrArg _, Except.error.inj⟩
  · exact iff_of_false id fun h => nomatch h.1
  · exact iff_of_false id fun h => nomatch h.1
  · exact and_congr_left' ⟨congrArg _, Except.ok.inj⟩

theorem apart_state (views : Nat) : StateCouple environment environment.plain (apart views) where
  lookup := by
    rintro _ other name ⟨rfl, -, -⟩
    rfl
  context := by
    rintro _ other ⟨rfl, -, -⟩
    rfl
  write := by
    rintro text _ other ⟨rfl, counted, plain⟩
    exact ⟨rfl, counted, plain.of_eq rfl rfl rfl rfl⟩
  assign := by
    rintro _ other name value ⟨rfl, counted, plain⟩
    rw [RenderState.assign?_withViews]
    cases assigned : other.assign? name value with
    | none => exact .none
    | some after =>
      refine .some ⟨rfl, ?_, ?_⟩
      · rw [RenderState.assign?_eq assigned]
        exact counted
      · rw [RenderState.assign?_eq assigned]
        exact plain.of_eq rfl rfl rfl rfl
  declare := by
    rintro name value _ other ⟨rfl, counted, plain⟩
    refine ⟨RenderState.declare_withViews _ other name value, ?_, ?_⟩
    · rw [other.declare_eq]
      exact counted
    · rw [other.declare_eq]
      exact plain.of_eq rfl rfl rfl rfl
  pushFrame := by
    rintro _ other frame ⟨rfl, counted, plain⟩
    exact ⟨rfl, counted, plain.of_eq rfl rfl rfl rfl⟩
  popFrame := by
    rintro _ other ⟨rfl, counted, plain⟩
    exact ⟨rfl, counted, plain.of_eq rfl rfl rfl rfl⟩
  popFrame_throws := by
    rintro _ other ⟨rfl, counted, plain⟩
    exact ⟨rfl, counted, plain.of_eq rfl rfl rfl rfl⟩

/-- What a step that stands among steps without declarations does by itself. -/
theorem Step.ownCouples_apart (views origin : Nat) {step : Step} {steps : List Step}
    (free : Step.LayoutFree steps) (occurs : step.Occurs steps) :
    step.OwnCouples environment environment.plain (apart views) origin := by
  cases step with
  | saveTarget =>
    rintro _ other ⟨rfl, counted, plain⟩
    exact ⟨rfl, counted, plain.of_eq rfl rfl rfl rfl⟩
  | mergeTarget slot =>
    rintro _ other ⟨rfl, counted, plain⟩
    refine ⟨other.mergeTarget_withViews _ slot, ?_, ?_⟩
    · rw [other.mergeTarget_eq]
      exact counted
    · rw [other.mergeTarget_eq]
      exact plain.of_eq rfl rfl rfl rfl
  | renderContent slot =>
    rintro _ other ⟨rfl, counted, plain⟩
    cases slot with
    | none => exact ⟨rfl, counted, plain.of_eq rfl rfl rfl rfl⟩
    | some slot => exact ⟨rfl, counted, plain.of_eq rfl rfl rfl rfl⟩
  | printBlock expression parameters body =>
    rintro _ other ⟨rfl, counted, plain⟩
    -- The block may be new to the table, and its body declares nothing either.
    have inside : Step.LayoutFree body := free.of_occurs occurs List.mem_cons_self
    intro block
    have pending : (other.bindBlock block).2.pendingLayout = other.pendingLayout := by
      unfold RenderState.bindBlock
      split
      · rfl
      · rfl
    have bound := other.bindBlock_restored block
    rw [other.bindBlock_withViews]
    exact ⟨rfl, rfl, bound.partialDepth.trans counted,
      RenderState.bindBlock_holds plain.holds inside, pending.trans plain.pendingLayout,
      bound.layouts.trans plain.layouts⟩
  | setLayout path => exact absurd occurs (free path)
  | loop condition body => exact rfl
  | _ => trivial

/-! ## Calls -/

/-- **The call of a print block does the same**, if steps without declarations do. -/
theorem callBlock_apart {views : Nat} {execute execute' : Executor}
    (steps : ∀ origin {steps}, Step.LayoutFree steps →
      (apart views).Couples (execute origin steps) (execute' origin steps))
    (index : Nat) (arguments : List Value) :
    (apart views).Couples (callBlock execute index arguments)
      (callBlock execute' index arguments) := by
  intro state other aside
  have blocks : state.blocks = other.blocks := by rw [aside.same]; rfl
  have depth : state.depth = other.depth := by rw [aside.same]; rfl
  rw [callBlock_run, callBlock_run, blocks, depth]
  cases found : other.blocks[index]? with
  | none => exact ⟨rfl, aside⟩
  | some block =>
    dsimp only
    split
    · exact ⟨rfl, aside⟩
    · have free := aside.plain.holds.blocks block (List.mem_of_getElem? found)
      have agree := steps block.origin free _ _
        (aside.enterBlock (argumentFrame block.parameters arguments))
      generalize (execute block.origin block.body).run.run _ = result at agree ⊢
      generalize (execute' block.origin block.body).run.run _ = result' at agree ⊢
      rcases result with ⟨error | _, after⟩ <;> rcases result' with ⟨error' | _, after'⟩
      · exact ⟨congrArg _ agree.1, agree.2.leaveBlock⟩
      · exact agree.elim
      · exact agree.elim
      · -- The value of the call is what the target holds, and targets are the same.
        have text := congrArg (fun state : RenderState => state.popFrame.restoreTarget.1)
          agree.2.same
        dsimp only at text ⊢
        rw [text, (after'.leaveBlock_withViews _).1]
        exact ⟨rfl, agree.2.leaveBlock⟩

/-- **The call of a view does the same**, if steps without declarations do inside it. -/
theorem callView_apart {views levels : Nat}
    (steps : ∀ origin {steps}, Step.LayoutFree steps →
      (apart (views + 1)).Couples (executeWithin environment levels origin steps)
        (executeWithin environment.plain levels origin steps))
    (path : String) (overrides : Option Value) (position : Position) :
    (apart views).Couples
      (callView environment (executeWithin environment levels) path overrides position)
      (callView environment.plain (executeWithin environment.plain levels) path overrides
        position) := by
  rintro _ other ⟨rfl, counted, plain⟩
  have aside : RenderState.Aside views (other.withViews (views + 1)) other :=
    ⟨rfl, counted, plain⟩
  have compile : environment.plain.compileView path = environment.compileView path := rfl
  have depth : (other.withViews (views + 1)).depth = other.depth := rfl
  have store : (other.withViews (views + 1)).store = other.store := rfl
  have context : (other.withViews (views + 1)).context = other.context := rfl
  rw [callView_run, callView_run, depth, store, context, compile]
  split
  · exact ⟨rfl, aside⟩
  · have compiled := compileView_holds (makes_layoutFirst environment) path
      plain.holds.store
    generalize (environment.compileView path).run.run other.store = result at compiled ⊢
    rcases result with ⟨error | view, store⟩
    · exact ⟨rfl, aside.withStore compiled⟩
    · obtain ⟨first, kept⟩ := compiled
      dsimp only
      cases overriddenFields other.context overrides position with
      | error error => exact ⟨rfl, aside.withStore kept⟩
      | ok fields =>
        dsimp only
        -- A view is active on both sides, so the program declares nothing.
        rw [executeWithin_withoutLayout levels view.serial view.program (Nat.succ_ne_zero _),
          executeWithin_withoutLayout levels view.serial view.program (Nat.succ_ne_zero _)]
        obtain ⟨same, inside⟩ := apart_agrees_iff.1 <| steps view.serial
          (Program.LayoutFirst.withoutLayout first) _ _ (aside.enterView kept fields)
        exact apart_agrees_iff.2 ⟨same, aside.leaveView inside⟩

/-- **Steps without declarations do the same on every level**, by induction on the levels
below, for any number of views that are active. -/
theorem executeWithin_apart (levels views origin : Nat) {steps : List Step}
    (free : Step.LayoutFree steps) :
    (apart views).Couples (executeWithin environment levels origin steps)
      (executeWithin environment.plain levels origin steps) := by
  induction levels generalizing views origin steps with
  | zero => exact .pure _
  | succ levels ih =>
    have same : RenderCouple environment environment.plain
        (callsBy environment (executeWithin environment levels))
        (callsBy environment.plain (executeWithin environment.plain levels)) (apart views) :=
      { apart_state views with
        functions := rfl
        block := callBlock_apart fun origin _ => ih views origin
        view := callView_apart fun origin _ => ih (views + 1) origin }
    exact executeSteps_couple same fun step occurs =>
      Step.ownCouples_apart views origin free occurs

/-! ## Renders -/

/-- **The execution of a view without layouts** is the execution of its other steps in a
full render, in an environment without a default layout, to the same state: nothing is
registered there, and nothing was applied. -/
theorem renderPart_run (environment : Environment) {view : CompiledView}
    (first : view.program.LayoutFirst) (context : Value) {store : ViewStore}
    (holds : store.Holds Step.LayoutFirst) :
    let outcome := (environment.plain.execute view.serial view.withoutLayout.program.steps).run.run
      (.start context store)
    (environment.renderPart view).run.run (.start context store) = outcome
      ∧ outcome.2.pendingLayout = none ∧ outcome.2.layouts = [] := by
  intro outcome
  have start : RenderState.Aside 0 ((RenderState.start context store).withViews 1)
      (.start context store) :=
    ⟨rfl, rfl, ⟨nofun, holds⟩, rfl, rfl⟩
  have agree : (apart 0).Agrees
      ((environment.execute view.serial view.withoutLayout.program.steps).run.run
        ((RenderState.start context store).withViews 1)) outcome :=
    executeWithin_apart (maxDepth + 1) 0 view.serial first.withoutLayout _ _ start
  -- The counter is one before the first step and is taken back behind the last one.
  have closed : (environment.renderPart view).run.run (.start context store) =
      let ran := (environment.execute view.serial view.program.steps).run.run
        ((RenderState.start context store).withViews 1)
      (ran.1, ran.2.withViews (ran.2.partialDepth - 1)) := rfl
  have declared : (environment.execute view.serial view.program.steps).run.run
      ((RenderState.start context store).withViews 1) =
        (environment.execute view.serial view.withoutLayout.program.steps).run.run
          ((RenderState.start context store).withViews 1) :=
    executeWithin_withoutLayout _ _ _ Nat.one_ne_zero
  obtain ⟨same, aside⟩ := apart_agrees_iff.1 agree
  refine ⟨?_, aside.plain.pendingLayout, aside.plain.layouts⟩
  rw [closed, declared]
  exact Prod.ext same aside.left

/-- Where no layout is registered when the steps have ended, a full render is its page. -/
theorem renderView_eq_execute {view : CompiledView} {context : Value} {store : ViewStore}
    (noDefault : environment.options.defaultLayout = none)
    (unregistered : ((environment.execute view.serial view.program.steps).run.run
      (.start context store)).2.pendingLayout = none) :
    (environment.renderView view).run.run (.start context store) =
      (environment.execute view.serial view.program.steps).run.run (.start context store) := by
  have start : environment.pageStart context store = .start context store := by
    rw [Environment.pageStart, noDefault]
    rfl
  rw [renderView_run, start, run_bind]
  generalize (environment.execute view.serial view.program.steps).run.run _ = outcome
    at unregistered ⊢
  rcases outcome with ⟨error | _, page⟩
  · rfl
  · dsimp only
    rw [Environment.renderLayouts, applyLayouts_run, layoutTurn_eq_done_iff.mpr unregistered]

/-- **Rendering without layouts is rendering the undeclared view.**  The text, or the error,
is that of a full render of the same program without its declaration, in an environment that
differs in having no default layout; the same views are kept.  Both are the execution of the
other steps of the view and nothing else: behind it no layout is registered, none was
applied, and so none is looked for, whatever the view and the views in it declare. -/
theorem renderPartial_eq_render {store : ViewStore} (fromSources : store.FromSources environment)
    (path : String) (context : Value) :
    (environment.renderPartial path context).run.run store =
        (do
          let view ← Environment.compiling (environment.compileView path)
          environment.plain.renderProgram view.withoutLayout context).run.run store
      ∧ ∀ view after, (environment.compileView path).run.run store = (.ok view, after) →
        ∃ result page,
          (environment.renderPart view).run.run (.start context after) = (result, page)
            ∧ (environment.plain.renderView view.withoutLayout).run.run (.start context after)
              = (result, page)
            ∧ (environment.plain.execute view.serial view.withoutLayout.program.steps).run.run
              (.start context after) = (result, page)
            ∧ page.pendingLayout = none ∧ page.layouts = [] := by
  have holds : store.Holds Step.LayoutFirst :=
    fromSources.holds (compileSource_layoutFirst environment)
  have compiled := compileView_holds (makes_layoutFirst environment) path holds
  have each : ∀ view after, (environment.compileView path).run.run store = (.ok view, after) →
      let outcome := (environment.plain.execute view.serial
        view.withoutLayout.program.steps).run.run (.start context after)
      (environment.renderPart view).run.run (.start context after) = outcome
        ∧ (environment.plain.renderView view.withoutLayout).run.run (.start context after) = outcome
        ∧ outcome.2.pendingLayout = none ∧ outcome.2.layouts = [] := by
    intro view after found outcome
    rw [found] at compiled
    obtain ⟨part, pending, layouts⟩ := renderPart_run environment compiled.1 context compiled.2
    exact ⟨part, renderView_eq_execute rfl pending, pending, layouts⟩
  constructor
  · rw [Environment.renderPartial, run_bind, run_bind, Environment.compiling, run_adapt]
    rcases found : (environment.compileView path).run.run store with ⟨error | view, after⟩
    · rfl
    · obtain ⟨part, whole, -⟩ := each view after found
      show (Environment.textOf context _).run.run after =
        (Environment.textOf context _).run.run after
      rw [textOf_run, textOf_run, part, whole]
  · intro view after found
    obtain ⟨part, whole, pending, layouts⟩ := each view after found
    exact ⟨_, _, part, whole, rfl, pending, layouts⟩

/-- A view and a part of it that both declare a layout, where a further one is registered by
default: without layouts the page is left, which a full render wraps. -/
theorem renderPartial_eq_render_declared :
    let environment : Environment :=
      { options := { defaultLayout := some "plain" },
        source := .memory
          [("item", "<js @layout=\"base\"/>item<js @render=\"part\"/>"),
            ("part", "<js @layout=\"base\"/>!"), ("base", "[<js @render-content/>]"),
            ("plain", "(<js @render-content/>)")],
        functions := fun _ _ => .ok .null }
    ViewStore.FromSources environment {} ∧
      (environment.renderPartial "item" .undefined).run.run {} =
        (do
          let view ← Environment.compiling (environment.compileView "item")
          environment.plain.renderProgram view.withoutLayout .undefined).run.run {} ∧
      ((environment.renderPartial "item" .undefined).run.run {}).1 = .ok "item!" ∧
      ((environment.render "item" .undefined).run.run {}).1 = .ok "(item!)" := by
  intro environment
  have empty : ViewStore.FromSources environment {} := List.forall_mem_nil _
  have part : ((environment.renderPartial "item" .undefined).run.run {}).1 = .ok "item!" :=
    eq_ok_of_toOption (by decide +kernel)
  have whole : ((environment.render "item" .undefined).run.run {}).1 = .ok "(item!)" :=
    eq_ok_of_toOption (by decide +kernel)
  exact ⟨empty, (renderPartial_eq_render empty "item" .undefined).1, part, whole⟩

end ViewTemplate
