import Mathlib
import ViewTemplate.Proofs.Render.Declarations
import ViewTemplate.Proofs.Render.LayoutChain
import ViewTemplate.Proofs.Render.StepCoupling

/-!
# Renders end by themselves

Executions are defined with budgets — levels of calls, turns of loops, layouts — and so
every one of them returns or throws.  What remains to be said is that the budgets have
no part in it: the outcome is the one of a finite run, which would be the same if there
were no budgets.

An execution ends by itself (`Environment.Ends`) when some number of levels and turns is
enough: whatever calls that go deeper would do, and however many turns more a loop might
take, the outcome is the same.  The steps of programs without loops always end so
(`Ends.of_loopFree`).  Their measure is not in the program, since views render themselves
and blocks are called from anywhere; it is the counter of active calls, of which each
call uses one up and which every call finds as the caller left it.

The layouts of a render are followed through a list of stages, which is finite, and
which is there because no key is applied twice (`renderView_stages`).

## Main Definitions

* `executeAbove` — execution with anything below a number of levels
* `Environment.Ends` — an execution that ends by itself
* `Step.LoopFree` — no step is a loop, here or inside others
* `Environment.Renders`, `RendersPart` — the runs of a render
* `Terminates` — a compilation and a render that end
-/

namespace ViewTemplate

variable {environment : Environment}

/-! ## Executions without budgets -/

/-- Executes steps whose calls are `levels` deep at most, and deeper ones in any way. -/
def executeAbove (environment : Environment) (beyond : Executor) : (levels : Nat) → Executor
  | 0 => beyond
  | levels + 1 =>
    executeSteps environment (callsBy environment (executeAbove environment beyond levels))

/-- Executions do nothing below their levels. -/
theorem executeWithin_eq_executeAbove (environment : Environment) (levels : Nat) :
    executeWithin environment levels =
      executeAbove environment (fun _ _ => return ()) levels := by
  induction levels with
  | zero => rfl
  | succ levels ih => rw [executeWithin, executeAbove, ih]

/-- The environment with another bound on the turns of loops. -/
def Environment.withTurns (environment : Environment) (turns : Nat) : Environment :=
  { environment with turns }

/-- **An execution ends by itself**: with enough levels and turns, neither what lies
beyond the levels nor more turns make a difference. -/
def Environment.Ends (environment : Environment) (origin : Nat) (steps : List Step)
    (state : RenderState) (outcome : Outcome) : Prop :=
  ∃ levels turns, ∀ (beyond : Executor) (more : Nat), turns ≤ more →
    (executeAbove (environment.withTurns more) beyond levels origin steps).run.run state = outcome

/-! ## Steps without loops -/

/-- No step is a loop, here or inside others. -/
def Step.LoopFree (steps : List Step) : Prop :=
  ∀ condition body, ¬(Step.loop condition body).Occurs steps

/-- The bodies inside steps without loops have none. -/
theorem Step.LoopFree.of_occurs {steps body : List Step} {step : Step}
    (free : Step.LoopFree steps) (occurs : step.Occurs steps) (direct : body ∈ step.bodies) :
    Step.LoopFree body :=
  fun condition inner inside => free condition inner (occurs.of_mem_bodies direct inside)

/-- What holds of a state while a number of calls are active: they are counted, and no
program that the state holds has a loop. -/
structure RenderState.Counts (depth : Nat) (state : RenderState) : Prop where
  depth : state.depth = depth
  holds : state.Holds Step.LoopFree Step.LoopFree

/-- The states of two executions that do the same while a number of calls are active. -/
abbrev counting (depth : Nat) : Coupling RenderState :=
  .equal (RenderState.Counts depth)

/-- A change that touches neither the counter nor programs. -/
theorem RenderState.Counts.of_eq {depth : Nat} {before after : RenderState}
    (counts : before.Counts depth) (same : after.depth = before.depth)
    (blocks : after.blocks = before.blocks) (store : after.store = before.store) :
    after.Counts depth := by
  refine ⟨same.trans counts.depth, ?_, ?_⟩
  · rw [blocks]
    exact counts.holds.blocks
  · rw [store]
    exact counts.holds.store

theorem counting_state (depth : Nat) {environment' : Environment}
    (helpers : environment.helpers = environment'.helpers) :
    StateCouple environment environment' (counting depth) where
  lookup := by
    rintro state _ name ⟨rfl, -⟩
    unfold RenderState.lookup Environment.helper?
    rw [helpers]
  context := by
    rintro state _ ⟨rfl, -⟩
    rfl
  write := by
    rintro text state _ ⟨rfl, counts⟩
    exact ⟨rfl, counts.of_eq rfl rfl rfl⟩
  assign := by
    rintro state _ name value ⟨rfl, counts⟩
    cases assigned : state.assign? name value with
    | none => exact .none
    | some after =>
      refine .some ⟨rfl, ?_⟩
      rw [RenderState.assign?_eq assigned]
      exact counts.of_eq rfl rfl rfl
  declare := by
    rintro name value state _ ⟨rfl, counts⟩
    refine ⟨rfl, ?_⟩
    rw [state.declare_eq]
    exact counts.of_eq rfl rfl rfl
  pushFrame := by
    rintro state _ frame ⟨rfl, counts⟩
    exact ⟨rfl, counts.of_eq rfl rfl rfl⟩
  popFrame := by
    rintro state _ ⟨rfl, counts⟩
    exact ⟨rfl, counts.of_eq rfl rfl rfl⟩
  popFrame_throws := by
    rintro state _ rfl
    rfl

/-- What a step that stands among steps without loops does by itself. -/
theorem Step.ownCouples_counting (depth origin : Nat) (environment' : Environment) {step : Step}
    {steps : List Step} (free : Step.LoopFree steps) (occurs : step.Occurs steps) :
    step.OwnCouples environment environment' (counting depth) origin := by
  cases step with
  | saveTarget =>
    rintro state _ ⟨rfl, counts⟩
    exact ⟨rfl, counts.of_eq rfl rfl rfl⟩
  | mergeTarget slot =>
    rintro state _ ⟨rfl, counts⟩
    refine ⟨rfl, ?_⟩
    rw [state.mergeTarget_eq]
    exact counts.of_eq rfl rfl rfl
  | renderContent slot =>
    rintro state _ ⟨rfl, counts⟩
    refine ⟨rfl, ?_⟩
    cases slot with
    | none => exact counts.of_eq rfl rfl rfl
    | some slot => exact counts.of_eq rfl rfl rfl
  | printBlock expression parameters body =>
    rintro state _ ⟨rfl, counts⟩
    have inside : Step.LoopFree body := free.of_occurs occurs List.mem_cons_self
    refine ⟨rfl, rfl, ?_, RenderState.bindBlock_holds counts.holds inside⟩
    unfold RenderState.bindBlock
    split
    · exact counts.depth
    · exact counts.depth
  | setLayout path =>
    rintro state _ ⟨rfl, counts⟩
    refine ⟨rfl, ?_⟩
    split
    · exact counts.of_eq rfl rfl rfl
    · exact counts
  | loop condition body => exact absurd occurs (free condition body)
  | _ => trivial

/-! ## Calls -/

/-- **The call of a print block does the same** when its steps do with one more active
call, where one more is left. -/
theorem callBlock_counting {depth : Nat} {execute execute' : Executor}
    (steps : depth < maxDepth → ∀ origin {steps}, Step.LoopFree steps →
      (counting (depth + 1)).Couples (execute origin steps) (execute' origin steps))
    (index : Nat) (arguments : List Value) :
    (counting depth).Couples (callBlock execute index arguments)
      (callBlock execute' index arguments) := by
  rintro state _ ⟨rfl, counts⟩
  rw [callBlock_run, callBlock_run]
  cases found : state.blocks[index]? with
  | none => exact ⟨rfl, rfl⟩
  | some block =>
    dsimp only
    split
    · exact ⟨rfl, rfl⟩
    · rename_i room
      rw [counts.depth, Nat.not_le] at room
      have free : Step.LoopFree block.body :=
        counts.holds.blocks block (List.mem_of_getElem? found)
      have entered :
          (state.enterBlock (argumentFrame block.parameters arguments)).Counts (depth + 1) :=
        ⟨congrArg (· + 1) counts.depth, counts.holds.blocks, counts.holds.store⟩
      have agree := steps room block.origin free _ _ ⟨rfl, entered⟩
      have same := agree.eq
      rw [← same] at agree ⊢
      generalize (execute block.origin block.body).run.run _ = result at agree ⊢
      rcases result with ⟨error | _, after⟩
      · exact ⟨rfl, rfl⟩
      · obtain ⟨-, -, counts'⟩ := agree
        refine ⟨rfl, rfl, ?_⟩
        rw [RenderState.leaveBlock, RenderState.restoreTarget_eq]
        exact ⟨congrArg (· - 1) counts'.depth, counts'.holds.blocks, counts'.holds.store⟩

/-- **The call of a view does the same** when its program does with one more active call,
where one more is left. -/
theorem callView_counting (makes : environment.Makes Step.LoopFree) {depth : Nat}
    {execute execute' : Executor} (more : Nat)
    (steps : depth < maxDepth → ∀ origin {steps}, Step.LoopFree steps →
      (counting (depth + 1)).Couples (execute origin steps) (execute' origin steps))
    (path : String) (overrides : Option Value) (position : Position) :
    (counting depth).Couples (callView environment execute path overrides position)
      (callView (environment.withTurns more) execute' path overrides position) := by
  rintro state _ ⟨rfl, counts⟩
  rw [callView_run, callView_run]
  split
  · exact ⟨rfl, rfl⟩
  · rename_i room
    rw [counts.depth, Nat.not_le] at room
    -- The views that can be compiled do not depend on turns.
    have turns : (environment.withTurns more).compileView path = environment.compileView path := rfl
    rw [turns]
    have compiled := compileView_holds makes path counts.holds.store
    generalize (environment.compileView path).run.run state.store = result at compiled ⊢
    rcases result with ⟨error | view, store⟩
    · exact ⟨rfl, rfl⟩
    · obtain ⟨free, kept⟩ := compiled
      dsimp only
      cases overriddenFields state.context overrides position with
      | error error => exact ⟨rfl, rfl⟩
      | ok fields =>
        have entered : (state.enterView store fields).Counts (depth + 1) :=
          ⟨congrArg (· + 1) counts.depth, counts.holds.blocks, kept⟩
        have agree := steps room view.serial free _ _ ⟨rfl, entered⟩
        have same := agree.eq
        dsimp only
        rw [← same] at agree ⊢
        generalize (execute view.serial view.program.steps).run.run _ = result at agree ⊢
        rcases result with ⟨error | _, after⟩
        · exact ⟨rfl, rfl⟩
        · obtain ⟨-, -, counts'⟩ := agree
          exact ⟨rfl, rfl, congrArg (· - 1) counts'.depth, counts'.holds.blocks,
            counts'.holds.store⟩

/-- **Neither what lies beyond nor turns matter** to steps without loops, if the levels
are enough for all calls that can still become active. -/
theorem executeAbove_counting (makes : environment.Makes Step.LoopFree) (beyond beyond' : Executor)
    (more : Nat) {levels depth : Nat} (inside : depth ≤ maxDepth)
    (enough : maxDepth < levels + depth) (origin : Nat) {steps : List Step}
    (free : Step.LoopFree steps) :
    (counting depth).Couples (executeAbove environment beyond levels origin steps)
      (executeAbove (environment.withTurns more) beyond' levels origin steps) := by
  induction levels generalizing depth origin steps with
  -- The levels run out only beyond the bound on active calls.
  | zero => omega
  | succ levels ih =>
    have below : depth < maxDepth → ∀ origin {steps}, Step.LoopFree steps →
        (counting (depth + 1)).Couples (executeAbove environment beyond levels origin steps)
          (executeAbove (environment.withTurns more) beyond' levels origin steps) :=
      fun room origin _ free => ih room (by omega) origin free
    have same : RenderCouple environment (environment.withTurns more)
        (callsBy environment (executeAbove environment beyond levels))
        (callsBy (environment.withTurns more)
          (executeAbove (environment.withTurns more) beyond' levels)) (counting depth) :=
      { counting_state depth rfl with
        functions := rfl
        block := callBlock_counting below
        view := callView_counting makes more below }
    exact executeSteps_couple same fun step occurs =>
      Step.ownCouples_counting depth origin _ free occurs

/-! ## Executions -/

/-- **Steps without loops end by themselves**, in a state in which all calls have ended
again if they return. -/
theorem Environment.Executes.ends (makes : environment.Makes Step.LoopFree) {origin : Nat}
    {steps : List Step} (free : Step.LoopFree steps) {state : RenderState}
    (counts : state.Counts 0) {outcome : Outcome}
    (ran : environment.Executes origin steps state outcome) :
    environment.Ends origin steps state outcome ∧ (outcome.1 = .ok () → outcome.2.Counts 0) := by
  -- The levels of an execution are one more than the calls that can be active.
  have agree (beyond : Executor) (more : Nat) := executeAbove_counting makes
    (fun _ _ => return ()) beyond more (Nat.zero_le maxDepth) (Nat.lt_succ_self maxDepth) origin
    free state state ⟨rfl, counts⟩
  have same : outcome = (executeAbove environment (fun _ _ => return ()) (maxDepth + 1) origin
      steps).run.run state := by
    rw [← executeWithin_eq_executeAbove]
    exact ran.symm
  rw [same]
  refine ⟨⟨maxDepth + 1, 0, fun beyond more _ => (agree beyond more).eq.symm⟩, ?_⟩
  have agree' := agree (fun _ _ => return ()) 0
  rw [← agree'.eq] at agree'
  generalize (executeAbove environment _ (maxDepth + 1) origin steps).run.run state = result
    at agree'
  rcases result with ⟨error | _, after⟩
  · exact nofun
  · exact fun _ => agree'.2.2

/-- A layout that is applied is one whose program has no loop. -/
theorem counts_entered (makes : environment.Makes Step.LoopFree) {state entered : RenderState}
    (counts : state.Counts 0) {key : String} {view : CompiledView}
    (turn : environment.layoutTurn state = .entered key view entered) :
    entered.Counts 0 ∧ Step.LoopFree view.program.steps := by
  obtain ⟨path, store, -, -, -, compiled, rfl⟩ := layoutTurn_entered turn
  have kept := compileView_holds makes path counts.holds.store
  rw [compiled] at kept
  exact ⟨⟨counts.depth, counts.holds.blocks, kept.2⟩, kept.1⟩

/-- **The programs of all stages end by themselves.** -/
theorem Environment.Stages.end (makes : environment.Makes Step.LoopFree)
    {state last : RenderState} {stages : List Stage}
    (run : environment.Stages environment.Executes state stages last) (counts : state.Counts 0) :
    environment.Stages environment.Ends state stages last ∧ last.Counts 0 := by
  induction run with
  | nil => exact ⟨.nil, counts⟩
  | @cons state last stage stages turn ran _ ih =>
    obtain ⟨entered, free⟩ := counts_entered makes counts turn
    obtain ⟨ends, left⟩ := ran.ends makes free entered
    obtain ⟨behind, counts'⟩ := ih (left rfl)
    exact ⟨.cons turn ends behind, counts'⟩

/-- So does what the loop stops with. -/
theorem Environment.Stops.end (makes : environment.Makes Step.LoopFree) {last : RenderState}
    {outcome : Outcome} (stops : environment.Stops environment.Executes last outcome)
    (counts : last.Counts 0) : environment.Stops environment.Ends last outcome := by
  cases stops with
  | done turn => exact .done turn
  | refused turn => exact .refused turn
  | failed turn ran =>
    obtain ⟨entered, free⟩ := counts_entered makes counts turn
    exact .failed turn (ran.ends makes free entered).1

/-! ## Renders -/

/-- **The runs of a full render**: the program of the view, and then layouts one after the
other.  What it means that a program ran is a parameter. -/
inductive Environment.Renders (environment : Environment)
    (runs : Nat → List Step → RenderState → Outcome → Prop) (context : Value)
    (view : CompiledView) (store : ViewStore) : Outcome → Prop where
  | failed {error : RenderError} {after : RenderState}
      (ran : runs view.serial view.program.steps (environment.pageStart context store)
        (.error error, after)) :
      Renders environment runs context view store (.error error, after)
  | wrapped {page last : RenderState} {stages : List Stage} {outcome : Outcome}
      (ran : runs view.serial view.program.steps (environment.pageStart context store)
        (.ok (), page))
      (applied : environment.Stages runs page stages last)
      (stopped : environment.Stops runs last outcome) :
      Renders environment runs context view store outcome

/-- **The run of a render without layouts.** -/
inductive RendersPart
    (runs : Nat → List Step → RenderState → Outcome → Prop) (context : Value)
    (view : CompiledView) (store : ViewStore) : Outcome → Prop where
  | ran {result : Except RenderError Unit} {after : RenderState}
      (ran : runs view.serial view.program.steps
        { RenderState.start context store with partialDepth := 1 } (result, after)) :
      RendersPart runs context view store
        (result, { after with partialDepth := after.partialDepth - 1 })

/-- **A compilation and a render of what was compiled that end**: either nothing is
compiled, or the runs of the render reach an outcome, whose text is the result. -/
inductive Terminates (runs : CompiledView → ViewStore → Outcome → Prop) :
    Except ViewError CompiledView × ViewStore → Except RenderError String × ViewStore → Prop where
  | refused {error : ViewError} {after : ViewStore} :
      Terminates runs (.error error, after) (.error (.view error), after)
  | finished {view : CompiledView} {after : ViewStore} {outcome : Outcome}
      (reached : runs view after outcome) : Terminates runs (.ok view, after) outcome.text

/-- A render of what was compiled ends if it does for every view that is compiled. -/
theorem Terminates.bind {runs : CompiledView → ViewStore → Outcome → Prop}
    {compilation : Compiling CompiledView} {next : CompiledView → Rendering String}
    {store : ViewStore}
    (each : ∀ view after, compilation.run.run store = (.ok view, after) →
      Terminates runs (.ok view, after) ((next view).run.run after)) :
    Terminates runs (compilation.run.run store)
      ((do next (← Environment.compiling compilation) : Rendering String).run.run store) := by
  rw [run_bind, Environment.compiling, run_adapt]
  rcases compiled : compilation.run.run store with ⟨error | view, after⟩
  · exact .refused
  · exact each view after compiled

/-- A full render of a program without loops ends by itself. -/
theorem renderProgram_ends (makes : environment.Makes Step.LoopFree) {view : CompiledView}
    (free : Step.LoopFree view.program.steps) (context : Value) {store : ViewStore}
    (holds : store.Holds Step.LoopFree) :
    Terminates (environment.Renders environment.Ends context) (.ok view, store)
      ((environment.renderProgram view context).run.run store) := by
  have counts : (environment.pageStart context store).Counts 0 := ⟨rfl, nofun, holds⟩
  rw [Environment.renderProgram, textOf_run]
  refine .finished ?_
  rcases renderView_stages environment view context store with
    ⟨error, ran, failed⟩ | ⟨page, stages, last, ran, -, applied, stopped, -⟩
  · rw [← Prod.eta ((environment.renderView view).run.run (.start context store)), failed]
    exact .failed (ran.ends makes free counts).1
  · obtain ⟨ends, left⟩ := ran.ends makes free counts
    obtain ⟨applied', counts'⟩ := applied.end makes (left rfl)
    exact .wrapped ends applied' (stopped.end makes counts')

/-- A render without layouts of a program without loops ends by itself. -/
theorem renderPart_ends (makes : environment.Makes Step.LoopFree) {view : CompiledView}
    (free : Step.LoopFree view.program.steps) (context : Value) {store : ViewStore}
    (holds : store.Holds Step.LoopFree) :
    Terminates (RendersPart environment.Ends context) (.ok view, store)
      ((Environment.textOf context (environment.renderPart view)).run.run store) := by
  let start : RenderState := { RenderState.start context store with partialDepth := 1 }
  have counts : start.Counts 0 := ⟨rfl, nofun, holds⟩
  have ran : environment.Executes view.serial view.program.steps start _ := rfl
  rw [textOf_run]
  exact .finished (.ran (ran.ends makes free counts).1)

/-- **Renders end by themselves** when no program that they can meet has a loop: neither
those of the views nor those that are kept, nor the one that is rendered.  Views may
render themselves, blocks call themselves, and layouts declare each other. -/
theorem renders_terminate (makes : environment.Makes Step.LoopFree) {store : ViewStore}
    (holds : store.Holds Step.LoopFree) (context : Value) :
    (∀ view : CompiledView, Step.LoopFree view.program.steps →
      Terminates (environment.Renders environment.Ends context) (.ok view, store)
        ((environment.renderProgram view context).run.run store)) ∧
    (∀ path : String,
      Terminates (environment.Renders environment.Ends context)
        ((environment.compileView path).run.run store)
        ((environment.render path context).run.run store)) ∧
    (∀ path : String,
      Terminates (RendersPart environment.Ends context)
        ((environment.compileView path).run.run store)
        ((environment.renderPartial path context).run.run store)) ∧
    ∀ source : String,
      (∀ program, environment.compileSource Environment.sourceName source = .ok program →
        Step.LoopFree program.steps) →
      Terminates (environment.Renders environment.Ends context)
        ((environment.compileAnew Environment.sourceName source).run.run store)
        ((environment.renderString source context).run.run store) := by
  have compiled (path : String) (view : CompiledView) (after : ViewStore)
      (same : (environment.compileView path).run.run store = (.ok view, after)) :
      Step.LoopFree view.program.steps ∧ after.Holds Step.LoopFree := by
    have kept := compileView_holds makes path holds
    rwa [same] at kept
  refine ⟨fun view free => renderProgram_ends makes free context holds, fun path => ?_,
    fun path => ?_, fun source freeSource => ?_⟩
  · refine .bind fun view after same => ?_
    obtain ⟨free, kept⟩ := compiled path view after same
    exact renderProgram_ends makes free context kept
  · refine .bind fun view after same => ?_
    obtain ⟨free, kept⟩ := compiled path view after same
    exact renderPart_ends makes free context kept
  · refine .bind fun view after same => ?_
    rw [compileAnew_run] at same
    cases made : environment.compileSource Environment.sourceName source with
    | error error =>
      rw [made] at same
      cases same
    | ok program =>
      rw [made] at same
      cases same
      have kept : ViewStore.Holds { store with next := store.next + 1 } Step.LoopFree := holds
      exact renderProgram_ends makes (freeSource program made) context kept

/-- A view that renders itself, and one that is its own layout. -/
theorem renders_terminate_self :
    let deep := "<js @render=\"deep\"/>"
    let cycle := "<js @layout=\"cycle\"/>"
    let environment : Environment :=
      { options := {}, source := .memory [("deep", deep), ("cycle", cycle)],
        functions := fun _ _ => .ok .null }
    environment.Makes Step.LoopFree ∧ ViewStore.Holds {} Step.LoopFree ∧
      Terminates (environment.Renders environment.Ends .undefined)
        ((environment.compileView "deep").run.run {})
        ((environment.render "deep" .undefined).run.run {}) ∧
      Terminates (environment.Renders environment.Ends .undefined)
        ((environment.compileView "cycle").run.run {})
        ((environment.render "cycle" .undefined).run.run {}) := by
  intro deep cycle environment
  have single {step : Step} (leaf : step.bodies = [])
      (other : ∀ condition body, step ≠ .loop condition body) : Step.LoopFree [step] := by
    rintro condition body (mem | ⟨mem, direct, -⟩)
    · exact other condition body (List.mem_singleton.mp mem).symm
    · rw [List.mem_singleton.mp mem, leaf] at direct
      cases direct
  have compiledDeep :
      environment.compileSource "deep" deep = .ok ⟨[.renderPartial "deep" none ⟨1, 1⟩]⟩ := by
    cbv
  have compiledCycle : environment.compileSource "cycle" cycle = .ok ⟨[.setLayout "cycle"]⟩ := by
    cbv
  have makes : environment.Makes Step.LoopFree := by
    intro key source program loaded compiled
    have entry : (key, source) ∈ [("deep", deep), ("cycle", cycle)] := by
      simp only [environment, ViewSource.load] at loaded
      split at loaded
      · cases loaded
        exact Table.mem_of_get? (by assumption)
      · cases loaded
    rcases List.mem_pair.mp entry with same | same
    · obtain ⟨rfl, rfl⟩ := Prod.mk.inj same
      cases compiledDeep.symm.trans compiled
      exact single rfl fun _ _ => Step.noConfusion
    · obtain ⟨rfl, rfl⟩ := Prod.mk.inj same
      cases compiledCycle.symm.trans compiled
      exact single rfl fun _ _ => Step.noConfusion
  have empty : ViewStore.Holds {} Step.LoopFree := List.forall_mem_nil _
  obtain ⟨-, paths, -⟩ := renders_terminate makes empty .undefined
  exact ⟨makes, empty, paths "deep", paths "cycle"⟩

end ViewTemplate
