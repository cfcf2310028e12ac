import ViewTemplate.Proofs.Render.Declarations
import ViewTemplate.Proofs.Render.LayoutChain

/-!
# Layouts that are declared

Which layouts a render applies.

Executions leave nothing registered but what the executed program declares, whatever
they call, so the keys of the stages of a render follow the declarations of the
programs (`Environment.Stages.declares`), and how it ends can be said in terms of
declarations as well (`Environment.Stops.closes`).  Neither speaks of the states in
between, nor of when the views were compiled.

## Main Definitions

* `Environment.Declares` — layouts that follow from one another's declarations
* `Environment.Closes` — how a render ends, in terms of declarations
* `Environment.FollowsDeclarations` — what a render did behind its page
-/

namespace ViewTemplate

variable {environment : Environment}

/-! ## Declarations -/

/-- **Layouts that follow from one another's declarations**: the first one is declared
from outside, every other one by the program before it, and the last program declares
`next`.  Each is given by its key and its program. -/
inductive Environment.Declares (environment : Environment) (store : ViewStore) :
    (first : Option String) → List (String × Program) → (next : Option String) → Prop where
  | nil {next : Option String} : Declares environment store next [] next
  | cons {path key : String} {program : Program} {layouts : List (String × Program)}
      {next : Option String} (resolved : environment.source.resolve path = .ok key)
      (compiled : environment.programOf store path = .ok program)
      (behind : Declares environment store program.layout? layouts next) :
      Declares environment store (some path) ((key, program) :: layouts) next

/-- What holds of a state between two views of a render, where the render started with a
store. -/
structure RenderState.Between (environment : Environment) (store : ViewStore)
    (state : RenderState) : Prop where
  outside : state.partialDepth = 0
  holds : state.HoldsLayouts
  same : environment.SamePrograms store state.store

/-- The state in which a layout's program starts is between two views. -/
theorem between_entered {store : ViewStore} {state entered : RenderState}
    (between : state.Between environment store) {key : String} {view : CompiledView}
    (turn : environment.layoutTurn state = .entered key view entered) :
    entered.Between environment store ∧ Step.LayoutFirst view.program.steps := by
  obtain ⟨path, store', -, -, -, compiled, rfl⟩ := layoutTurn_entered turn
  have holds := compileView_holds (makes_layoutFirst environment) path between.holds.store
  have same := compileView_samePrograms environment path state.store
  rw [compiled] at holds same
  exact ⟨⟨between.outside, ⟨between.holds.blocks, holds.2⟩, between.same.trans same⟩, holds.1⟩

/-- A program that returns leaves a state between two views, with what was registered
before it or else what it declares. -/
theorem between_executed {store : ViewStore} {state after : RenderState}
    (between : state.Between environment store) {origin : Nat} {program : Program}
    (first : program.LayoutFirst)
    (ran : environment.Executes origin program.steps state (.ok (), after)) :
    after.Between environment store ∧
      after.pendingLayout = state.pendingLayout.or program.layout? := by
  obtain ⟨holds, layout, same⟩ := execute_declares first origin between.outside between.holds ran
  exact ⟨⟨ran.restored.partialDepth.trans between.outside, holds, between.same.trans same⟩, layout⟩

/-- **Stages follow declarations**, and what was applied is recorded. -/
theorem Environment.Stages.declares {store : ViewStore} {state last : RenderState}
    {stages : List Stage}
    (run : environment.Stages environment.Executes state stages last)
    (between : state.Between environment store) :
    last.Between environment store ∧
      last.layouts = state.layouts ++ stages.map (·.key) ∧
      environment.Declares store state.pendingLayout
        (stages.map fun stage => (stage.key, stage.view.program)) last.pendingLayout := by
  induction run with
  | nil => exact ⟨between, (List.append_nil _).symm, .nil⟩
  | @cons state last stage stages turn ran _ ih =>
    obtain ⟨path, store', registered, resolved, -, compiled, entered⟩ := layoutTurn_entered turn
    obtain ⟨within, first⟩ := between_entered between turn
    obtain ⟨behind, layout⟩ := between_executed within first ran
    have nothing : stage.entered.pendingLayout = none := by
      rw [entered]
      rfl
    have longer : stage.entered.layouts = state.layouts ++ [stage.key] := by
      rw [entered]
      rfl
    rw [nothing, Option.none_or] at layout
    obtain ⟨between', recorded, declares⟩ := ih behind
    refine ⟨between', ?_, ?_⟩
    · rw [recorded, ran.restored.layouts, longer, List.append_assoc]
      rfl
    · rw [registered]
      refine .cons resolved ?_ (layout ▸ declares)
      rw [← between.same path]
      exact programOf_eq_ok compiled

/-! ## Whole renders -/

/-- **How a render ends** behind layouts with some keys, the last of which declares
`next`: with no further declaration it is complete, a layout that was applied before
makes a cycle, and everything else is a view that has no program or fails. -/
inductive Environment.Closes (environment : Environment) (store : ViewStore)
    (keys : List String) : (next : Option String) → Except RenderError Unit → Prop where
  | complete : Closes environment store keys none (.ok ())
  | cycle {path key : String} (resolved : environment.source.resolve path = .ok key)
      (again : key ∈ keys) :
      Closes environment store keys (some path) (.error (.layoutCycle (keys ++ [key])))
  | uncompiled {path : String} {error : ViewError}
      (fresh : ∀ key, environment.source.resolve path = .ok key → key ∉ keys)
      (failed : environment.programOf store path = .error error) :
      Closes environment store keys (some path) (.error (.view error))
  | interrupted {path key : String} {view : CompiledView} {entered after : RenderState}
      {error : RenderError} (resolved : environment.source.resolve path = .ok key)
      (fresh : key ∉ keys) (compiled : environment.programOf store path = .ok view.program)
      (ran : environment.Executes view.serial view.program.steps entered (.error error, after)) :
      Closes environment store keys (some path) (.error error)

/-- The end of the loop in terms of declarations. -/
theorem Environment.Stops.closes {store : ViewStore} {last : RenderState} {outcome : Outcome}
    (stops : environment.Stops environment.Executes last outcome)
    (same : environment.SamePrograms store last.store) :
    environment.Closes store last.layouts last.pendingLayout outcome.1 := by
  cases stops with
  | done turn =>
    rw [layoutTurn_eq_done_iff.mp turn]
    exact .complete
  | refused turn =>
    obtain ⟨path, registered, cause⟩ := layoutTurn_refused turn
    rw [registered]
    rcases cause with ⟨key, resolved, again, rfl⟩ | ⟨cause, failed, fresh, rfl⟩
    · exact .cycle resolved again
    · exact .uncompiled fresh ((same path).symm.trans failed)
  | failed turn ran =>
    obtain ⟨path, store', registered, resolved, fresh, compiled, -⟩ := layoutTurn_entered turn
    rw [registered]
    exact .interrupted resolved fresh ((same path).symm.trans (programOf_eq_ok compiled)) ran

/-- A render starts between two views. -/
theorem between_pageStart (environment : Environment) (context : Value) {store : ViewStore}
    (fromSources : store.FromSources environment) :
    (environment.pageStart context store).Between environment store where
  outside := rfl
  holds := ⟨nofun, fromSources.holds (compileSource_layoutFirst environment)⟩
  same := .refl store

/-- **What a render did behind its page**: the stages it went through follow the
declarations, beginning with `first`, and it ended as the declaration behind the last of
them says. -/
structure Environment.FollowsDeclarations (environment : Environment) (store : ViewStore)
    (first : Option String) (page : RenderState) (stages : List Stage) (last : RenderState)
    (outcome : Outcome) : Prop where
  applied : environment.Stages environment.Executes page stages last
  stopped : environment.Stops environment.Executes last outcome
  declared : environment.Declares store first
    (stages.map fun stage => (stage.key, stage.view.program)) last.pendingLayout
  recorded : last.layouts = stages.map (·.key)
  distinct : (stages.map (·.key)).Nodup
  closed : environment.Closes store (stages.map (·.key)) last.pendingLayout outcome.1

/-- **A render applies the layouts that are declared.**  The program is that of a source.
Unless it fails by itself, the render goes through stages whose keys and programs follow
the declarations, from the default layout or else from the program's own; every key is
applied once, and there are no more stages than views; and the render ends as the
declaration behind the last stage says: it returns when there is none, and a key that was
applied before is reported behind all of those that were. -/
theorem renderView_follows_declarations {name source : String} {program : Program}
    (compiled : environment.compileSource name source = .ok program) {store : ViewStore}
    (fromSources : store.FromSources environment) (serial : Nat) (context : Value) :
    let run := (environment.renderView ⟨serial, program⟩).run.run (.start context store)
    let start := environment.pageStart context store
    let first := environment.options.defaultLayout.or program.layout?
    (∃ error, environment.Executes serial program.steps start (.error error, run.2) ∧
        run.1 = .error error) ∨
      ∃ page stages last,
        environment.Executes serial program.steps start (.ok (), page) ∧
        environment.FollowsDeclarations store first page stages last run ∧
        stages.length ≤ environment.source.viewCount := by
  intro run start first
  have declaresFirst : program.LayoutFirst :=
    compileSource_layoutFirst environment name source program compiled
  rcases renderView_stages environment ⟨serial, program⟩ context store with
    failed | ⟨page, stages, last, ran, nothing, applied, stopped, applies⟩
  · exact .inl failed
  · obtain ⟨between, declared⟩ :=
      between_executed (between_pageStart environment context fromSources) declaresFirst ran
    obtain ⟨between', recorded, declares⟩ := applied.declares between
    rw [nothing, List.nil_append] at recorded
    rw [declared] at declares
    have fewer : stages.length ≤ environment.source.viewCount := by
      have fewer := applies.length_le
      rwa [recorded, List.length_map] at fewer
    refine .inr ⟨page, stages, last, ran, ⟨applied, stopped, declares, recorded, ?_, ?_⟩, fewer⟩
    · exact recorded ▸ applies.distinct
    · exact recorded ▸ stopped.closes between'.same

/-- A page in two layouts that declare each other: its render goes through stages and
ends in a cycle. -/
theorem renderView_follows_declarations_cycle :
    let views : Table String := [("a", "<js @layout=\"b\"/>A"), ("b", "<js @layout=\"a\"/>B")]
    let environment : Environment :=
      { options := {}, source := .memory views, functions := fun _ _ => .ok .null }
    ∃ program, environment.compileSource "page" "<js @layout=\"a\"/>C" = .ok program ∧
      program.layout? = some "a" ∧
      let run := (environment.renderView ⟨0, program⟩).run.run (.start .undefined {})
      (∃ error, run.1 = .error error ∧
        error.message = "Cycle detected in view layouts: a -> b -> a") ∧
      ∃ page stages last,
        environment.Executes 0 program.steps (environment.pageStart .undefined {})
          (.ok (), page) ∧
        environment.FollowsDeclarations {} program.layout? page stages last run ∧
        stages.length ≤ 2 := by
  intro views environment
  let failure (program : Program) : Except RenderError (Option String) :=
    (((environment.renderView ⟨0, program⟩).run.run (.start .undefined {})).1.map
      fun _ => none).tryCatch fun error => .ok (some error.message)
  let returns (program : Program) : Bool :=
    ((environment.execute 0 program.steps).run.run (environment.pageStart .undefined {})).1.isOk
  have evaluated :
      (environment.compileSource "page" "<js @layout=\"a\"/>C").toOption.map (fun program =>
        (program.layout?, (failure program).toOption, returns program)) =
      some (some "a", some (some "Cycle detected in view layouts: a -> b -> a"), true) := by
    decide +kernel
  cases compiled : environment.compileSource "page" "<js @layout=\"a\"/>C" with
  | error error =>
    rw [compiled] at evaluated
    cases evaluated
  | ok program =>
    rw [compiled] at evaluated
    simp only [Except.toOption, Option.map_some, Option.some.injEq, Prod.mk.injEq] at evaluated
    obtain ⟨declared, failed, returned⟩ := evaluated
    refine ⟨program, rfl, declared, ?_, ?_⟩
    · dsimp only [failure] at failed
      cases ran : ((environment.renderView ⟨0, program⟩).run.run (.start .undefined {})).1 with
      | ok text =>
        rw [ran] at failed
        cases failed
      | error error =>
        rw [ran] at failed
        exact ⟨error, rfl, Option.some.inj (Option.some.inj failed)⟩
    · have empty : ViewStore.FromSources environment {} := List.forall_mem_nil _
      rcases renderView_follows_declarations compiled empty 0 .undefined with
        ⟨error, ran, -⟩ | found
      · -- The page itself returns.
        dsimp only [returns] at returned
        rw [show (environment.execute 0 program.steps).run.run _ = _ from ran] at returned
        cases returned
      · exact found

end ViewTemplate
