import Mathlib
import ViewTemplate.Proofs.Render.Nesting
import ViewTemplate.Proofs.Render.Watch
import ViewTemplate.Render.Layout

/-!
# Sessions

What a state of a render can be used for from its start on, and what its counter of active
calls shows all the while.

A session is a list of requests, which are done one after the other in the same state,
whether or not the ones before failed: full renders and parts, layouts, views in place,
calls of print blocks, and changes that have nothing to do with calls.  All of them can be
done under watch, and a session under watch comes out as the session does
(`session_counts_calls`).  So at every point of it the counter is the number of active
calls, and calls are refused when `maxDepth` others are active and at no other time.

## Main Definitions

* `Request` — what a state can be used for
* `Request.run`, `Request.watch` — what is done, as it is and under watch
* `session` — requests one after the other
-/

namespace ViewTemplate

/-! ## Requests -/

/-- **What a state of a render can be used for.** -/
inductive Request where
  /-- A view, and then its layouts. -/
  | full (view : CompiledView)
  /-- A view without layouts. -/
  | part (view : CompiledView)
  /-- The layouts that are registered. -/
  | layouts
  /-- The view of a path in place. -/
  | inPlace (path : String) (overrides : Option Value) (position : Position)
  /-- A print block, as an expression at some place would call it. -/
  | block (index : Nat) (arguments : List Value) (position : Position)
  /-- A change that has nothing to do with calls. -/
  | change (make : RenderState → RenderState)
    (still : ∀ state, (make state).depth = state.depth)

/-- What is done on a request. -/
def Request.run (environment : Environment) : Request → Render Unit
  | full view => environment.renderView view
  | part view => environment.renderPart view
  | layouts => environment.renderLayouts
  | inPlace path overrides position => environment.calls.view path overrides position
  | block index arguments position => do
    let _ ← (environment.calls.block index arguments).adapt (RenderError.ofEval position)
  | change make _ => modify make

section

variable (environment : Environment) (execute : Executor)

/-- The layouts that are registered, not more than `budget` of them, with steps executed in
a given way. -/
def layoutsBy : (budget : Nat) → Render Unit
  | 0 => throw .tooManyLayouts
  | budget + 1 => do
    match ← modifyGet fun state => (state.pendingLayout, { state with pendingLayout := none }) with
    | none => return ()
    | some path =>
      let key ← MonadExcept.ofExcept ((environment.source.resolve path).mapError .view)
      let applied := (← get).layouts
      if applied.contains key then
        throw (.layoutCycle (applied ++ [key]))
      else
        let view ← Render.ofCompiling (environment.compileView path)
        modify fun state =>
          { state with
            layouts := applied ++ [key], target := state.target.startLayout, frames := [[]] }
        execute view.serial view.program.steps
        layoutsBy budget

/-- A view, and then its layouts, with steps executed in a given way. -/
def viewBy (view : CompiledView) : Render Unit := do
  match environment.options.defaultLayout with
  | some path => modify (·.setLayout path)
  | none => pure ()
  execute view.serial view.program.steps
  layoutsBy environment execute (environment.source.viewCount + 1)

end

/-- **What is done on a request, under watch**: no call is active at its beginning, nor at
its end. -/
def Request.watch (environment : Environment) (alarm : RenderError) : Request → Render Unit
  | full view => watched alarm [] (viewBy environment execute view)
  | part view => watched alarm [] (executePart execute view)
  | layouts => watched alarm [] (layoutsBy environment execute (environment.source.viewCount + 1))
  | inPlace path overrides position => calls.view path overrides position
  | block index arguments position => do
    let _ ← (calls.block index arguments).adapt (RenderError.ofEval position)
  | change make _ => watched alarm [] (modify make)
where
  /-- Executions under watch outside all calls. -/
  execute : Executor := watchedWithin environment alarm (maxDepth + 1) []
  /-- Calls under watch outside all others. -/
  calls : Calls := watchedCalls environment alarm [] (watchedWithin environment alarm maxDepth)

/-- **Requests one after the other**, and what came of each. -/
def session (run : Request → Render Unit) :
    List Request → StateM RenderState (List (Except RenderError Unit))
  | [] => return []
  | request :: rest => do
    let result ← (run request).run
    return result :: (← session run rest)

/-- A session goes on where its first request ends, whether or not that failed. -/
theorem session_cons (run : Request → Render Unit) (request : Request) (rest : List Request)
    (state : RenderState) :
    (session run (request :: rest)).run state =
      (((run request).run.run state).1 ::
          ((session run rest).run ((run request).run.run state).2).1,
        ((session run rest).run ((run request).run.run state).2).2) := rfl

/-! ## Requests under watch -/

section

variable {environment : Environment} {alarm : RenderError}

/-- Executions in a render are those under watch outside all calls. -/
theorem execute_couples (origin : Nat) (steps : List Step) :
    (tallying []).Couples (Request.watch.execute environment alarm origin steps)
      (environment.execute origin steps) :=
  watchedWithin_couples alarm (Nat.zero_add _) origin steps

/-- What is done with compiled views leaves the counter alone. -/
theorem ofCompiling_couples {α : Type} {active : List String} (action : Compiling α) :
    (tallying active).Couples (Render.ofCompiling action) (Render.ofCompiling action) := by
  rintro state _ ⟨rfl, tallies⟩
  rw [Render.ofCompiling_run]
  rcases action.run.run state.store with ⟨error | value, store⟩
  · exact ⟨rfl, rfl, tallies⟩
  · exact ⟨rfl, rfl, tallies⟩

theorem layoutsBy_couples (budget : Nat) :
    (tallying []).Couples (layoutsBy environment (Request.watch.execute environment alarm) budget)
      (environment.applyLayouts budget) := by
  induction budget with
  | zero => exact .throw _
  | succ budget ih =>
    refine .bind (.modifyGet ?_) fun pending => ?_
    · rintro state _ ⟨rfl, tallies⟩
      exact ⟨rfl, rfl, tallies⟩
    · cases pending with
      | none => exact .pure _
      | some path =>
        have key : (tallying []).Couples
            (MonadExcept.ofExcept ((environment.source.resolve path).mapError .view) : Render _)
            (MonadExcept.ofExcept ((environment.source.resolve path).mapError .view)) := by
          cases environment.source.resolve path with
          | error error => exact .throw _
          | ok key => exact .pure _
        refine .bind key fun key => .get_bind ?_
        rintro state _ ⟨rfl, tallies⟩
        dsimp only
        split
        · exact ⟨rfl, rfl, tallies⟩
        · refine Coupling.Couples.bind (ofCompiling_couples _) (fun view => ?_) _ _ ⟨rfl, tallies⟩
          refine .bind (.modify ?_) fun _ => .bind (execute_couples _ _) fun _ => ih
          rintro state _ ⟨rfl, tallies⟩
          exact ⟨rfl, tallies.of_eq rfl⟩

theorem viewBy_couples (view : CompiledView) :
    (tallying []).Couples (viewBy environment (Request.watch.execute environment alarm) view)
      (environment.renderView view) := by
  have rest : (tallying []).Couples
      (do Request.watch.execute environment alarm view.serial view.program.steps
          layoutsBy environment (Request.watch.execute environment alarm)
            (environment.source.viewCount + 1))
      (do environment.execute view.serial view.program.steps
          environment.renderLayouts) :=
    .bind (execute_couples _ _) fun _ => layoutsBy_couples _
  unfold viewBy Environment.renderView
  cases environment.options.defaultLayout with
  | none => exact rest
  | some path =>
    refine .bind (.modify ?_) fun _ => rest
    rintro state _ ⟨rfl, tallies⟩
    exact ⟨rfl, tallies.of_eq rfl⟩

/-- A part counts as one, which leaves the counter of calls alone. -/
theorem executePart_couples {active : List String} {execute execute' : Executor}
    (view : CompiledView)
    (steps : ∀ origin steps, (tallying active).Couples (execute origin steps)
      (execute' origin steps)) :
    (tallying active).Couples (executePart execute view) (executePart execute' view) := by
  refine .bind (.modify ?_) fun _ => ?_
  · rintro state _ ⟨rfl, tallies⟩
    exact ⟨rfl, tallies.of_eq rfl⟩
  · intro state state' related
    rw [Render.alwaysThen_run, Render.alwaysThen_run]
    have agree := steps view.serial view.program.steps state state' related
    generalize (execute view.serial view.program.steps).run.run state = result at agree ⊢
    generalize (execute' view.serial view.program.steps).run.run state' = result' at agree ⊢
    rcases result with ⟨error | value, after⟩ <;> rcases result' with ⟨error' | value', after'⟩
    · obtain ⟨rfl, rfl, tallies⟩ := agree
      exact ⟨rfl, rfl, tallies.of_eq rfl⟩
    · exact agree.elim
    · exact agree.elim
    · obtain ⟨rfl, rfl, tallies⟩ := agree
      exact ⟨rfl, rfl, tallies.of_eq rfl⟩

/-- **Requests do the same under watch.** -/
theorem Request.watch_couples (request : Request) :
    (tallying []).Couples (request.watch environment alarm) (request.run environment) := by
  have inside (name : String) (origin : Nat) (steps : List Step) :
      (tallying [name]).Couples (watchedWithin environment alarm maxDepth [name] origin steps)
        (executeWithin environment maxDepth origin steps) :=
    watchedWithin_couples alarm (Nat.add_comm _ _) origin steps
  cases request with
  | full view => exact .watched alarm (viewBy_couples view)
  | part view => exact .watched alarm (executePart_couples view execute_couples)
  | layouts => exact .watched alarm (layoutsBy_couples _)
  | inPlace path overrides position =>
    exact watchedView_couples path (inside path) overrides position
  | block index arguments position =>
    refine .bind (.adapt _ ?_) fun _ => .pure _
    exact watchedBlock_couples (inside blockName) index arguments
  | change make still =>
    refine .watched alarm (.modify ?_)
    rintro state _ ⟨rfl, tallies⟩
    exact ⟨rfl, tallies.of_eq (still state)⟩

/-- **Sessions come out the same under watch**, and leave no call active: by induction on
the requests, each of which starts where the one before it ended. -/
theorem session_watch (requests : List Request) {state : RenderState}
    (tallies : state.Tallies []) :
    (session (Request.watch environment alarm) requests).run state =
        (session (Request.run environment) requests).run state ∧
      ((session (Request.run environment) requests).run state).2.Tallies [] := by
  induction requests generalizing state with
  | nil => exact ⟨rfl, tallies⟩
  | cons request rest ih =>
    have agree : (tallying []).Agrees ((request.watch environment alarm).run.run state)
        ((request.run environment).run.run state) :=
      request.watch_couples state state ⟨rfl, tallies⟩
    rw [session_cons, session_cons]
    generalize (request.watch environment alarm).run.run state = result at agree ⊢
    generalize (request.run environment).run.run state = result' at agree ⊢
    rcases result with ⟨error | value, after⟩ <;> rcases result' with ⟨error' | value', after'⟩
    · obtain ⟨rfl, rfl, tallies'⟩ := agree
      rw [(ih tallies').1]
      exact ⟨rfl, (ih tallies').2⟩
    · exact agree.elim
    · exact agree.elim
    · obtain ⟨rfl, rfl, tallies'⟩ := agree
      rw [(ih tallies').1]
      exact ⟨rfl, (ih tallies').2⟩

end

/-! ## Calls and their count -/

/-- **The counter of a render counts its active calls.**  Every session, from the start of a
render on and with any requests, comes out the same under watch, whatever the alarm: at no
point of it does the counter differ from the number of active calls or exceed `maxDepth`,
no call that ends leaves the counter changed, and a call of a view or of a print block is
refused, by its name, exactly when `maxDepth` others are active.

So programs in which calls nest to some depth, however many stand beside each other,
return if the depth is at most `maxDepth`, and are refused otherwise. -/
theorem session_counts_calls (environment : Environment) :
    (∀ (alarm : RenderError) (requests : List Request) (context : Value) (store : ViewStore),
      (session (Request.watch environment alarm) requests).run (.start context store) =
        (session (Request.run environment) requests).run (.start context store)) ∧
    (∀ (depth origin : Nat) (steps : List Step) (context : Value) (store : ViewStore),
      Nests environment store depth steps →
      let outcome := ((environment.execute origin steps).run.run (.start context store)).1
      (depth ≤ maxDepth → outcome = .ok ()) ∧
        (maxDepth < depth → ∃ name position, outcome = .error (.tooDeep name position))) := by
  constructor
  · intro alarm requests context store
    exact (session_watch requests ⟨rfl, Nat.zero_le _⟩).1
  · intro depth origin steps context store nests
    have ended := nests.execute maxDepth origin (.start context store) (Nat.zero_add _) (.refl _)
    change environment.Bears store 0 depth ((environment.execute origin steps).run.run
      (.start context store)) at ended
    unfold Environment.Bears at ended
    constructor
    · intro few
      rw [if_pos (by omega)] at ended
      exact ended.1
    · intro many
      rw [if_neg (by omega)] at ended
      exact ended

/-- A view in print blocks inside each other: the view is the last call that may be active
inside all but one of `maxDepth` blocks, and it is refused inside all of them. -/
theorem session_counts_calls_blocks :
    let environment : Environment :=
      { options := {}, source := .memory [("a", "x")], functions := fun _ _ => .ok .null }
    let steps : List Step := [.renderPartial "a" none ⟨1, 1⟩]
    ((environment.execute 0 (nestedBlocks steps 31)).run.run (.start .undefined {})).1 = .ok () ∧
      ∃ name position,
        ((environment.execute 0 (nestedBlocks steps 32)).run.run (.start .undefined {})).1 =
          .error (.tooDeep name position) := by
  intro environment steps
  have found : environment.programOf {} "a" = .ok ⟨[.text "x"]⟩ := by cbv
  have nests : Nests environment {} 1 steps := .view found (.write trivial .nil) .nil
  have calls := (session_counts_calls environment).2
  exact ⟨(calls 32 0 _ _ _ (nestedBlocks_nests nests 31)).1 (by decide),
    (calls 33 0 _ _ _ (nestedBlocks_nests nests 32)).2 (by decide)⟩

end ViewTemplate
