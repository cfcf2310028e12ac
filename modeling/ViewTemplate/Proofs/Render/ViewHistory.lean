import ViewTemplate.Proofs.Render.Compiling

/-!
# Views that are replaced

What an environment over views in memory serves while it is used and its views are replaced.

An environment is asked for views, for renders and for the programs of sources, and in between
the texts of its views are replaced.  The `Turn`s of such a use tell what was asked, what came
of it, and what was kept before and behind it; and a timeline accounts for them
(`Environment.Accounts`) when it lists the compilations that lead from each store to the next.

Which compilations a render made on the way cannot be read off what came of it, and it may
have failed half way.  So the result is stated of every timeline that accounts for the turns,
and there is one (`log_serves_compilations`): with views kept, a key is served by its first
compilation for good, and otherwise by the source that it has.  In either case no turn alters
an entry, nor adds one for a view that has no program.

## Main Definitions

* `Shelf` — views in memory, and the compiled ones
* `Operation`, `Operation.run` — what an environment is used for
* `Turn`, `Environment.log` — a use of an environment
* `Turn.Performs` — the compilations of a turn
* `Environment.Accounts` — the compilations of all turns
-/

namespace ViewTemplate

variable {environment : Environment}

/-- Views in memory, and the compiled ones. -/
structure Shelf where
  /-- The texts of the views by key. -/
  views : Table String
  /-- The compiled views that are kept. -/
  store : ViewStore

/-- **What an environment over views in memory is used for.** -/
inductive Operation where
  | compileView (path : String)
  | render (path : String) (context : Value)
  | renderPartial (path : String) (context : Value)
  | renderString (source : String) (context : Value)
  | compileSource (name source : String)
  /-- A view gets another text, or a first one. -/
  | replace (path source : String)

/-- What comes of an operation. -/
inductive Answer where
  | view (result : Except ViewError CompiledView)
  | text (result : Except RenderError String)
  | program (result : Except ViewError Program)
  | replaced

/-- What an operation answers and leaves behind. -/
def Operation.run (environment : Environment) (shelf : Shelf) : Operation → Answer × Shelf
  | compileView path =>
    let run := ((environment.over shelf.views).compileView path).run.run shelf.store
    (.view run.1, { shelf with store := run.2 })
  | render path context => text ((environment.over shelf.views).render path context)
  | renderPartial path context => text ((environment.over shelf.views).renderPartial path context)
  | renderString source context =>
    text ((environment.over shelf.views).renderString source context)
  | compileSource name source => (.program (environment.compileSource name source), shelf)
  | replace path source =>
    (.replaced, { shelf with views := shelf.views.set (canonicalViewPath path) source })
where
  /-- What a render answers and leaves behind. -/
  text (rendering : Rendering String) : Answer × Shelf :=
    let run := rendering.run.run shelf.store
    (.text run.1, { shelf with store := run.2 })

/-- **An operation that was done.** -/
structure Turn where
  operation : Operation
  /-- What there was before it. -/
  before : Shelf
  /-- What came of it. -/
  answer : Answer
  /-- What there was behind it. -/
  after : Shelf

/-- The turn in which an operation is done. -/
def Operation.turn (environment : Environment) (shelf : Shelf) (operation : Operation) : Turn :=
  ⟨operation, shelf, (operation.run environment shelf).1, (operation.run environment shelf).2⟩

/-- **Operations one after the other.** -/
def Environment.log (environment : Environment) : Shelf → List Operation → List Turn
  | _, [] => []
  | shelf, operation :: rest =>
    let turn := operation.turn environment shelf
    turn :: log environment turn.after rest

/-- What there is behind operations. -/
def Environment.shelfAfter (environment : Environment) : Shelf → List Operation → Shelf
  | shelf, [] => shelf
  | shelf, operation :: rest =>
    shelfAfter environment (operation.turn environment shelf).after rest

/-! ## Compilations of turns -/

/-- **The compilations of a turn** lead from the views that were kept before it to those that
were kept behind it; and a view that was asked for is the only one that was compiled. -/
structure Turn.Performs (environment : Environment) (turn : Turn) (events : List Compilation) :
    Prop where
  compiles : environment.Compiles turn.before.views turn.before.store events turn.after.store
  answers : ∀ {path view}, turn.operation = .compileView path → turn.answer = .view (.ok view) →
    events = [⟨turn.before.views, canonicalViewPath path, view⟩]

/-- **The compilations of all turns**, in order. -/
inductive Environment.Accounts (environment : Environment) : List Turn → List Compilation → Prop
  where
  | nil : Accounts environment [] []
  | cons {turn : Turn} {turns : List Turn} {events timeline : List Compilation}
      (performs : turn.Performs environment events) (rest : Accounts environment turns timeline) :
      Accounts environment (turn :: turns) (events ++ timeline)

/-- A render compiles views. -/
theorem render_compiling (views : Table String) (path : String) (context : Value) :
    (compiling environment views).Bounds ((environment.over views).render path context) :=
  .bind (.adapt _ (compileView_compiling path)) fun view =>
    textOf_bounds (renderView_compiling environment views view) context

theorem renderPartial_compiling (views : Table String) (path : String) (context : Value) :
    (compiling environment views).Bounds ((environment.over views).renderPartial path context) :=
  .bind (.adapt _ (compileView_compiling path)) fun view =>
    textOf_bounds (renderPart_compiling environment views view) context

theorem renderString_compiling (views : Table String) (source : String) (context : Value) :
    (compiling environment views).Bounds
      ((environment.over views).renderString source context) :=
  .bind (.adapt _ (compileAnew_compiling _ source)) fun view =>
    textOf_bounds (renderView_compiling environment views view) context

/-- **Every operation is done in a turn of compilations.** -/
theorem Operation.turn_performs (environment : Environment) (shelf : Shelf)
    (operation : Operation) :
    ∃ events, (operation.turn environment shelf).Performs environment events := by
  have rendered {rendering : Rendering String}
      (bounds : (compiling environment shelf.views).Bounds rendering) :
      ∃ events, environment.Compiles shelf.views shelf.store events
        (rendering.run.run shelf.store).2 := by
    have allowed := bounds shelf.store
    generalize rendering.run.run shelf.store = result at allowed ⊢
    rcases result with ⟨error | text, after⟩
    · exact allowed
    · exact allowed
  cases operation with
  | compileView path =>
    have answered : (Operation.compileView path).run environment shelf =
        (.view (((environment.over shelf.views).compileView path).run.run shelf.store).1,
          { shelf with
            store := (((environment.over shelf.views).compileView path).run.run shelf.store).2 }) :=
      rfl
    rcases compiled : ((environment.over shelf.views).compileView path).run.run shelf.store with
      ⟨error | view, after⟩
    · rw [compiled] at answered
      obtain rfl := compileView_over_error compiled
      refine ⟨[], ?_, ?_⟩
      · rw [turn, answered]
        exact .nil
      · rintro path' view ⟨⟩ answer
        rw [turn, answered] at answer
        cases answer
    · rw [compiled] at answered
      refine ⟨[⟨shelf.views, canonicalViewPath path, view⟩], ?_, ?_⟩
      · rw [turn, answered]
        exact .view compiled .nil
      · rintro path' view' ⟨⟩ answer
        rw [turn, answered] at answer
        cases answer
        rfl
  | render path context =>
    obtain ⟨events, compiles⟩ := rendered (render_compiling shelf.views path context)
    exact ⟨events, compiles, Operation.noConfusion⟩
  | renderPartial path context =>
    obtain ⟨events, compiles⟩ := rendered (renderPartial_compiling shelf.views path context)
    exact ⟨events, compiles, Operation.noConfusion⟩
  | renderString source context =>
    obtain ⟨events, compiles⟩ := rendered (renderString_compiling shelf.views source context)
    exact ⟨events, compiles, Operation.noConfusion⟩
  | compileSource name source => exact ⟨[], .nil, Operation.noConfusion⟩
  | replace path source => exact ⟨[], .nil, Operation.noConfusion⟩

/-- Every turn of a log is one of compilations. -/
theorem log_performs (environment : Environment) (shelf : Shelf) (operations : List Operation) :
    ∀ turn ∈ environment.log shelf operations,
      ∃ events, turn.Performs environment events := by
  induction operations generalizing shelf with
  | nil => exact List.forall_mem_nil _
  | cons operation rest ih =>
    exact List.forall_mem_cons.mpr ⟨operation.turn_performs environment shelf, ih _⟩

/-- There are compilations that account for a log. -/
theorem exists_accounts (environment : Environment) (shelf : Shelf)
    (operations : List Operation) :
    ∃ timeline, environment.Accounts (environment.log shelf operations) timeline := by
  induction operations generalizing shelf with
  | nil => exact ⟨[], .nil⟩
  | cons operation rest ih =>
    obtain ⟨events, performs⟩ := operation.turn_performs environment shelf
    obtain ⟨timeline, accounts⟩ := ih (operation.turn environment shelf).after
    exact ⟨events ++ timeline, .cons performs accounts⟩

namespace Environment.Accounts

variable {turns : List Turn} {timeline : List Compilation}

/-- What a turn answers is one of the compilations. -/
theorem answered (accounts : environment.Accounts turns timeline) {turn : Turn}
    (mem : turn ∈ turns) {path : String} {view : CompiledView}
    (asked : turn.operation = .compileView path) (answer : turn.answer = .view (.ok view)) :
    ⟨turn.before.views, canonicalViewPath path, view⟩ ∈ timeline := by
  induction accounts with
  | nil => cases mem
  | cons performs _ ih =>
    rcases List.mem_cons.mp mem with rfl | later
    · rw [performs.answers asked answer]
      exact List.mem_append_left _ List.mem_cons_self
    · exact List.mem_append_right _ (ih later)

/-- **Where nothing is kept, every program is that of the source which the key had.** -/
theorem current (accounts : environment.Accounts turns timeline)
    (forgetful : environment.options.cacheViews = false) :
    ∀ event ∈ timeline, event.Current environment := by
  induction accounts with
  | nil => exact List.forall_mem_nil _
  | cons performs _ ih =>
    exact List.forall_mem_append.mpr ⟨performs.compiles.current forgetful, ih⟩

/-- **Where views are kept, first compilations are remembered**, turn by turn. -/
theorem remembers {shelf : Shelf} {operations : List Operation} {past : List Compilation}
    (accounts : environment.Accounts (environment.log shelf operations) timeline)
    (caching : environment.options.cacheViews = true)
    (before : environment.Remembers past shelf.store) :
    environment.Remembers (past ++ timeline) (environment.shelfAfter shelf operations).store := by
  induction operations generalizing shelf past timeline with
  | nil =>
    cases accounts
    rw [List.append_nil]
    exact before
  | cons operation rest ih =>
    cases accounts with
    | @cons _ _ events timeline performs later =>
      rw [← List.append_assoc]
      exact ih later (before.compiles caching performs.compiles)

end Environment.Accounts

/-- **Views are served by their first compilations, or by their sources.**  An environment
over views in memory is used in any way, and while it is used its views are replaced.

Where views are kept, a view that is asked for has the very program that the first
compilation of its key made, whether that was asked for too or came about during a render;
and that was the program of the source which the key had then.  Where nothing is kept, it has
the program of the source that its key has now.  Either way no turn alters an entry, and none
adds one for a key whose source is missing or cannot be compiled. -/
theorem log_serves_compilations (environment : Environment) (views : Table String)
    (operations : List Operation) :
    let log := environment.log ⟨views, {}⟩ operations
    (∃ timeline, environment.Accounts log timeline) ∧
    (∀ timeline, environment.Accounts log timeline →
      (environment.options.cacheViews = true →
        environment.Remembers timeline (environment.shelfAfter ⟨views, {}⟩ operations).store ∧
        ∀ turn ∈ log, ∀ path view, turn.operation = .compileView path →
          turn.answer = .view (.ok view) →
          (firstCompilation? (canonicalViewPath path) timeline).map (·.view) = some view) ∧
      (environment.options.cacheViews = false →
        ∀ turn ∈ log, ∀ path view, turn.operation = .compileView path →
          turn.answer = .view (.ok view) →
          (⟨turn.before.views, canonicalViewPath path, view⟩ : Compilation).Current
            environment)) ∧
    ∀ turn ∈ log, ∀ key,
      (∀ kept, turn.before.store.cache.get? key = some kept →
        turn.after.store.cache.get? key = some kept) ∧
      ((∀ source, turn.before.views.get? key = some source →
          ∃ error, environment.compileSource key source = .error error) →
        turn.after.store.cache.get? key = turn.before.store.cache.get? key) := by
  intro log
  refine ⟨exists_accounts environment _ operations, fun timeline accounts => ⟨?_, ?_⟩, ?_⟩
  · intro caching
    have remembers : environment.Remembers timeline
        (environment.shelfAfter ⟨views, {}⟩ operations).store :=
      accounts.remembers caching .empty
    refine ⟨remembers, fun turn mem path view asked answer => ?_⟩
    have served := remembers.again _ (accounts.answered mem asked answer)
    dsimp only at served
    exact served
  · intro forgetful turn mem path view asked answer
    have event := accounts.answered mem asked answer
    exact accounts.current forgetful _ event
  · intro turn mem key
    obtain ⟨events, performs⟩ := log_performs environment _ operations turn mem
    refine ⟨fun kept => performs.compiles.keeps, fun fails => performs.compiles.adds_none ?_⟩
    rintro view ⟨source, found, compiled⟩
    obtain ⟨error, failed⟩ := fails source found
    rw [failed] at compiled
    cases compiled

/-- A view that a render compiled and that is replaced afterwards: asked for under another
path, it still has the program that the render made. -/
theorem log_serves_compilations_replaced :
    let environment : Environment :=
      { options := {}, source := .memory [], functions := fun _ _ => .ok .null }
    let operations : List Operation :=
      [.renderString "<js @render=\"page\" />" .undefined, .replace "page" "two",
        .compileView "./page"]
    let log := environment.log ⟨[("page", "one")], {}⟩ operations
    ∃ timeline turn view, environment.Accounts log timeline ∧ turn ∈ log ∧
      turn.before.views = [("page", "two")] ∧ turn.operation = .compileView "./page" ∧
      turn.answer = .view (.ok view) ∧ view.serial = 1 ∧
      (view.program == ⟨[.text "one"]⟩) = true ∧
      (firstCompilation? "page" timeline).map (·.view) = some view := by
  intro environment operations log
  let rendered : Turn := (Operation.renderString "<js @render=\"page\" />" .undefined).turn
    environment ⟨[("page", "one")], {}⟩
  let turn : Turn := (Operation.compileView "./page").turn environment
    ((Operation.replace "page" "two").turn environment rendered.after).after
  have mem : turn ∈ log := .tail _ (.tail _ (.head _))
  have key : canonicalViewPath "./page" = "page" := by
    decide +kernel
  have replaced : turn.before.views = [("page", "two")] := by
    decide +kernel
  obtain ⟨timeline, accounts⟩ :=
    (log_serves_compilations environment [("page", "one")] operations).1
  have served := ((log_serves_compilations environment [("page", "one")] operations).2.1 timeline
    accounts).1 rfl |>.2 turn mem "./page"
  rw [key] at served
  let compiled := (((environment.over turn.before.views).compileView "./page").run.run
    turn.before.store).1
  have evaluated : compiled.toOption.map (fun view =>
      (view.serial, view.program == ⟨[.text "one"]⟩)) = some (1, true) := by
    decide +kernel
  cases found : compiled with
  | error error =>
    rw [found] at evaluated
    cases evaluated
  | ok view =>
    rw [found] at evaluated
    obtain ⟨second, program⟩ := Prod.mk.inj (Option.some.inj evaluated)
    have answer : turn.answer = .view (.ok view) := congrArg Answer.view found
    have first := served view rfl answer
    exact ⟨timeline, turn, view, accounts, mem, replaced, rfl, answer, second, program, first⟩

end ViewTemplate
