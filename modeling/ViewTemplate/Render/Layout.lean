import ViewTemplate.Render.Execution

/-!
# Full renders

A view with the layouts around it.

## Main Definitions

* `Environment.renderView` — a view, and then its layouts
* `Environment.applyLayouts` — the layouts that are registered one after the other
* `Environment.render`, `Environment.renderPartial`, `Environment.renderString`,
  `Environment.renderProgram` — the texts of views, sources and programs

## Design Notes

A layout is applied when the view before it has ended. What was written so far becomes its content,
the slots stay as they are, and it starts without variables. No layout is applied twice in a render,
so there are never more of them than there are views.
-/

namespace ViewTemplate

/-- What makes a text and compiles views on the way. -/
abbrev Rendering := ExceptT RenderError (StateM ViewStore)

/-- The state in which a render starts. -/
def RenderState.start (context : Value) (store : ViewStore) : RenderState :=
  { context, store }

namespace Environment

variable (environment : Environment)

/-- Applies the registered layout, then the one that it registers, and so on, but not more than
`budget` of them. -/
def applyLayouts : (budget : Nat) → Render Unit
  | 0 => throw .tooManyLayouts
  | budget + 1 => do
    match ← modifyGet fun state => (state.pendingLayout, { state with pendingLayout := none }) with
    | none => return ()
    | some path =>
      let key ← MonadExcept.ofExcept ((environment.source.resolve path).mapError .view)
      let applied := (← get).layouts
      if applied.contains key then
        throw (.layoutCycle (applied ++ [key]))
      else
        let view ← Render.ofCompiling (environment.compileView path)
        modify fun state =>
          { state with
            layouts := applied ++ [key], target := state.target.startLayout, frames := [[]] }
        environment.execute view.serial view.program.steps
        applyLayouts budget

/-- Applies all the layouts that are registered one after the other. -/
def renderLayouts : Render Unit :=
  applyLayouts environment (environment.source.viewCount + 1)

/-- A view, and then its layouts. The default layout of the environment is registered before any
that the view declares. -/
def renderView (view : CompiledView) : Render Unit := do
  match environment.options.defaultLayout with
  | some path => modify (·.setLayout path)
  | none => pure ()
  environment.execute view.serial view.program.steps
  environment.renderLayouts

/-- A view without layouts. -/
def renderPart (view : CompiledView) : Render Unit :=
  executePart environment.execute view

/-! ### Texts -/

/-- The text that a render writes when it starts with a context. -/
def textOf (context : Value) (action : Render Unit) : Rendering String :=
  ExceptT.mk fun store =>
    match action.run.run (.start context store) with
    | (.ok _, state) => (.ok state.output, state.store)
    | (.error error, state) => (.error error, state.store)

/-- What is done with the compiled views of an environment. -/
def compiling {α : Type} (action : Compiling α) : Rendering α :=
  action.adapt .view

/-- The text of a program in a full render. -/
def renderProgram (view : CompiledView) (context : Value) : Rendering String :=
  textOf context (environment.renderView view)

/-- The text of the view of a path in a full render. -/
def render (path : String) (context : Value) : Rendering String := do
  environment.renderProgram (← compiling (environment.compileView path)) context

/-- The text of the view of a path without layouts. -/
def renderPartial (path : String) (context : Value) : Rendering String := do
  textOf context (environment.renderPart (← compiling (environment.compileView path)))

/-- How a source that belongs to no view is called in errors. -/
def sourceName : String := "<string>"

/-- The text of a source in a full render. -/
def renderString (source : String) (context : Value) : Rendering String := do
  environment.renderProgram (← compiling (environment.compileAnew sourceName source)) context

end Environment

end ViewTemplate
