import ViewTemplate.Document.Grammar
import ViewTemplate.Snippet.Scope
import ViewTemplate.Views.Options
import ViewTemplate.Views.Source

/-!
# Environments

What renders share: settings, the source of views, the functions of the host, and the views that
were compiled so far.

## Main Definitions

* `Environment` — settings, views and functions
* `Environment.create?` — an environment whose settings have no fault
* `Environment.compileSource` — the program of a source
* `CompiledView` — a program that was made by one compilation
* `ViewStore` — the compiled views that are kept
* `Environment.compileView` — the program of a view, made only once if views are kept

## Design Notes

Compilations are numbered, so that a program that is used again can be told from an equal one that
was made anew. A view that is kept is never looked at again, even if its source changes.
-/

namespace ViewTemplate

/-- What renders share. -/
structure Environment where
  /-- The settings. -/
  options : EnvironmentOptions
  /-- Where views come from. -/
  source : ViewSource
  /-- The names under which templates know functions of the host, each with the host's name. -/
  helpers : Table String := []
  /-- The functions of the host. -/
  functions : String → HostFunction
  /-- How many turns a loop may take: more than any render can wait for. -/
  turns : Nat := Number.twoTo 62

/-- The wording of a fault in the settings of an environment. -/
def environmentFaultMessage (fault : Template.OptionsFault) : String :=
  "Invalid environment options: " ++ fault.message

/-- A program that was made by one compilation. -/
structure CompiledView where
  /-- The number of the compilation. -/
  serial : Nat
  /-- What it made. -/
  program : Program

/-- The compiled views that are kept. -/
structure ViewStore where
  /-- The views by key. -/
  cache : Table CompiledView := []
  /-- The number of the next compilation. -/
  next : Nat := 0

/-- What works with the compiled views and can fail. -/
abbrev Compiling := ExceptT ViewError (StateM ViewStore)

namespace Environment

/-- An environment whose settings have no fault. -/
def create? (options : EnvironmentOptions) (source : ViewSource) (helpers : Table String)
    (functions : String → HostFunction) : Except Template.OptionsFault Environment := do
  options.lexical.validate
  return { options, source, helpers, functions }

/-- The value that a name has everywhere. -/
def helper? (environment : Environment) (name : String) : Option Value :=
  (environment.helpers.get? name).map fun hostName => .function (.host hostName)

/-- The program of a source; errors are labelled with `name`. -/
def compileSource (environment : Environment) (name source : String) :
    Except ViewError Program := do
  let document ← (Document.parse environment.options.lexical source).mapError (.parse name)
  document.compile.mapError (.compile name)

/-- Compiles a source and numbers the compilation. -/
def compileAnew (environment : Environment) (name source : String) : Compiling CompiledView := do
  let program ← MonadExcept.ofExcept (environment.compileSource name source)
  let store ← get
  set { store with next := store.next + 1 }
  return ⟨store.next, program⟩

/-- The program of the view that a path names. -/
def compileView (environment : Environment) (path : String) : Compiling CompiledView := do
  let key ← MonadExcept.ofExcept (environment.source.resolve path)
  match ← kept? key with
  | some view => return view
  | none =>
    let source ← MonadExcept.ofExcept (environment.source.load key)
    let view ← environment.compileAnew key source
    keep key view
    return view
where
  /-- The view that is kept under a key. -/
  kept? (key : String) : Compiling (Option CompiledView) := do
    let store ← get
    return if environment.options.cacheViews then store.cache.get? key else none
  /-- Keeps a view if views are kept. -/
  keep (key : String) (view : CompiledView) : Compiling Unit :=
    modify fun store =>
      if environment.options.cacheViews then
        { store with cache := store.cache.set key view }
      else
        store

end Environment

end ViewTemplate
