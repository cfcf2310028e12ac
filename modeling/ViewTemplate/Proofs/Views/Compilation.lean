import ViewTemplate.Proofs.Effect
import ViewTemplate.Proofs.Program.Balance
import ViewTemplate.Proofs.Yields
import ViewTemplate.Views.Environment

/-!
# Compiling views in closed form

What compiling the view of a path returns and leaves behind, as one equation, and
what it says about the views that are kept.

A view is found among the kept ones or made from the source that its key has now;
only one that was made is added, and only if views are kept at all.  No failure
touches the store.

## Main Definitions

* `Environment.keptView?` — the view that is kept under a key
* `Environment.storeWith` — the store behind a compilation
* `Environment.Makes` — all programs that can be made of views have a property
* `ViewStore.Holds` — all programs that are kept have a property
* `ViewStore.FromSources` — the kept views were made from sources
* `ViewStore.HoldsBalanced` — the kept views are balanced
-/

namespace ViewTemplate

/-- The view that is kept under a key, if views are kept. -/
def Environment.keptView? (environment : Environment) (store : ViewStore) (key : String) :
    Option CompiledView :=
  if environment.options.cacheViews then store.cache.get? key else none

/-- The store behind the compilation of a program for a key. -/
def Environment.storeWith (environment : Environment) (store : ViewStore) (key : String)
    (program : Program) : ViewStore :=
  if environment.options.cacheViews then
    { cache := store.cache.set key ⟨store.next, program⟩, next := store.next + 1 }
  else { store with next := store.next + 1 }

/-- Compiling a source numbers the program and keeps nothing. -/
theorem compileAnew_run (environment : Environment) (name source : String) (store : ViewStore) :
    (environment.compileAnew name source).run.run store =
      match environment.compileSource name source with
      | .error error => (.error error, store)
      | .ok program => (.ok ⟨store.next, program⟩, { store with next := store.next + 1 }) := by
  rw [Environment.compileAnew, run_bind, run_ofExcept]
  cases environment.compileSource name source with
  | error error => rfl
  | ok program => rfl

/-- **Compiling a view in closed form.** -/
theorem compileView_run (environment : Environment) (path : String) (store : ViewStore) :
    (environment.compileView path).run.run store =
      match environment.source.resolve path with
      | .error error => (.error error, store)
      | .ok key =>
        match environment.keptView? store key with
        | some view => (.ok view, store)
        | none =>
          match environment.source.load key with
          | .error error => (.error error, store)
          | .ok source =>
            match environment.compileSource key source with
            | .error error => (.error error, store)
            | .ok program =>
              (.ok ⟨store.next, program⟩, environment.storeWith store key program) := by
  unfold Environment.compileView
  simp only [run_bind, run_ofExcept]
  cases environment.source.resolve path with
  | error error => rfl
  | ok key =>
    have looked : (Environment.compileView.kept? environment key).run.run store =
        (.ok (environment.keptView? store key), store) := rfl
    simp only [looked]
    cases environment.keptView? store key with
    | some view => rfl
    | none =>
      simp only [run_bind, run_ofExcept]
      cases environment.source.load key with
      | error error => rfl
      | ok source =>
        simp only [compileAnew_run]
        cases environment.compileSource key source with
        | error error => rfl
        | ok program =>
          simp only [Environment.compileView.keep, run_modify]
          rfl

/-! ## Programs with a property -/

variable {environment : Environment} {property : List Step → Prop}

/-- **Every program that the environment makes of a view has a property.** -/
def Environment.Makes (environment : Environment) (property : List Step → Prop) : Prop :=
  ∀ key source program, environment.source.load key = .ok source →
    environment.compileSource key source = .ok program → property program.steps

/-- **Every program that is kept has a property.** -/
def ViewStore.Holds (store : ViewStore) (property : List Step → Prop) : Prop :=
  ∀ entry ∈ store.cache, property entry.2.program.steps

/-- Compiling a view finds or makes a program with the property, and keeps no other. -/
theorem compileView_holds (makes : environment.Makes property) (path : String)
    {store : ViewStore} (holds : store.Holds property) :
    match (environment.compileView path).run.run store with
    | (.ok view, after) => property view.program.steps ∧ after.Holds property
    | (.error _, after) => after.Holds property := by
  rw [compileView_run]
  cases environment.source.resolve path with
  | error error => exact holds
  | ok key =>
    dsimp only
    cases found : environment.keptView? store key with
    | some view =>
      have kept : store.cache.get? key = some view := by
        unfold Environment.keptView? at found
        split at found
        · exact found
        · cases found
      exact ⟨holds _ (Table.mem_of_get? kept), holds⟩
    | none =>
      dsimp only
      cases loaded : environment.source.load key with
      | error error => exact holds
      | ok source =>
        dsimp only
        cases made : environment.compileSource key source with
        | error error => exact holds
        | ok program =>
          have good : property program.steps := makes key source program loaded made
          refine ⟨good, fun entry mem => ?_⟩
          unfold Environment.storeWith at mem
          split at mem
          · rcases Table.mem_set mem with old | new
            · exact holds entry old
            · exact new ▸ good
          · exact holds entry mem

/-- **The kept views were made from sources.** -/
def ViewStore.FromSources (environment : Environment) (store : ViewStore) : Prop :=
  ∀ entry ∈ store.cache, ∃ name source,
    environment.compileSource name source = .ok entry.2.program

/-- What is true of the programs of all sources is true of the kept views. -/
theorem ViewStore.FromSources.holds {store : ViewStore}
    (fromSources : store.FromSources environment) {property : List Step → Prop}
    (made : ∀ name source, Yields (environment.compileSource name source)
      fun program => property program.steps) : store.Holds property := by
  intro entry mem
  obtain ⟨name, source, compiled⟩ := fromSources entry mem
  exact made name source entry.2.program compiled

/-! ## Balanced views -/

/-- The program of a source is balanced. -/
theorem compileSource_balanced (environment : Environment) (name source : String) :
    Yields (environment.compileSource name source) fun program => Balanced program.steps :=
  .bind (.any _) fun _ _ => .mapError _ fun _ compiled => Document.compile_balanced compiled

/-- **The kept views are balanced**, as those of compiled documents are. -/
def ViewStore.HoldsBalanced (store : ViewStore) : Prop :=
  ∀ entry ∈ store.cache, Balanced entry.2.program.steps

/-- Compiling a view finds or makes a balanced one, and keeps no other. -/
theorem compileView_balanced (environment : Environment) (path : String) {store : ViewStore}
    (holds : store.HoldsBalanced) :
    match (environment.compileView path).run.run store with
    | (.ok view, after) => Balanced view.program.steps ∧ after.HoldsBalanced
    | (.error _, after) => after.HoldsBalanced :=
  compileView_holds (fun key source _ _ => compileSource_balanced environment key source _)
    path holds

end ViewTemplate
