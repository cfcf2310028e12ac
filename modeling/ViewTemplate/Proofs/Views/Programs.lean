import ViewTemplate.Proofs.Document.Compilation
import ViewTemplate.Proofs.Views.Compilation

/-!
# The programs of views

Which program a path stands for, given the views that are kept.

A program that is kept is found again, and one that is not kept is made from the
source that its key has.  So compiling a view may add to the store, but it never
changes which program any path stands for (`compileView_samePrograms`).  That is
what lets a statement about a whole render speak of the programs of views without
saying when they were compiled.

## Main Definitions

* `Environment.programOf` — the program of a path
* `Environment.SamePrograms` — two stores under which every path has the same program
-/

namespace ViewTemplate

variable {environment : Environment}

/-! ## Programs of paths -/

/-- **The program of the view that a path names**, found among the kept views or made
from its source. -/
def Environment.programOf (environment : Environment) (store : ViewStore) (path : String) :
    Except ViewError Program :=
  ((environment.compileView path).run.run store).1.map (·.program)

/-- The program of a path in closed form. -/
theorem programOf_eq (environment : Environment) (store : ViewStore) (path : String) :
    environment.programOf store path =
      match environment.source.resolve path with
      | .error error => .error error
      | .ok key =>
        match environment.keptView? store key with
        | some view => .ok view.program
        | none =>
          match environment.source.load key with
          | .error error => .error error
          | .ok source => environment.compileSource key source := by
  rw [Environment.programOf, compileView_run]
  cases environment.source.resolve path with
  | error error => rfl
  | ok key =>
    dsimp only
    cases environment.keptView? store key with
    | some view => rfl
    | none =>
      dsimp only
      cases environment.source.load key with
      | error error => rfl
      | ok source =>
        dsimp only
        cases environment.compileSource key source with
        | error error => rfl
        | ok program => rfl

/-- **Two stores give every path the same program.** -/
def Environment.SamePrograms (environment : Environment) (before after : ViewStore) : Prop :=
  ∀ path, environment.programOf after path = environment.programOf before path

theorem Environment.SamePrograms.refl (store : ViewStore) :
    environment.SamePrograms store store :=
  fun _ => rfl

theorem Environment.SamePrograms.trans {first second third : ViewStore}
    (h : environment.SamePrograms first second) (h' : environment.SamePrograms second third) :
    environment.SamePrograms first third :=
  fun path => (h' path).trans (h path)

/-- The store behind a compilation keeps what was made, and what it kept before under
other keys. -/
theorem keptView?_storeWith (environment : Environment) (store : ViewStore) (key other : String)
    (program : Program) :
    environment.keptView? (environment.storeWith store key program) other =
      if environment.options.cacheViews = true ∧ key = other then some ⟨store.next, program⟩
      else environment.keptView? store other := by
  unfold Environment.keptView? Environment.storeWith
  cases environment.options.cacheViews with
  | false => simp
  | true =>
    simp only [if_true, true_and]
    exact Table.get?_set store.cache key other ⟨store.next, program⟩

/-- **Compiling a view changes no program.**  What is kept from now on is what would have
been made from the source at any later time. -/
theorem compileView_samePrograms (environment : Environment) (path : String)
    (store : ViewStore) :
    environment.SamePrograms store ((environment.compileView path).run.run store).2 := by
  rw [compileView_run]
  cases environment.source.resolve path with
  | error error => exact .refl store
  | ok key =>
    dsimp only
    cases kept : environment.keptView? store key with
    | some view => exact .refl store
    | none =>
      dsimp only
      cases loaded : environment.source.load key with
      | error error => exact .refl store
      | ok source =>
        dsimp only
        cases made : environment.compileSource key source with
        | error error => exact .refl store
        | ok program =>
          intro other
          rw [programOf_eq, programOf_eq]
          cases environment.source.resolve other with
          | error error => rfl
          | ok otherKey =>
            dsimp only
            rw [keptView?_storeWith]
            by_cases new : environment.options.cacheViews = true ∧ key = otherKey
            · obtain ⟨cached, rfl⟩ := new
              rw [if_pos ⟨cached, rfl⟩, kept, loaded]
              exact made.symm
            · rw [if_neg new]

/-- The view that compiling a path returns has the program of the path. -/
theorem programOf_eq_ok {store after : ViewStore} {path : String} {view : CompiledView}
    (compiled : (environment.compileView path).run.run store = (.ok view, after)) :
    environment.programOf store path = .ok view.program := by
  rw [Environment.programOf, compiled]
  rfl

/-- Where compiling a path fails, the path has no program. -/
theorem programOf_eq_error {store after : ViewStore} {path : String} {error : ViewError}
    (failed : (environment.compileView path).run.run store = (.error error, after)) :
    environment.programOf store path = .error error := by
  rw [Environment.programOf, failed]
  rfl

/-- A path that has a program compiles to a view with that program. -/
theorem compileView_of_programOf {store : ViewStore} {path : String} {program : Program}
    (h : environment.programOf store path = .ok program) :
    ∃ serial after,
      (environment.compileView path).run.run store = (.ok ⟨serial, program⟩, after) := by
  rw [Environment.programOf] at h
  rcases compiled : (environment.compileView path).run.run store with ⟨error | view, after⟩
  · rw [compiled] at h
    cases h
  · rw [compiled] at h
    cases h
    exact ⟨view.serial, after, rfl⟩

end ViewTemplate
