import ViewTemplate.Proofs.Render.CallLikeness

/-!
# Accounts of renders

A recorded render is one of the render itself: it has the same result and leaves the same
state behind, whatever the environment, the program and the state from which it starts.

A render corresponds to itself, with nothing that differs: that is a correspondence as well
(`Correspondence.itself`), and what is alike in it is the same.

## Main Definitions

* `Recorded.Accounts` — a recorded action is one of some action
* `Correspondence.itself` — the correspondence of a render with itself
-/

namespace ViewTemplate

open Snippet

variable {ε α : Type} [Reports ε]

/-- **A recorded action is an account of an action**: it comes out as the action does. -/
def Recorded.Accounts (recorded : Recorded ε α) (action : ExceptT ε (StateM RenderState) α) :
    Prop :=
  ∀ state, action.run.run state = ((recorded.run state).result, (recorded.run state).after)

/-! ## Renders and themselves -/

/-- **The correspondence of a render with itself.** -/
def Correspondence.itself (environment : Environment) :
    Correspondence environment environment where
  World := Unit
  le _ _ := True
  le_refl _ := trivial
  le_trans _ _ := trivial
  blocks _ := Eq
  blocks_mono _ same := same
  origins _ := Eq
  origins_mono _ same := same
  stocks _ := Eq
  fair _ _ _ := True
  lacking := True
  toSameNames := .refl environment
  functions := by
    intro _ arguments arguments' name like
    rw [like.eq id]
    cases environment.functions name arguments' with
    | ok value => exact .ok (.refl value fun _ _ => rfl)
    | error fault => exact .error trivial
  compile := by
    rintro _ stock _ path rfl
    refine ⟨(), trivial, ?_, rfl⟩
    cases ((environment.compileView path).run.run stock.store).1 with
    | ok view => exact .ok ⟨rfl, rfl⟩
    | error error => exact .error trivial
  bind := by
    rintro _ stock _ origin _ position parameters body rfl rfl
    exact ⟨(), trivial, rfl, rfl⟩
  find := by
    rintro _ stock _ index _ rfl rfl
    cases found : stock.blocks[index]? with
    | some block => exact .inl ⟨block, block.origin, rfl, rfl, rfl⟩
    | none => exact .inr ⟨trivial, rfl, rfl, rfl⟩
  apart := by
    rintro _ _ _ _ _ - - index _ index' _ _ _ rfl rfl
    rfl

namespace Correspondence

variable {environment : Environment}

/-- Every state matches itself. -/
theorem itself_states (state : RenderState) :
    (itself environment).States () state state := by
  refine ⟨rfl, .refl _ fun _ _ => rfl, List.forall₂_same.mpr fun frame _ => ?_⟩
  exact Value.Like.fields_refl frame fun _ _ => rfl

/-- What is alike in the correspondence of a render with itself is the same. -/
theorem Alike.accounts {recorded : Recorded ε α} {action : ExceptT ε (StateM RenderState) α}
    (same : (itself environment).Alike () (fun _ => Eq) recorded action) :
    recorded.Accounts action := by
  intro state
  obtain ⟨later, -, states, ends⟩ :=
    same state state (itself_states state) fun _ _ _ _ _ => trivial
  have after := states.eq id id
  refine Prod.ext ?_ after.symm
  dsimp only
  generalize (recorded.run state).result = result at ends ⊢
  generalize (action.run.run state).1 = result' at ends ⊢
  cases ends with
  | ok equal => exact congrArg Except.ok equal.symm
  | error _ => rfl

end Correspondence

/-! ## Accounts -/

namespace Environment

variable (environment : Environment)

/-- **A recorded execution is one of the execution.** -/
theorem record_accounts (origin : Nat) (steps : List Step) :
    (environment.record origin steps).Accounts (environment.execute origin steps) :=
  (Correspondence.record_alike (K := .itself environment) () steps rfl).accounts

/-- A recorded view is an account of the view and its layouts. -/
theorem recordView_accounts (view : CompiledView) :
    (environment.recordView view).Accounts (environment.renderView view) :=
  (Correspondence.recordView_alike (K := .itself environment) ⟨rfl, rfl⟩).accounts

/-- A recorded part is an account of the part. -/
theorem recordPart_accounts (view : CompiledView) :
    (environment.recordPart view).Accounts (environment.renderPart view) :=
  (Correspondence.recordPart_alike (K := .itself environment) ⟨rfl, rfl⟩).accounts

/-- The text of a render is what it has written when it ends. -/
theorem textOf_run (context : Value) (action : Render Unit) (store : ViewStore) :
    (textOf context action).run.run store =
      let run := action.run.run (.start context store)
      (run.1.map fun _ => run.2.output, run.2.store) := by
  unfold textOf
  rw [ExceptT.run_mk, StateT.run]
  generalize action.run.run (.start context store) = run
  obtain ⟨error | _, after⟩ := run
  · rfl
  · rfl

end Environment

end ViewTemplate
