import ViewTemplate.Proofs.Effect

/-!
# Annotated actions

Actions that do what others do and have more to say when they fail.

What an action did before it failed can be read off the state that it leaves behind only as
far as the state shows it.  Anything else has to come with the error.  So an annotated action
has errors of another type, which carry what is to be known; apart from that it is the same
action, with the same values and the same states on either exit.

An `Annotation` says what the errors of the two have to do with each other and with the states
before and behind the failure.  Its laws are those of an `Effect`, and for the same reason: an
action that is put together from annotated ones is annotated (`Annotation.Annotates.bind`).

## Main Definitions

* `Annotation` — how the state may change on return, and what errors say on a throw
* `Annotation.Annotates` — an action and its annotated form do the same
-/

namespace ViewTemplate

variable {σ ε ε' α β : Type}

/-- **What annotated errors say**, in a form that composes. -/
structure Annotation (σ ε ε' : Type) where
  /-- The states of which something is said. -/
  holds : σ → Prop
  /-- What a return may do. -/
  returns : σ → σ → Prop
  /-- What an error and its annotated form say of a throw. -/
  throws : σ → ε → ε' → σ → Prop
  /-- Returning may leave the state alone. -/
  returns_refl : ∀ state, returns state state
  /-- Two actions that return one after the other are an action that returns. -/
  returns_trans : ∀ {first second third},
    returns first second → returns second third → returns first third
  /-- Something is said of the states behind a return as well. -/
  holds_after : ∀ {first second}, holds first → returns first second → holds second
  /-- Errors say the same of an action that throws behind one that returned. -/
  throws_after : ∀ {first second third error error'}, holds first →
    returns first second → throws second error error' third → throws first error error' third

namespace Annotation

/-- **Two runs from the same state ended alike**, in the same state and with the same value or
with an error and its annotated form. -/
inductive Allows (notes : Annotation σ ε ε') (state : σ) :
    Except ε α × σ → Except ε' α × σ → Prop where
  | ok {value : α} {after : σ} (said : notes.returns state after) :
      Allows notes state (.ok value, after) (.ok value, after)
  | error {error : ε} {error' : ε'} {after : σ} (said : notes.throws state error error' after) :
      Allows notes state (.error error, after) (.error error', after)

/-- **An action and its annotated form do the same**, whatever the state is in which they
start. -/
def Annotates (notes : Annotation σ ε ε') (action : ExceptT ε (StateM σ) α)
    (annotated : ExceptT ε' (StateM σ) α) : Prop :=
  ∀ state, notes.holds state →
    notes.Allows state (action.run.run state) (annotated.run.run state)

variable {notes : Annotation σ ε ε'}

/-- What follows two actions that returned did alike behind them as well. -/
theorem Allows.after {start middle : σ} (holds : notes.holds start)
    (first : notes.returns start middle) {result : Except ε α × σ}
    {result' : Except ε' α × σ} (rest : notes.Allows middle result result') :
    notes.Allows start result result' := by
  cases rest with
  | ok said => exact .ok (notes.returns_trans first said)
  | error said => exact .error (notes.throws_after holds first said)

namespace Annotates

theorem pure (value : α) :
    notes.Annotates (Pure.pure value : ExceptT ε (StateM σ) α) (Pure.pure value) :=
  fun state _ => .ok (notes.returns_refl state)

/-- Errors that say the truth of a state that they leave alone. -/
theorem throw {error : ε} {error' : ε'}
    (said : ∀ state, notes.throws state error error' state) :
    notes.Annotates (throw error : ExceptT ε (StateM σ) α) (throw error') :=
  fun state _ => .error (said state)

/-- Results that depend on no state, with errors that say the truth of any. -/
theorem ofExcept {result : Except ε α} {rename : ε → ε'}
    (said : ∀ error state, notes.throws state error (rename error) state) :
    notes.Annotates (MonadExcept.ofExcept result : ExceptT ε (StateM σ) α)
      (MonadExcept.ofExcept (result.mapError rename)) := by
  cases result with
  | ok value => exact pure value
  | error error => exact throw (said error)

theorem modify {change : σ → σ} (allowed : ∀ state, notes.returns state (change state)) :
    notes.Annotates (modify change : ExceptT ε (StateM σ) Unit) (modify change) :=
  fun state _ => .ok (allowed state)

theorem modifyGet {change : σ → α × σ}
    (allowed : ∀ state, notes.returns state (change state).2) :
    notes.Annotates (modifyGet change : ExceptT ε (StateM σ) α) (modifyGet change) :=
  fun state _ => .ok (allowed state)

/-- Actions that look at the state first are compared at the state that they saw. -/
theorem get_bind {next : σ → ExceptT ε (StateM σ) α} {next' : σ → ExceptT ε' (StateM σ) α}
    (rest : ∀ state, notes.holds state →
      notes.Allows state ((next state).run.run state) ((next' state).run.run state)) :
    notes.Annotates (get >>= next) (get >>= next') :=
  rest

/-- **Sequences.** -/
theorem bind {action : ExceptT ε (StateM σ) α} {action' : ExceptT ε' (StateM σ) α}
    {next : α → ExceptT ε (StateM σ) β} {next' : α → ExceptT ε' (StateM σ) β}
    (first : notes.Annotates action action')
    (rest : ∀ value, notes.Annotates (next value) (next' value)) :
    notes.Annotates (action >>= next) (action' >>= next') := by
  intro state holds
  rw [run_bind, run_bind]
  have alike := first state holds
  generalize action.run.run state = result at alike ⊢
  generalize action'.run.run state = result' at alike ⊢
  cases alike with
  | ok before => exact .after holds before (rest _ _ (notes.holds_after holds before))
  | error said => exact .error said

theorem map {action : ExceptT ε (StateM σ) α} {action' : ExceptT ε' (StateM σ) α}
    (change : α → β) (h : notes.Annotates action action') :
    notes.Annotates (change <$> action) (change <$> action') := by
  rw [map_eq_pure_bind, map_eq_pure_bind]
  exact bind h fun _ => pure _

end Annotates

end Annotation

end ViewTemplate
