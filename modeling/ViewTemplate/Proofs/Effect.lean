import Mathlib.Logic.Basic

/-!
# Effects of actions

What an action that changes a state may do to it, whether it returns or throws.

Evaluations and renders are both functions of a state that return or throw and
leave a state behind in either case.  Most of what is said about them has one
shape: the state after a return is related in one way to the state before, and
the state after a throw in another.  An `Effect` is such a pair of relations,
and `Effect.Bounds` says that an action keeps to it.

The laws that make the pair compose are fields of `Effect`, so that a bound for
a sequence follows from bounds for its parts (`Effect.Bounds.bind`) without any
further hypothesis.  The two relations are kept apart because some facts hold of
returns only: a capture for a slot that fails half way leaves its target open.

## Main Definitions

* `Effect` — how the state may change, on return and on throw
* `Effect.Allows` — a run from some state ended in a way that the effect allows
* `Effect.Bounds` — all runs of an action do
-/

namespace ViewTemplate

variable {σ ε ε' α β : Type}

/-- **How an action may change the state**, in a form that composes. -/
structure Effect (σ : Type) where
  /-- What a return may do. -/
  returns : σ → σ → Prop
  /-- What a throw may do. -/
  throws : σ → σ → Prop
  /-- Returning may leave the state alone. -/
  returns_refl : ∀ state, returns state state
  /-- Two actions that return one after the other are an action that returns. -/
  returns_trans : ∀ {first second third},
    returns first second → returns second third → returns first third
  /-- Throwing may leave the state alone. -/
  throws_refl : ∀ state, throws state state
  /-- An action that throws behind one that returned is an action that throws. -/
  throws_after : ∀ {first second third},
    returns first second → throws second third → throws first third

/-! ## Runs -/

@[simp] theorem run_pure (value : α) (state : σ) :
    (pure value : ExceptT ε (StateM σ) α).run.run state = (.ok value, state) := rfl

@[simp] theorem run_get (state : σ) :
    (get : ExceptT ε (StateM σ) σ).run.run state = (.ok state, state) := rfl

@[simp] theorem run_set (after state : σ) :
    (set after : ExceptT ε (StateM σ) PUnit).run.run state = (.ok ⟨⟩, after) := rfl

@[simp] theorem run_modify (change : σ → σ) (state : σ) :
    (modify change : ExceptT ε (StateM σ) PUnit).run.run state = (.ok ⟨⟩, change state) := rfl

@[simp] theorem run_modifyGet (change : σ → α × σ) (state : σ) :
    (modifyGet change : ExceptT ε (StateM σ) α).run.run state =
      (.ok (change state).1, (change state).2) := rfl

/-- A result that depends on no state leaves it alone. -/
@[simp] theorem run_ofExcept (result : Except ε α) (state : σ) :
    (MonadExcept.ofExcept result : ExceptT ε (StateM σ) α).run.run state = (result, state) := by
  cases result <;> rfl

/-- A sequence goes on from the state in which its first part returned, and ends
where that part threw. -/
theorem run_bind (action : ExceptT ε (StateM σ) α) (next : α → ExceptT ε (StateM σ) β)
    (state : σ) :
    (action >>= next).run.run state =
      match action.run.run state with
      | (.ok value, after) => (next value).run.run after
      | (.error error, after) => (.error error, after) := by
  rw [ExceptT.run_bind, StateT.run_bind]
  change (match action.run.run state with | (result, after) => _) = _
  rcases action.run.run state with ⟨_ | _, _⟩ <;> rfl

/-- Renaming errors does not change what is returned and left behind. -/
theorem run_adapt (rename : ε → ε') (action : ExceptT ε (StateM σ) α) (state : σ) :
    (action.adapt rename).run.run state =
      ((action.run.run state).1.mapError rename, (action.run.run state).2) := rfl

/-- What a result gives is its value. -/
theorem eq_ok_of_toOption {result : Except ε α} {value : α} (given : result.toOption = some value) :
    result = .ok value := by
  cases result with
  | error error => cases given
  | ok other => exact congrArg Except.ok (Option.some.inj given)

/-! ## Bounds -/

/-- What an effect allows a run to end in that started in `state`. -/
def Effect.Allows (effect : Effect σ) (state : σ) : Except ε α × σ → Prop
  | (.ok _, after) => effect.returns state after
  | (.error _, after) => effect.throws state after

/-- **An action keeps to an effect**, from whatever state it starts in. -/
def Effect.Bounds (effect : Effect σ) (action : ExceptT ε (StateM σ) α) : Prop :=
  ∀ state, effect.Allows state (action.run.run state)

namespace Effect.Bounds

variable {effect : Effect σ}

theorem pure (value : α) : effect.Bounds (Pure.pure value : ExceptT ε (StateM σ) α) :=
  effect.returns_refl

theorem throw (error : ε) : effect.Bounds (throw error : ExceptT ε (StateM σ) α) :=
  effect.throws_refl

/-- A change of the state that the effect allows. -/
theorem modify {change : σ → σ} (allowed : ∀ state, effect.returns state (change state)) :
    effect.Bounds (modify change : ExceptT ε (StateM σ) Unit) :=
  allowed

/-- A change of the state that the effect allows, with a result. -/
theorem modifyGet {change : σ → α × σ}
    (allowed : ∀ state, effect.returns state (change state).2) :
    effect.Bounds (modifyGet change : ExceptT ε (StateM σ) α) :=
  allowed

/-- An action that looks at the state first needs to keep to the effect only
from the state that it saw. -/
theorem get_bind {next : σ → ExceptT ε (StateM σ) α}
    (rest : ∀ state, effect.Allows state ((next state).run.run state)) :
    effect.Bounds (get >>= next) :=
  rest

/-- What follows an action that returned keeps to the effect of both. -/
theorem Allows.after {start middle : σ} (first : effect.returns start middle)
    {result : Except ε α × σ} (rest : effect.Allows middle result) :
    effect.Allows start result := by
  rcases result with ⟨_ | _, after⟩
  · exact effect.throws_after first rest
  · exact effect.returns_trans first rest

/-- **Sequences.**  Each part keeps to the effect, whatever came before it. -/
theorem bind {action : ExceptT ε (StateM σ) α} {next : α → ExceptT ε (StateM σ) β}
    (first : effect.Bounds action) (rest : ∀ value, effect.Bounds (next value)) :
    effect.Bounds (action >>= next) := by
  intro state
  rw [run_bind]
  have allowed := first state
  generalize action.run.run state = result at allowed ⊢
  rcases result with ⟨error | value, middle⟩
  · exact allowed
  · exact Allows.after allowed (rest value middle)

theorem map {action : ExceptT ε (StateM σ) α} (change : α → β) (h : effect.Bounds action) :
    effect.Bounds (change <$> action) := by
  rw [map_eq_pure_bind]
  exact bind h fun _ => pure _

/-- Renaming errors keeps the effect. -/
theorem adapt {action : ExceptT ε (StateM σ) α} (rename : ε → ε') (h : effect.Bounds action) :
    effect.Bounds (action.adapt rename) := by
  intro state
  rw [run_adapt]
  have allowed := h state
  generalize action.run.run state = result at allowed ⊢
  rcases result with ⟨error | value, after⟩
  · exact allowed
  · exact allowed

/-- An action that keeps to a narrower effect keeps to a wider one. -/
theorem mono {wider : Effect σ} {action : ExceptT ε (StateM σ) α} (h : effect.Bounds action)
    (returns : ∀ {state after}, effect.returns state after → wider.returns state after)
    (throws : ∀ {state after}, effect.throws state after → wider.throws state after) :
    wider.Bounds action := by
  intro state
  have allowed := h state
  generalize action.run.run state = result at allowed ⊢
  rcases result with ⟨error | value, after⟩
  · exact throws allowed
  · exact returns allowed

end Effect.Bounds

end ViewTemplate
