import ViewTemplate.Proofs.Effect

/-!
# Two runs side by side

What two actions have in common when they are run from states that are related.

Much of what a render does is said by comparing it with another one: with other calls
below it, from a state that differs in some respect, with other settings.  In all of
these the results are the same, and the states stay related in one way while both
return and in another when both throw.  A `Coupling` is such a pair of relations, and
`Coupling.Couples` says that two actions keep to it from all related states.

An action that is coupled with itself need not be a copy: the relation may also say
what is true of either state.  So an invariant that makes two actions do the same is a
coupling of equal states (`Coupling.equal`).

Where results can differ too, or more is to be known of them than that they are the same,
they are related in some way of their own (`Coupling.Relates`).

## Main Definitions

* `Coupling` — how two states are related, on return and on throw
* `Coupling.Agrees` — two runs ended alike
* `Coupling.Couples` — all runs of two actions from related states do
* `Coupling.equal` — equal states that have a property
* `Coupling.Relates` — two actions do the same but for results, which are related
-/

namespace ViewTemplate

variable {σ ε ε' α β : Type}

/-- **How the states of two runs are related.** -/
structure Coupling (σ : Type) where
  /-- While both return. -/
  returns : σ → σ → Prop
  /-- When both threw. -/
  throws : σ → σ → Prop
  /-- Both may throw without a further change. -/
  throws_of_returns : ∀ {state other}, returns state other → throws state other

/-- Equal states, with a property while both return. -/
def Coupling.equal (property : σ → Prop) : Coupling σ where
  returns state other := state = other ∧ property state
  throws state other := state = other
  throws_of_returns h := h.1

/-- **Two runs ended alike**: with the same result, in related states. -/
def Coupling.Agrees (coupling : Coupling σ) : Except ε α × σ → Except ε α × σ → Prop
  | (.ok value, after), (.ok value', after') => value = value' ∧ coupling.returns after after'
  | (.error error, after), (.error error', after') =>
    error = error' ∧ coupling.throws after after'
  | _, _ => False

/-- **Two actions do the same** from any two related states. -/
def Coupling.Couples (coupling : Coupling σ) (action action' : ExceptT ε (StateM σ) α) : Prop :=
  ∀ state state' : σ, coupling.returns state state' →
    coupling.Agrees (action.run.run state) (action'.run.run state')

/-- Runs that agree in equal states are equal. -/
theorem Coupling.Agrees.eq {property : σ → Prop} {result result' : Except ε α × σ}
    (agree : (Coupling.equal property).Agrees result result') : result = result' := by
  rcases result with ⟨error | value, after⟩ <;> rcases result' with ⟨error' | value', after'⟩
  · obtain ⟨rfl, rfl⟩ := agree
    rfl
  · exact agree.elim
  · exact agree.elim
  · obtain ⟨rfl, rfl, -⟩ := agree
    rfl

namespace Coupling.Couples

variable {coupling : Coupling σ}

theorem pure (value : α) :
    coupling.Couples (Pure.pure value : ExceptT ε (StateM σ) α) (Pure.pure value) :=
  fun _ _ related => ⟨rfl, related⟩

theorem throw (error : ε) :
    coupling.Couples (throw error : ExceptT ε (StateM σ) α) (throw error) :=
  fun _ _ related => ⟨rfl, coupling.throws_of_returns related⟩

/-- Changes that keep states related. -/
theorem modify {change change' : σ → σ}
    (kept : ∀ state state', coupling.returns state state' →
      coupling.returns (change state) (change' state')) :
    coupling.Couples (modify change : ExceptT ε (StateM σ) Unit) (modify change') :=
  fun _ _ related => ⟨rfl, kept _ _ related⟩

/-- Changes that keep states related, with the same result. -/
theorem modifyGet {change change' : σ → α × σ}
    (kept : ∀ state state', coupling.returns state state' →
      (change state).1 = (change' state').1 ∧
        coupling.returns (change state).2 (change' state').2) :
    coupling.Couples (modifyGet change : ExceptT ε (StateM σ) α) (modifyGet change') :=
  kept

/-- Actions that look at the state first are compared at the states that they saw. -/
theorem get_bind {next next' : σ → ExceptT ε (StateM σ) α}
    (rest : ∀ state state', coupling.returns state state' →
      coupling.Agrees ((next state).run.run state) ((next' state').run.run state')) :
    coupling.Couples (get >>= next) (get >>= next') :=
  rest

/-- **Sequences.** -/
theorem bind {action action' : ExceptT ε (StateM σ) α} {next next' : α → ExceptT ε (StateM σ) β}
    (first : coupling.Couples action action')
    (rest : ∀ value, coupling.Couples (next value) (next' value)) :
    coupling.Couples (action >>= next) (action' >>= next') := by
  intro state state' related
  rw [run_bind, run_bind]
  have agree := first state state' related
  generalize action.run.run state = result at agree ⊢
  generalize action'.run.run state' = result' at agree ⊢
  rcases result with ⟨error | value, after⟩ <;> rcases result' with ⟨error' | value', after'⟩
  · exact agree
  · exact agree.elim
  · exact agree.elim
  · obtain ⟨rfl, related'⟩ := agree
    exact rest value after after' related'

theorem map {action action' : ExceptT ε (StateM σ) α} (change : α → β)
    (h : coupling.Couples action action') :
    coupling.Couples (change <$> action) (change <$> action') := by
  rw [map_eq_pure_bind, map_eq_pure_bind]
  exact bind h fun _ => pure _

/-- Renaming errors in the same way keeps actions alike. -/
theorem adapt {action action' : ExceptT ε (StateM σ) α} (rename : ε → ε')
    (h : coupling.Couples action action') :
    coupling.Couples (action.adapt rename) (action'.adapt rename) := by
  intro state state' related
  rw [run_adapt, run_adapt]
  have agree := h state state' related
  generalize action.run.run state = result at agree ⊢
  generalize action'.run.run state' = result' at agree ⊢
  rcases result with ⟨error | value, after⟩ <;> rcases result' with ⟨error' | value', after'⟩
  · exact ⟨congrArg rename agree.1, agree.2⟩
  · exact agree.elim
  · exact agree.elim
  · exact agree

end Coupling.Couples

/-! ## Related results -/

/-- **Two runs ended alike**, with results that are related in some way, in related states. -/
def Coupling.AgreesOn (coupling : Coupling σ) (related : α → β → Prop) :
    Except ε α × σ → Except ε β × σ → Prop
  | (.ok value, after), (.ok value', after') =>
    related value value' ∧ coupling.returns after after'
  | (.error error, after), (.error error', after') =>
    error = error' ∧ coupling.throws after after'
  | _, _ => False

/-- **Two actions do the same** from any two related states, but for their results, which
are related. -/
def Coupling.Relates (coupling : Coupling σ) (related : α → β → Prop)
    (action : ExceptT ε (StateM σ) α) (action' : ExceptT ε (StateM σ) β) : Prop :=
  ∀ state state' : σ, coupling.returns state state' →
    coupling.AgreesOn related (action.run.run state) (action'.run.run state')

namespace Coupling.Relates

variable {α' β' : Type} {coupling : Coupling σ} {related : α → α' → Prop}
  {related' : β → β' → Prop}

theorem pure {value : α} {value' : α'} (same : related value value') :
    coupling.Relates related (Pure.pure value : ExceptT ε (StateM σ) α) (Pure.pure value') :=
  fun _ _ states => ⟨same, states⟩

theorem throw (error : ε) :
    coupling.Relates related (throw error : ExceptT ε (StateM σ) α) (throw error) :=
  fun _ _ states => ⟨rfl, coupling.throws_of_returns states⟩

/-- Actions that look at the state first are compared at the states that they saw. -/
theorem get_bind {next : σ → ExceptT ε (StateM σ) α} {next' : σ → ExceptT ε (StateM σ) α'}
    (rest : ∀ state state', coupling.returns state state' →
      coupling.AgreesOn related ((next state).run.run state) ((next' state').run.run state')) :
    coupling.Relates related (get >>= next) (get >>= next') :=
  rest

/-- **Sequences.**  What follows is compared for related results. -/
theorem bind {action : ExceptT ε (StateM σ) α} {action' : ExceptT ε (StateM σ) α'}
    {next : α → ExceptT ε (StateM σ) β} {next' : α' → ExceptT ε (StateM σ) β'}
    (first : coupling.Relates related action action')
    (rest : ∀ value value', related value value' →
      coupling.Relates related' (next value) (next' value')) :
    coupling.Relates related' (action >>= next) (action' >>= next') := by
  intro state state' states
  rw [run_bind, run_bind]
  have agree := first state state' states
  generalize action.run.run state = result at agree ⊢
  generalize action'.run.run state' = result' at agree ⊢
  rcases result with ⟨error | value, after⟩ <;> rcases result' with ⟨error' | value', after'⟩
  · exact agree
  · exact agree.elim
  · exact agree.elim
  · exact rest value value' agree.1 after after' agree.2

/-- Renaming errors in the same way keeps actions alike. -/
theorem adapt {action : ExceptT ε (StateM σ) α} {action' : ExceptT ε (StateM σ) α'}
    (rename : ε → ε') (h : coupling.Relates related action action') :
    coupling.Relates related (action.adapt rename) (action'.adapt rename) := by
  intro state state' states
  rw [run_adapt, run_adapt]
  have agree := h state state' states
  generalize action.run.run state = result at agree ⊢
  generalize action'.run.run state' = result' at agree ⊢
  rcases result with ⟨error | value, after⟩ <;> rcases result' with ⟨error' | value', after'⟩
  · exact ⟨congrArg rename agree.1, agree.2⟩
  · exact agree.elim
  · exact agree.elim
  · exact agree

/-- Actions whose results are equal whenever they are related do the same. -/
theorem couples {related : α → α → Prop} (equal : ∀ {value value'}, related value value' →
    value = value') {action action' : ExceptT ε (StateM σ) α}
    (h : coupling.Relates related action action') : coupling.Couples action action' := by
  intro state state' states
  have agree := h state state' states
  generalize action.run.run state = result at agree ⊢
  generalize action'.run.run state' = result' at agree ⊢
  rcases result with ⟨error | value, after⟩ <;> rcases result' with ⟨error' | value', after'⟩
  · exact agree
  · exact agree.elim
  · exact agree.elim
  · exact ⟨equal agree.1, agree.2⟩

/-- Actions that do the same have equal results. -/
theorem of_couples {action action' : ExceptT ε (StateM σ) α}
    (h : coupling.Couples action action') : coupling.Relates Eq action action' := by
  intro state state' states
  have agree := h state state' states
  generalize action.run.run state = result at agree ⊢
  generalize action'.run.run state' = result' at agree ⊢
  rcases result with ⟨error | value, after⟩ <;> rcases result' with ⟨error' | value', after'⟩
  · exact agree
  · exact agree.elim
  · exact agree.elim
  · exact agree

end Coupling.Relates

/-- What follows a result may do the same for all results that are related. -/
theorem Coupling.Couples.bind_relates {α' : Type} {coupling : Coupling σ}
    {related : α → α' → Prop} {action : ExceptT ε (StateM σ) α}
    {action' : ExceptT ε (StateM σ) α'} {next : α → ExceptT ε (StateM σ) β}
    {next' : α' → ExceptT ε (StateM σ) β} (first : coupling.Relates related action action')
    (rest : ∀ value value', related value value' →
      coupling.Couples (next value) (next' value')) :
    coupling.Couples (action >>= next) (action' >>= next') := by
  have both : coupling.Relates Eq (action >>= next) (action' >>= next') :=
    .bind first fun value value' same => .of_couples (rest value value' same)
  exact both.couples id

end ViewTemplate
