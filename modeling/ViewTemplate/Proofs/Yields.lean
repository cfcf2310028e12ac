import Mathlib.Logic.Basic

/-!
# What computations return

Statements about the result of a computation that can fail, whenever there is one.

`Yields computation property` is proved along the way in which the computation
is built: a sequence yields what its last part yields, and that part may use what
the parts before it yielded (`Yields.bind`).  A computation that fails yields
everything, so where success is part of what is claimed the statement is
`Returns computation property`: there is a result, and it has the property.

## Main Definitions

* `Yields` — whatever a computation returns has a property
* `Returns` — a computation returns something that has a property

-/

namespace ViewTemplate

variable {ε ε' α β : Type}

/-- **Whatever a computation returns has a property.** -/
def Yields (computation : Except ε α) (property : α → Prop) : Prop :=
  ∀ value, computation = .ok value → property value

namespace Yields

variable {property : α → Prop} {property' : β → Prop}

theorem pure {value : α} (h : property value) :
    Yields (Pure.pure value : Except ε α) property := by
  intro returned same
  cases same
  exact h

theorem throw (error : ε) : Yields (throw error : Except ε α) property := by
  intro returned same
  cases same

/-- Of a part whose result does not matter nothing has to be known. -/
theorem any (computation : Except ε α) : Yields computation fun _ => True :=
  fun _ _ => trivial

/-- **Sequences.**  What follows may use what the first part yielded. -/
theorem bind {computation : Except ε α} {next : α → Except ε β}
    (first : Yields computation property)
    (rest : ∀ value, property value → Yields (next value) property') :
    Yields (computation >>= next) property' := by
  intro returned same
  cases middle : computation with
  | error error =>
    rw [middle] at same
    cases same
  | ok value =>
    rw [middle] at same
    exact rest value (first value middle) returned same

theorem mono {wider : α → Prop} {computation : Except ε α} (h : Yields computation property)
    (widen : ∀ value, property value → wider value) : Yields computation wider :=
  fun value same => widen value (h value same)

theorem map {computation : Except ε α} (change : α → β)
    (h : Yields computation fun value => property' (change value)) :
    Yields (computation.map change) property' := by
  intro returned same
  cases computation with
  | error error => cases same
  | ok value =>
    cases same
    exact h value rfl

/-- Renaming errors changes no result. -/
theorem mapError {computation : Except ε α} (rename : ε → ε')
    (h : Yields computation property) : Yields (computation.mapError rename) property := by
  intro returned same
  cases computation with
  | error error => cases same
  | ok value =>
    cases same
    exact h returned rfl

end Yields

/-- **A computation returns something that has a property.** -/
def Returns (computation : Except ε α) (property : α → Prop) : Prop :=
  ∃ value, computation = .ok value ∧ property value

/-- A computation fails whatever is done to its value. -/
theorem eq_error_of_map {computation : Except ε α} {change : α → β} {error : ε}
    (failed : computation.map change = .error error) : computation = .error error := by
  cases computation with
  | error fault =>
    cases failed
    rfl
  | ok value => cases failed

end ViewTemplate
