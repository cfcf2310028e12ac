import ViewTemplate.Proofs.Snippet.EvaluationRelation

/-!
# Two evaluations side by side

An expression sees no more of a state than the operations of its scope show, so
evaluations in two scopes do the same as soon as these operations do
(`evaluate_couples`).

That is the case of `evaluate_relates` in which values are alike if they are equal, and in
which all names count.

## Main Definitions

* `Scope.Couple` — the operations of two scopes do the same from related states
-/

namespace ViewTemplate

/-- A value is like itself where print blocks are matched with themselves. -/
theorem Value.Like.rfl {value : Value} : value.Like Eq value :=
  .refl value fun _ _ => .refl _

/-- Where print blocks are matched with themselves only, values are alike if they are equal. -/
theorem Value.like_eq : Value.Like Eq = Eq := by
  ext value value'
  constructor
  · exact Value.Like.eq id
  · rintro rfl
    exact .rfl

/-- Where print blocks are matched with themselves only, they are told apart. -/
theorem Value.keptApart_eq (value other : Value) : value.KeptApart Eq other := by
  rintro index - index' - _ _ rfl rfl
  exact Iff.rfl

namespace Snippet

variable {σ ε : Type} {scope scope' : Scope σ ε} {coupling : Coupling σ}

/-- **The operations of two scopes do the same from related states.** -/
structure Scope.Couple (scope scope' : Scope σ ε) (coupling : Coupling σ) : Prop where
  lookup : ∀ {state state'} (name : String), coupling.returns state state' →
    scope.lookup state name = scope'.lookup state' name
  this : ∀ {state state'}, coupling.returns state state' → scope.this state = scope'.this state'
  assign : ∀ {state state'} name value, coupling.returns state state' →
    Option.Rel coupling.returns (scope.assign? state name value) (scope'.assign? state' name value)
  callBlock : ∀ index arguments,
    coupling.Couples (scope.callBlock index arguments) (scope'.callBlock index arguments)
  callHost : scope.callHost = scope'.callHost

/-- Operations that do the same have equal values, for all names. -/
theorem Scope.Couple.relate (same : scope.Couple scope' coupling) :
    scope.Relate scope' coupling Eq fun _ => True where
  lookup {_ state' name} states _ := by
    rw [same.lookup name states]
    cases scope'.lookup state' name with
    | none => exact .none
    | some value => exact .some .rfl
  this states := by
    rw [same.this states]
    exact .rfl
  assign {_ _ name value _} states _ like := by
    rw [← like.eq id]
    exact same.assign name value states
  callBlock {index _ arguments _} here given := by
    rw [← here, ← given.eq id, Value.like_eq]
    exact .of_couples (same.callBlock index arguments)
  callHost name _ arguments' given := by
    rw [given.eq id, same.callHost]
    cases scope'.callHost name arguments' with
    | error fault => exact .error trivial
    | ok value => exact .ok .rfl
  apart := Value.keptApart_eq

/-- **Evaluations in two scopes do the same** when the operations of the scopes do. -/
theorem evaluate_couples (same : scope.Couple scope' coupling) (expr : Expr) :
    coupling.Couples (evaluate scope expr) (evaluate scope' expr) :=
  (evaluate_relates same.relate expr fun _ _ => trivial).couples (Value.Like.eq id)

/-- **Statements do the same** when declarations do as well. -/
theorem Statement.run_couples (same : scope.Couple scope' coupling)
    (declares : ∀ name value state state', coupling.returns state state' →
      coupling.returns (scope.declare state name value) (scope'.declare state' name value))
    (statement : Statement) : coupling.Couples (statement.run scope) (statement.run scope') := by
  refine (Statement.run_relates same.relate ?_ statement fun _ _ => trivial).couples
    (Value.Like.eq id)
  intro state state' name value value' states _ like
  rw [← like.eq id]
  exact declares name value state state' states

end Snippet

end ViewTemplate
