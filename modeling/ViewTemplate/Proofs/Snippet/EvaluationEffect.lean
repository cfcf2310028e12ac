import ViewTemplate.Proofs.Effect
import ViewTemplate.Snippet.Evaluation

/-!
# The effect of evaluations

An expression changes the state of its scope in two ways only: it assigns
variables, and it calls print blocks.  So whatever both keep to, every
evaluation keeps to, however the expression is built (`evaluate_bounds_on`) —
members, methods, and the callbacks of `map` and `filter` included.  Of the
assignments only those to variables count that the expression names as their
target (`Expr.targets`); `evaluate_bounds` is the case in which it does not matter
which these are.

A statement can also declare a variable, which `Statement.run_bounds` adds.

## Main Definitions

* `Expr.targets` — the variables that an expression assigns
* `Scope.Keeps` — the operations of a scope keep to an effect
* `Scope.KeepsOn` — they do as far as some variables are assigned only
-/

namespace ViewTemplate.Snippet

/-- The variables that an expression assigns: the targets of its assignments and of
its updates, wherever they stand in it. -/
def Expr.targets : Expr → List String
  | number .. | string .. | boolean .. | null _ | undefined _ | identifier .. | this _ => []
  | update _ _ name => [name]
  | binary _ _ left right => left.targets ++ right.targets
  | unary _ _ operand => operand.targets
  | member _ receiver key _ _ => receiver.targets ++ key.targets
  | call _ callee arguments => callee.targets ++ itemTargets arguments
  | ternary _ condition consequent alternate =>
    condition.targets ++ consequent.targets ++ alternate.targets
  | object _ properties => propertyTargets properties
  | array _ items => itemTargets items
  | assignment _ _ name value => name :: value.targets
where
  /-- The variables that expressions assign. -/
  itemTargets : List Expr → List String
    | [] => []
    | expr :: rest => expr.targets ++ itemTargets rest
  /-- The variables that the values of properties assign. -/
  propertyTargets : List (Property Expr) → List String
    | [] => []
    | ⟨_, _, expr⟩ :: rest => expr.targets ++ propertyTargets rest

variable {σ ε : Type} {scope : Scope σ ε} {effect : Effect σ} {assigned : String → Prop}

/-- **The operations of a scope keep to an effect.** -/
structure Scope.Keeps (scope : Scope σ ε) (effect : Effect σ) : Prop where
  /-- So does an assignment to a variable. -/
  assign : ∀ {state name value after},
    scope.assign? state name value = some after → effect.returns state after
  /-- So does a call of a print block. -/
  callBlock : ∀ index arguments, effect.Bounds (scope.callBlock index arguments)

/-- **The operations of a scope keep to an effect** as long as no other variables are
assigned than some. -/
structure Scope.KeepsOn (scope : Scope σ ε) (effect : Effect σ) (assigned : String → Prop) :
    Prop where
  /-- An assignment to one of these variables does. -/
  assign : ∀ {state name value after}, assigned name →
    scope.assign? state name value = some after → effect.returns state after
  /-- So does a call of a print block. -/
  callBlock : ∀ index arguments, effect.Bounds (scope.callBlock index arguments)

/-- Where all assignments keep to an effect, those to some variables do. -/
theorem Scope.Keeps.on (keeps : scope.Keeps effect) : scope.KeepsOn effect assigned :=
  ⟨fun _ => keeps.assign, keeps.callBlock⟩

namespace Scope.KeepsOn

theorem read (name : String) : effect.Bounds (scope.read name) :=
  .get_bind effect.returns_refl

theorem write (keeps : scope.KeepsOn effect assigned) {name : String} (target : assigned name)
    (value : Value) : effect.Bounds (scope.write name value) := by
  refine .get_bind fun state => ?_
  cases updated : scope.assign? state name value with
  | none => exact effect.throws_refl state
  | some after => exact keeps.assign target updated

theorem call (keeps : scope.KeepsOn effect assigned) (callable : Callable)
    (arguments : List Value) : effect.Bounds (scope.call callable arguments) := by
  unfold Scope.call
  cases callable with
  | block index => exact keeps.callBlock index arguments
  | host name =>
    dsimp only
    cases scope.callHost name arguments with
    | ok value => exact .pure _
    | error fault => exact .throw _

end Scope.KeepsOn

/-! ## Members -/

theorem ofExcept_bounds {α : Type} (result : Except (EvalError ε) α) :
    effect.Bounds (ofExcept result : Eval σ ε α) := by
  cases result with
  | ok value => exact .pure _
  | error error => exact .throw _

theorem callOnItems_bounds (keeps : scope.KeepsOn effect assigned) (callable : Callable) :
    ∀ (items : List Value) (index : Nat),
      effect.Bounds (callOnItems scope callable index items) := by
  intro items
  induction items with
  | nil => intro index; exact .pure _
  | cons item rest ih =>
    intro index
    exact .bind (keeps.call _ _) fun _ => .bind (ih _) fun _ => .pure _

theorem arrayMethod?_bounds (keeps : scope.KeepsOn effect assigned) (items : List Value)
    (name : String) (arguments : List Value) :
    effect.Bounds (arrayMethod? scope items name arguments) := by
  have lifted (method : String) : effect.Bounds
      (arrayMethod?.liftExcept (callback method arguments) : Eval σ ε Callable) := by
    cases callback (ε := ε) method arguments with
    | ok value => exact .pure _
    | error error => exact .throw _
  unfold arrayMethod?
  split
  · exact .bind (lifted _) fun _ => .bind (callOnItems_bounds keeps _ _ _) fun _ => .pure _
  · split
    · exact .bind (lifted _) fun _ => .bind (callOnItems_bounds keeps _ _ _) fun _ => .pure _
    · exact .pure _

theorem callMethod?_bounds (keeps : scope.KeepsOn effect assigned) (receiver : Value)
    (name : String) (arguments : List Value) :
    effect.Bounds (callMethod? scope receiver name arguments) := by
  unfold callMethod?
  split
  · exact .pure _
  · cases receiver with
    | string text =>
      dsimp only
      cases stringMethod? (ε := ε) text name arguments with
      | ok result => exact .pure _
      | error error => exact .throw _
    | array items => exact arrayMethod?_bounds keeps items name arguments
    | undefined | null | bool | number | object | function => exact .pure _

theorem callMember_bounds (keeps : scope.KeepsOn effect assigned) (callee : String)
    (receiver : Value) (key : String) (arguments : List Value) :
    effect.Bounds (callMember scope callee receiver key arguments) := by
  unfold callMember
  split
  · exact keeps.call _ _
  · refine .bind (callMethod?_bounds keeps receiver key arguments) fun result? => ?_
    cases result? with
    | some result => exact .pure _
    | none => exact .throw _

/-- What is no function cannot be called, and what is one keeps to the effect. -/
theorem callValue_bounds (keeps : scope.KeepsOn effect assigned) (callee : String) (value : Value)
    (arguments : List Value) :
    effect.Bounds (match value with
      | .function callable => scope.call callable arguments
      | _ => throw (.notAFunction callee)) := by
  cases value with
  | function callable => exact keeps.call _ _
  | _ => exact .throw _

/-! ## Expressions -/

mutual

/-- **Every evaluation keeps to the effect of block calls and of assignments to its
targets.** -/
theorem evaluate_bounds_on (keeps : scope.KeepsOn effect assigned) :
    (expr : Expr) → (∀ name ∈ expr.targets, assigned name) → effect.Bounds (evaluate scope expr)
  | .number .., _ | .string .., _ | .boolean .., _ | .null _, _ | .undefined _, _ => .pure _
  | .identifier _ name, _ => Scope.KeepsOn.read name
  | .this _, _ => .get_bind effect.returns_refl
  | .binary _ op left right, among => by
    have ⟨first, second⟩ := List.forall_mem_append.mp among
    refine .bind (evaluate_bounds_on keeps left first) fun value => ?_
    split
    · exact .pure _
    · exact .bind (evaluate_bounds_on keeps right second) fun _ => .pure _
  | .unary _ _ operand, among => .bind (evaluate_bounds_on keeps operand among) fun _ => .pure _
  | .update _ _ name, among =>
    .bind (Scope.KeepsOn.read name) fun _ =>
      .bind (keeps.write (among name List.mem_cons_self) _) fun _ => .pure _
  | .member _ object key _ optional, among => by
    have ⟨first, second⟩ := List.forall_mem_append.mp among
    refine .bind (evaluate_bounds_on keeps object first) fun receiver => ?_
    split
    · exact .pure _
    · exact .bind (evaluate_bounds_on keeps key second) fun _ => ofExcept_bounds _
  | .call _ callee arguments, among => by
    have ⟨first, second⟩ := List.forall_mem_append.mp among
    have called : effect.Bounds (evaluate scope callee) := evaluate_bounds_on keeps callee first
    have given : effect.Bounds (evaluate.evaluateAll scope arguments) :=
      evaluateAll_bounds_on keeps arguments second
    cases callee with
    | member _ object key _ optional =>
      -- The receiver is evaluated before the key, and the key before the arguments.
      have ⟨ofObject, ofKey⟩ := List.forall_mem_append.mp first
      refine .bind (evaluate_bounds_on keeps object ofObject) fun receiver => ?_
      split
      · split
        · exact .pure _
        · exact .bind (evaluate_bounds_on keeps key ofKey) fun _ => ofExcept_bounds _
      · refine .bind (evaluate_bounds_on keeps key ofKey) fun name => ?_
        exact .bind given fun _ => callMember_bounds keeps _ _ _ _
    | _ => exact .bind called fun _ => .bind given fun _ => callValue_bounds keeps _ _ _
  | .ternary _ condition consequent alternate, among => by
    have ⟨before, third⟩ := List.forall_mem_append.mp among
    have ⟨first, second⟩ := List.forall_mem_append.mp before
    refine .bind (evaluate_bounds_on keeps condition first) fun value => ?_
    split
    · exact evaluate_bounds_on keeps consequent second
    · exact evaluate_bounds_on keeps alternate third
  | .object _ properties, among =>
    .bind (evaluateProperties_bounds_on keeps properties [] among) fun _ => .pure _
  | .array _ items, among => .bind (evaluateAll_bounds_on keeps items among) fun _ => .pure _
  | .assignment _ op name value, among => by
    have ⟨target, inside⟩ := List.forall_mem_cons.mp among
    refine .bind (evaluate_bounds_on keeps value inside) fun right => ?_
    have written (result : Value) : effect.Bounds
        (do scope.write name result; return result : Eval σ ε Value) :=
      .bind (keeps.write target _) fun _ => .pure _
    dsimp only
    cases op.binaryOp? with
    | none => exact .bind (.pure _) written
    | some _ => exact .bind (Scope.KeepsOn.read name) fun _ => .bind (.pure _) written

/-- Lists of expressions keep to it. -/
theorem evaluateAll_bounds_on (keeps : scope.KeepsOn effect assigned) :
    (exprs : List Expr) → (∀ name ∈ Expr.targets.itemTargets exprs, assigned name) →
      effect.Bounds (evaluate.evaluateAll scope exprs)
  | [], _ => .pure _
  | expr :: rest, among =>
    have ⟨first, others⟩ := List.forall_mem_append.mp among
    .bind (evaluate_bounds_on keeps expr first) fun _ =>
      .bind (evaluateAll_bounds_on keeps rest others) fun _ => .pure _

/-- Object literals keep to it. -/
theorem evaluateProperties_bounds_on (keeps : scope.KeepsOn effect assigned) :
    (properties : List (Property Expr)) → (fields : List (String × Value)) →
      (∀ name ∈ Expr.targets.propertyTargets properties, assigned name) →
      effect.Bounds (evaluate.evaluateProperties scope fields properties)
  | [], _, _ => .pure _
  | ⟨_, _, expr⟩ :: rest, _, among =>
    have ⟨first, others⟩ := List.forall_mem_append.mp among
    .bind (evaluate_bounds_on keeps expr first) fun _ =>
      evaluateProperties_bounds_on keeps rest _ others

end

/-- **Every evaluation keeps to the effect of assignments and block calls.** -/
theorem evaluate_bounds (keeps : scope.Keeps effect) (expr : Expr) :
    effect.Bounds (evaluate scope expr) := by
  have all : scope.KeepsOn effect fun _ => True := keeps.on
  exact evaluate_bounds_on all expr fun _ _ => trivial

/-- **Every statement keeps to the effect of assignments, block calls and declarations.** -/
theorem Statement.run_bounds (keeps : scope.Keeps effect)
    (declares : ∀ state name value, effect.returns state (scope.declare state name value)) :
    (statement : Statement) → effect.Bounds (statement.run scope)
  | .expression expr => evaluate_bounds keeps expr
  | .declaration name init => by
    have declared (value : Value) : effect.Bounds
        (do modify (scope.declare · name value); return .undefined : Eval σ ε Value) :=
      .bind (.modify fun state => declares state name value) fun _ => .pure _
    cases init with
    | none => exact .bind (.pure _) declared
    | some expr => exact .bind (evaluate_bounds keeps expr) declared

end ViewTemplate.Snippet
