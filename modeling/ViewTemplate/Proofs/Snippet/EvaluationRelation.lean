import ViewTemplate.Proofs.Coupling
import ViewTemplate.Proofs.Snippet.OperationLikeness

/-!
# Two evaluations with values that are alike

An expression sees no more of a state than the operations of its scope show, so evaluations
in two scopes have values that are alike as soon as these operations have
(`evaluate_relates`).  Two things are left open, for a comparison of scopes to fix as it
needs.

* Which print blocks are matched with each other says what it means that values are alike.
  Where a print block is matched with itself only, values are alike if they are equal; where
  nothing is matched, they are equal and hold no print blocks besides.
* Which names count says for which variables the scopes have to agree, because an expression
  looks at no others than those that it names (`Expr.names`).

Operations keep values alike, so what is shown here is the order in which they are applied,
once for every kind of expression.

## Main Definitions

* `Expr.names`, `Statement.names` — the variables that an expression or a statement names
* `Scope.Relate` — the operations of two scopes do the same, up to print blocks and names
-/

namespace ViewTemplate.Snippet

/-! ## Names -/

/-- The variables that an expression reads or assigns. -/
def Expr.names : Expr → List String
  | number .. | string .. | boolean .. | null _ | undefined _ | this _ => []
  | identifier _ name => [name]
  | update _ _ name => [name]
  | binary _ _ left right => left.names ++ right.names
  | unary _ _ operand => operand.names
  | member _ receiver key _ _ => receiver.names ++ key.names
  | call _ callee arguments => callee.names ++ itemNames arguments
  | ternary _ condition consequent alternate =>
    condition.names ++ consequent.names ++ alternate.names
  | object _ properties => propertyNames properties
  | array _ items => itemNames items
  | assignment _ _ name value => name :: value.names
where
  /-- The variables that expressions read or assign. -/
  itemNames : List Expr → List String
    | [] => []
    | expr :: rest => expr.names ++ itemNames rest
  /-- The variables that the values of properties read or assign. -/
  propertyNames : List (Property Expr) → List String
    | [] => []
    | ⟨_, _, expr⟩ :: rest => expr.names ++ propertyNames rest

/-- The variables that a statement reads, assigns or makes. -/
def Statement.names : Statement → List String
  | .expression expr => expr.names
  | .declaration name init => name :: init.elim [] Expr.names

/-! ## Scopes -/

variable {σ ε : Type}

/-- **The operations of two scopes do the same from related states**, for the names that
count, with values that are alike. -/
structure Scope.Relate (scope scope' : Scope σ ε) (coupling : Coupling σ)
    (matched : Nat → Nat → Prop) (counts : String → Prop) : Prop where
  lookup : ∀ {state state' name}, coupling.returns state state' → counts name →
    Option.Rel (Value.Like matched) (scope.lookup state name) (scope'.lookup state' name)
  this : ∀ {state state'}, coupling.returns state state' →
    (scope.this state).Like matched (scope'.this state')
  assign : ∀ {state state' name value value'}, coupling.returns state state' → counts name →
    value.Like matched value' →
      Option.Rel coupling.returns (scope.assign? state name value)
        (scope'.assign? state' name value')
  callBlock : ∀ {index index' arguments arguments'}, matched index index' →
    Value.ListLike matched arguments arguments' →
      coupling.Relates (Value.Like matched) (scope.callBlock index arguments)
        (scope'.callBlock index' arguments')
  callHost : ∀ name {arguments arguments'}, Value.ListLike matched arguments arguments' →
    Ends (Value.Like matched) (fun _ => True) (scope.callHost name arguments)
      (scope'.callHost name arguments')
  /-- Print blocks are told apart, wherever they are compared. -/
  apart : ∀ value other : Value, value.KeptApart matched other

/-- Results that depend on no state. -/
theorem ofExcept_relates {α β : Type} {related : α → β → Prop}
    {allowed : EvalError ε → Prop} {coupling : Coupling σ} {result : Except (EvalError ε) α}
    {result' : Except (EvalError ε) β} (ends : Ends related allowed result result') :
    coupling.Relates related (ofExcept result : Eval σ ε α) (ofExcept result') := by
  cases ends with
  | ok same => exact .pure same
  | error => exact .throw _

/-- A method of arrays lifts the result of looking for its callback in the same way. -/
theorem liftExcept_eq {α : Type} (result : Except (EvalError ε) α) :
    (arrayMethod?.liftExcept result : Eval σ ε α) = ofExcept result := by
  cases result <;> rfl

variable {scope scope' : Scope σ ε} {coupling : Coupling σ} {matched : Nat → Nat → Prop}
  {counts : String → Prop}

/-- Searching finds an item at the same place. -/
theorem findIdx?_like (apart : ∀ value other : Value, value.KeptApart matched other)
    {name : String} {equal : Value → Value → Bool} (searches : searchBy? name = some equal)
    {sought sought' : Value} (like : sought.Like matched sought') {items items' : List Value}
    (likes : Value.ListLike matched items items') :
    items.findIdx? (equal · sought) = items'.findIdx? (equal · sought') := by
  induction likes with
  | nil => rfl
  | cons first _ ih =>
    rw [List.findIdx?_cons, List.findIdx?_cons, searchBy?_like searches first like (apart _ _), ih]

/-- Members of values that are alike. -/
theorem readMember_relates {receiver receiver' key key' : Value}
    (like : receiver.Like matched receiver') (keys : key.Like matched key') :
    coupling.Relates (Value.Like matched)
      (ofExcept (readMember receiver key.text) : Eval σ ε Value)
      (ofExcept (readMember receiver' key'.text)) := by
  rw [keys.text]
  exact ofExcept_relates (readMember_like like _)

section

variable (same : scope.Relate scope' coupling matched counts)

include same

namespace Scope.Relate

theorem read {name : String} (counted : counts name) :
    coupling.Relates (Value.Like matched) (scope.read name) (scope'.read name) := by
  apply Coupling.Relates.get_bind
  intro state state' states
  exact ⟨getD_like (same.lookup states counted), states⟩

theorem write {name : String} (counted : counts name) {value value' : Value}
    (like : value.Like matched value') :
    coupling.Relates Eq (scope.write name value) (scope'.write name value') := by
  apply Coupling.Relates.get_bind
  intro state state' states
  have assigned := same.assign states counted like
  generalize scope.assign? state name value = after at assigned ⊢
  generalize scope'.assign? state' name value' = after' at assigned ⊢
  cases assigned with
  | some states' => exact ⟨rfl, states'⟩
  | none => exact ⟨rfl, coupling.throws_of_returns states⟩

theorem call {callable callable' : Callable} (like : callable.Like matched callable')
    {arguments arguments' : List Value} (given : Value.ListLike matched arguments arguments') :
    coupling.Relates (Value.Like matched) (scope.call callable arguments)
      (scope'.call callable' arguments') := by
  cases like with
  | block here => exact same.callBlock here given
  | host name =>
    have ends := same.callHost name given
    unfold Scope.call
    dsimp only
    generalize scope.callHost name arguments = result at ends ⊢
    generalize scope'.callHost name arguments' = result' at ends ⊢
    cases ends with
    | ok like => exact .pure like
    | error => exact .throw _

end Scope.Relate

/-! ## Members -/

theorem callOnItems_relates {callable callable' : Callable}
    (like : callable.Like matched callable') {items items' : List Value}
    (given : Value.ListLike matched items items') (index : Nat) :
    coupling.Relates (List.Forall₂ fun result result' =>
        result.1.Like matched result'.1 ∧ result.2.Like matched result'.2)
      (callOnItems scope callable index items) (callOnItems scope' callable' index items') := by
  induction given generalizing index with
  | nil => exact .pure .nil
  | cons first _ ih =>
    apply Coupling.Relates.bind (same.call like (.cons first (.cons (.number _) .nil)))
    intro result result' alike
    apply Coupling.Relates.bind (ih _)
    intro results results' behind
    exact .pure (.cons ⟨first, alike⟩ behind)

theorem arrayMethod?_relates (name : String) {items items' arguments arguments' : List Value}
    (likes : Value.ListLike matched items items')
    (given : Value.ListLike matched arguments arguments') :
    coupling.Relates (Option.Rel (Value.Like matched)) (arrayMethod? scope items name arguments)
      (arrayMethod? scope' items' name arguments') := by
  have lifted (method : String) : coupling.Relates (Callable.Like matched)
      (arrayMethod?.liftExcept (callback method arguments) : Eval σ ε Callable)
      (arrayMethod?.liftExcept (callback method arguments')) := by
    rw [liftExcept_eq, liftExcept_eq]
    exact ofExcept_relates (callback_like method given)
  unfold arrayMethod?
  split
  · apply Coupling.Relates.bind (lifted "map")
    intro callable callable' like
    apply Coupling.Relates.bind (callOnItems_relates same like likes 0)
    intro results results' behind
    refine .pure (.some (.array ?_))
    rw [List.forall₂_map_left_iff, List.forall₂_map_right_iff]
    exact behind.imp fun _ _ both => both.2
  · split
    · apply Coupling.Relates.bind (lifted "filter")
      intro callable callable' like
      apply Coupling.Relates.bind (callOnItems_relates same like likes 0)
      intro results results' behind
      exact .pure (.some (.array (truthyItems_like behind)))
    · refine .pure (plainArrayMethod?_like likes given name fun equal searches => ?_)
      exact findIdx?_like same.apart searches (firstArgument_like given) likes

theorem callMethod?_relates (name : String) {receiver receiver' : Value}
    (like : receiver.Like matched receiver') {arguments arguments' : List Value}
    (given : Value.ListLike matched arguments arguments') :
    coupling.Relates (Option.Rel (Value.Like matched)) (callMethod? scope receiver name arguments)
      (callMethod? scope' receiver' name arguments') := by
  unfold callMethod?
  split
  · rw [like.text]
    exact .pure (.some (.string _))
  · cases like with
    | string text =>
      have ends : Ends (Option.Rel (Value.Like matched)) EvalError.Plain
          (stringMethod? text name arguments : Except (EvalError ε) (Option Value))
          (stringMethod? text name arguments') :=
        stringMethod?_like text name given
      dsimp only
      generalize (stringMethod? text name arguments : Except (EvalError ε) _) = result at ends ⊢
      generalize (stringMethod? text name arguments' : Except (EvalError ε) _) = result'
        at ends ⊢
      cases ends with
      | ok like => exact .pure like
      | error => exact .throw _
    | array likes => exact arrayMethod?_relates same name likes given
    | _ => exact .pure .none

theorem callMember_relates (callee key : String) {receiver receiver' : Value}
    (like : receiver.Like matched receiver') {arguments arguments' : List Value}
    (given : Value.ListLike matched arguments arguments') :
    coupling.Relates (Value.Like matched) (callMember scope callee receiver key arguments)
      (callMember scope' callee receiver' key arguments') := by
  unfold callMember
  -- A function that is stored under the key hides a method of that name.
  have own := ownFunction?_like like key
  generalize callMember.ownFunction? receiver key = function at own ⊢
  generalize callMember.ownFunction? receiver' key = function' at own ⊢
  cases own with
  | some like => exact same.call like given
  | none =>
    apply Coupling.Relates.bind (callMethod?_relates same key like given)
    intro result result' found
    cases found with
    | some like => exact .pure like
    | none => exact .throw _

/-- What is no function cannot be called in either scope. -/
theorem callValue_relates (callee : String) {value value' : Value}
    {arguments arguments' : List Value} :
    value.Like matched value' → Value.ListLike matched arguments arguments' →
    coupling.Relates (Value.Like matched)
      (match value with
        | .function callable => scope.call callable arguments
        | _ => throw (.notAFunction callee))
      (match value' with
        | .function callable => scope'.call callable arguments'
        | _ => throw (.notAFunction callee)) := by
  intro like given
  cases like with
  | block here => exact same.call (.block here) given
  | host name => exact same.call (.host name) given
  | _ => exact .throw _

end

/-! ## Expressions -/

mutual

/-- **Evaluations in two scopes have values that are alike** when the operations of the
scopes have, for all names that the expression names. -/
theorem evaluate_relates (same : scope.Relate scope' coupling matched counts) :
    (expr : Expr) → (∀ name ∈ expr.names, counts name) →
    coupling.Relates (Value.Like matched) (evaluate scope expr) (evaluate scope' expr)
  | .number _ value, _ => .pure (.number value)
  | .string _ text, _ => .pure (.string text)
  | .boolean _ value, _ => .pure (.bool value)
  | .null _, _ => .pure .null
  | .undefined _, _ => .pure .undefined
  | .identifier _ name, counted => same.read (counted name List.mem_cons_self)
  | .this _, _ => .get_bind fun _ _ states => ⟨same.this states, states⟩
  | .binary _ op left right, counted => by
    have ⟨first, second⟩ := List.forall_mem_append.mp counted
    apply Coupling.Relates.bind (evaluate_relates same left first)
    intro value value' like
    rw [op.shortcuts_like like]
    split
    · exact .pure like
    · apply Coupling.Relates.bind (evaluate_relates same right second)
      intro other other' like'
      exact .pure (op.apply_like like like' fun _ => same.apart _ _)
  | .unary _ op operand, counted => by
    apply Coupling.Relates.bind (evaluate_relates same operand counted)
    intro value value' like
    exact .pure (op.apply_like like)
  | .update _ op name, counted => by
    have here := counted name List.mem_cons_self
    apply Coupling.Relates.bind (same.read here)
    intro old old' like
    rw [like.toNumber]
    exact .bind (same.write here (.number _)) fun _ _ _ => .pure (.number _)
  | .member _ receiver key _ optional, counted => by
    have ⟨first, second⟩ := List.forall_mem_append.mp counted
    apply Coupling.Relates.bind (evaluate_relates same receiver first)
    intro value value' like
    rw [like.isNullish]
    split
    · exact .pure .undefined
    · apply Coupling.Relates.bind (evaluate_relates same key second)
      intro name name' keys
      exact readMember_relates like keys
  | .call _ callee arguments, counted => by
    have ⟨first, second⟩ := List.forall_mem_append.mp counted
    have called := evaluate_relates same callee first
    have given := evaluateAll_relates same arguments second
    -- A call of a member evaluates the object itself, any other one evaluates the callee.
    cases callee with
    | member _ receiver key _ optional =>
      have ⟨first, second⟩ := List.forall_mem_append.mp first
      apply Coupling.Relates.bind (evaluate_relates same receiver first)
      intro value value' like
      rw [like.isNullish]
      split
      · split
        · exact .pure .undefined
        · apply Coupling.Relates.bind (evaluate_relates same key second)
          intro name name' keys
          exact readMember_relates like keys
      · apply Coupling.Relates.bind (evaluate_relates same key second)
        intro name name' keys
        apply Coupling.Relates.bind given
        intro values values' likes
        rw [keys.text]
        exact callMember_relates same _ _ like likes
    | _ =>
      apply Coupling.Relates.bind called
      intro value value' like
      apply Coupling.Relates.bind given
      intro values values' likes
      exact callValue_relates same _ like likes
  | .ternary _ condition consequent alternate, counted => by
    have ⟨before, third⟩ := List.forall_mem_append.mp counted
    have ⟨first, second⟩ := List.forall_mem_append.mp before
    apply Coupling.Relates.bind (evaluate_relates same condition first)
    intro value value' like
    rw [like.isTruthy]
    split
    · exact evaluate_relates same consequent second
    · exact evaluate_relates same alternate third
  | .object _ properties, counted => by
    apply Coupling.Relates.bind (evaluateProperties_relates same properties counted .nil)
    intro fields fields' like
    exact .pure (.object like)
  | .array _ items, counted => by
    apply Coupling.Relates.bind (evaluateAll_relates same items counted)
    intro values values' likes
    exact .pure (.array likes)
  | .assignment _ op name value, counted => by
    have ⟨here, inside⟩ := List.forall_mem_cons.mp counted
    have assigned (result result' : Value) (like : result.Like matched result') :
        coupling.Relates (Value.Like matched)
          (do scope.write name result; return result : Eval σ ε Value)
          (do scope'.write name result'; return result') :=
      .bind (same.write here like) fun _ _ _ => .pure like
    apply Coupling.Relates.bind (evaluate_relates same value inside)
    intro right right' like
    dsimp only
    cases op.binaryOp? with
    | none => exact .bind (.pure like) assigned
    | some op =>
      apply Coupling.Relates.bind (same.read here)
      intro old old' like'
      exact .bind (.pure (op.apply_like like' like fun _ => same.apart _ _)) assigned

/-- So have evaluations of several expressions, -/
theorem evaluateAll_relates (same : scope.Relate scope' coupling matched counts) :
    (exprs : List Expr) → (∀ name ∈ Expr.names.itemNames exprs, counts name) →
    coupling.Relates (Value.ListLike matched) (evaluate.evaluateAll scope exprs)
      (evaluate.evaluateAll scope' exprs)
  | [], _ => .pure .nil
  | expr :: rest, counted => by
    have ⟨first, others⟩ := List.forall_mem_append.mp counted
    apply Coupling.Relates.bind (evaluate_relates same expr first)
    intro value value' like
    apply Coupling.Relates.bind (evaluateAll_relates same rest others)
    intro values values' likes
    exact .pure (.cons like likes)

/-- and of object literals. -/
theorem evaluateProperties_relates (same : scope.Relate scope' coupling matched counts) :
    (properties : List (Property Expr)) →
    (∀ name ∈ Expr.names.propertyNames properties, counts name) →
    {fields fields' : Table Value} → Value.FieldsLike matched fields fields' →
    coupling.Relates (Value.FieldsLike matched)
      (evaluate.evaluateProperties scope fields properties)
      (evaluate.evaluateProperties scope' fields' properties)
  | [], _, _, _, like => .pure like
  | ⟨key, _, expr⟩ :: rest, counted, _, _, like => by
    have ⟨first, others⟩ := List.forall_mem_append.mp counted
    apply Coupling.Relates.bind (evaluate_relates same expr first)
    intro value value' alike
    exact evaluateProperties_relates same rest others (like.set key alike)

end

/-- **Statements do the same** when declarations do as well. -/
theorem Statement.run_relates (same : scope.Relate scope' coupling matched counts)
    (declares : ∀ {state state' name value value'}, coupling.returns state state' →
      counts name → value.Like matched value' →
        coupling.returns (scope.declare state name value) (scope'.declare state' name value'))
    (statement : Statement) (counted : ∀ name ∈ statement.names, counts name) :
    coupling.Relates (Value.Like matched) (statement.run scope) (statement.run scope') := by
  cases statement with
  | expression expr => exact evaluate_relates same expr counted
  | declaration name init =>
    have ⟨here, inside⟩ := List.forall_mem_cons.mp counted
    have declared (value value' : Value) (like : value.Like matched value') :
        coupling.Relates (Value.Like matched)
          (do modify (scope.declare · name value); return .undefined : Eval σ ε Value)
          (do modify (scope'.declare · name value'); return .undefined) := by
      intro state state' states
      exact ⟨.undefined, declares states here like⟩
    cases init with
    | none => exact .bind (.pure .undefined) declared
    | some expr => exact .bind (evaluate_relates same expr inside) declared

end ViewTemplate.Snippet
