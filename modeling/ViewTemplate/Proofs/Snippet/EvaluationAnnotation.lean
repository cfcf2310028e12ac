import ViewTemplate.Proofs.Annotation
import ViewTemplate.Snippet.Evaluation

/-!
# Annotated evaluations

What the failure of a print block says is up to the scope, and evaluation only passes it on.  So
an expression can be evaluated with print blocks whose failures say more than those of a render,
and nothing else of the evaluation changes (`evaluate_annotates`).

Failures that no print block is to blame for are the same in both evaluations: they are those of
evaluations in which print blocks cannot fail at all (`EvalError.raise`).

## Main Definitions

* `EvalError.raise` — a failure that is none of a print block
* `Scope.withBlocks` — a scope with other print blocks
* `Scope.BlocksAnnotated` — the other print blocks are those of the scope in annotated form
-/

namespace ViewTemplate.Snippet

variable {σ ε ε' α : Type}

/-! ## Failures that are none of a print block -/

/-- A failure of an evaluation in which print blocks cannot fail, in one in which they can. -/
def EvalError.raise : EvalError Empty → EvalError ε
  | unreadable receiver key => unreadable receiver key
  | notAFunction callee => notAFunction callee
  | notACallback typeName method => notACallback typeName method
  | blockOutsideRender => blockOutsideRender
  | notDefined name => notDefined name
  | invalidCount count => invalidCount count
  | invalidLength => invalidLength
  | unboundBlock index => unboundBlock index
  | raised fault => raised fault

/-- It is the evaluation's own. -/
theorem EvalError.own_raise (cause : EvalError Empty) :
    (cause.raise : EvalError ε).own = .ok cause := by
  cases cause with
  | failed failure => exact failure.elim
  | _ => rfl

theorem readMember_raise (receiver : Value) (key : String) :
    (readMember receiver key : Except (EvalError ε) Value) =
      (readMember receiver key).mapError EvalError.raise := by
  unfold readMember
  cases receiver with
  | string | array =>
    dsimp only
    split
    · rfl
    · rfl
  | object fields =>
    dsimp only
    split
    · rfl
    · rfl
  | undefined | null | bool | number | function => rfl

theorem callback_raise (method : String) (arguments : List Value) :
    (callback method arguments : Except (EvalError ε) Callable) =
      (callback method arguments).mapError EvalError.raise := by
  unfold callback
  cases firstArgument arguments with
  | _ => rfl

theorem repeated_raise (text : String) (arguments : List Value) :
    (repeated text arguments : Except (EvalError ε) Value) =
      (repeated text arguments).mapError EvalError.raise := by
  unfold repeated
  dsimp only
  generalize (if (firstArgument arguments).toNumber.isNaN = true then 0.0
    else Number.truncate (firstArgument arguments).toNumber) = count
  split
  · rfl
  · split
    · rfl
    · split
      · rfl
      · rfl

theorem stringMethod?_raise (text name : String) (arguments : List Value) :
    (stringMethod? text name arguments : Except (EvalError ε) (Option Value)) =
      (stringMethod? text name arguments).mapError EvalError.raise := by
  unfold stringMethod?
  split
  case h_8 =>
    rw [repeated_raise]
    cases (repeated text arguments : Except (EvalError Empty) Value) <;> rfl
  all_goals rfl

/-! ## Scopes -/

/-- A scope with other print blocks. -/
def Scope.withBlocks (scope : Scope σ ε) (callBlock : Nat → List Value → Eval σ ε' Value) :
    Scope σ ε' where
  lookup := scope.lookup
  assign? := scope.assign?
  declare := scope.declare
  this := scope.this
  callBlock := callBlock
  callHost := scope.callHost

/-- **Print blocks in annotated form**, beside those of a scope.  Assignments have to keep to the
annotation, and it has to hold of all failures that are none of a print block. -/
structure Scope.BlocksAnnotated (scope : Scope σ ε)
    (callBlock : Nat → List Value → Eval σ ε' Value)
    (notes : Annotation σ (EvalError ε) (EvalError ε')) : Prop where
  assign : ∀ {state name value after},
    scope.assign? state name value = some after → notes.returns state after
  callBlock : ∀ index arguments,
    notes.Annotates (scope.callBlock index arguments) (callBlock index arguments)
  raise : ∀ state (cause : EvalError Empty), notes.throws state cause.raise cause.raise state

variable {scope : Scope σ ε} {callBlock : Nat → List Value → Eval σ ε' Value}
  {notes : Annotation σ (EvalError ε) (EvalError ε')}

theorem Scope.read_annotates (name : String) :
    notes.Annotates (scope.read name) ((scope.withBlocks callBlock).read name) :=
  .get_bind fun state _ => .ok (notes.returns_refl state)

namespace Scope.BlocksAnnotated

variable (blocks : scope.BlocksAnnotated callBlock notes)

include blocks

theorem fail (cause : EvalError Empty) : notes.Annotates
    (throw cause.raise : Eval σ ε α) (throw cause.raise : Eval σ ε' α) :=
  .throw fun state => blocks.raise state cause

theorem ofExcept {result : Except (EvalError ε) α} {result' : Except (EvalError ε') α}
    {plain : Except (EvalError Empty) α} (same : result = plain.mapError EvalError.raise)
    (same' : result' = plain.mapError EvalError.raise) :
    notes.Annotates (ofExcept result : Eval σ ε α) (Snippet.ofExcept result') := by
  rw [same, same']
  cases plain with
  | ok value => exact .pure value
  | error cause => exact blocks.fail cause

theorem write (name : String) (value : Value) :
    notes.Annotates (scope.write name value)
      ((scope.withBlocks callBlock).write name value) := by
  refine .get_bind fun state _ => ?_
  dsimp only [Scope.withBlocks]
  cases updated : scope.assign? state name value with
  | none => exact .error (blocks.raise state (.notDefined name))
  | some after => exact .ok (blocks.assign updated)

theorem call (callable : Callable) (arguments : List Value) :
    notes.Annotates (scope.call callable arguments)
      ((scope.withBlocks callBlock).call callable arguments) := by
  cases callable with
  | block index => exact blocks.callBlock index arguments
  | host name =>
    dsimp only [Scope.call, Scope.withBlocks]
    cases scope.callHost name arguments with
    | ok value => exact .pure value
    | error fault => exact blocks.fail (.raised fault)

/-! ## Members -/

theorem callOnItems (callable : Callable) (items : List Value) (index : Nat) :
    notes.Annotates (callOnItems scope callable index items)
      (Snippet.callOnItems (scope.withBlocks callBlock) callable index items) := by
  induction items generalizing index with
  | nil => exact .pure _
  | cons item rest ih =>
    exact .bind (blocks.call _ _) fun _ => .bind (ih _) fun _ => .pure _

theorem arrayMethod? (items : List Value) (name : String) (arguments : List Value) :
    notes.Annotates (arrayMethod? scope items name arguments)
      (Snippet.arrayMethod? (scope.withBlocks callBlock) items name arguments) := by
  have lifted (method : String) : notes.Annotates
      (arrayMethod?.liftExcept (callback method arguments) : Eval σ ε Callable)
      (arrayMethod?.liftExcept (callback method arguments) : Eval σ ε' Callable) := by
    rw [callback_raise, callback_raise (ε := ε')]
    cases (callback method arguments : Except (EvalError Empty) Callable) with
    | ok callable => exact .pure callable
    | error cause => exact blocks.fail cause
  unfold Snippet.arrayMethod?
  split
  · exact .bind (lifted _) fun _ => .bind (blocks.callOnItems _ _ _) fun _ => .pure _
  · split
    · exact .bind (lifted _) fun _ => .bind (blocks.callOnItems _ _ _) fun _ => .pure _
    · exact .pure _

theorem callMethod? (receiver : Value) (name : String) (arguments : List Value) :
    notes.Annotates (callMethod? scope receiver name arguments)
      (Snippet.callMethod? (scope.withBlocks callBlock) receiver name arguments) := by
  unfold Snippet.callMethod?
  split
  · exact .pure _
  · cases receiver with
    | string text =>
      dsimp only
      rw [stringMethod?_raise, stringMethod?_raise (ε := ε')]
      cases (stringMethod? text name arguments : Except (EvalError Empty) (Option Value)) with
      | ok result => exact .pure result
      | error cause => exact blocks.fail cause
    | array items => exact blocks.arrayMethod? items name arguments
    | undefined | null | bool | number | object | function => exact .pure _

theorem callMember (callee : String) (receiver : Value) (key : String) (arguments : List Value) :
    notes.Annotates (callMember scope callee receiver key arguments)
      (Snippet.callMember (scope.withBlocks callBlock) callee receiver key arguments) := by
  unfold Snippet.callMember
  split
  · exact blocks.call _ _
  · refine .bind (blocks.callMethod? receiver key arguments) fun result? => ?_
    cases result? with
    | some result => exact .pure result
    | none => exact blocks.fail (.notAFunction callee)

/-- What is no function cannot be called in either scope. -/
theorem callValue (callee : String) (value : Value) (arguments : List Value) :
    notes.Annotates
      (match value with
        | .function callable => scope.call callable arguments
        | _ => throw (.notAFunction callee))
      (match value with
        | .function callable => (scope.withBlocks callBlock).call callable arguments
        | _ => throw (.notAFunction callee)) := by
  cases value with
  | function callable => exact blocks.call _ _
  | _ => exact blocks.fail (.notAFunction callee)

end Scope.BlocksAnnotated

/-! ## Expressions -/

mutual

/-- **An evaluation with annotated print blocks is the evaluation in annotated form.** -/
theorem evaluate_annotates (blocks : scope.BlocksAnnotated callBlock notes) :
    (expr : Expr) →
      notes.Annotates (evaluate scope expr) (evaluate (scope.withBlocks callBlock) expr)
  | .number .. | .string .. | .boolean .. | .null _ | .undefined _ => .pure _
  | .identifier _ name => Scope.read_annotates name
  | .this _ => .get_bind fun state _ => .ok (notes.returns_refl state)
  | .binary _ op left right => by
    refine .bind (evaluate_annotates blocks left) fun value => ?_
    split
    · exact .pure _
    · exact .bind (evaluate_annotates blocks right) fun _ => .pure _
  | .unary _ _ operand => .bind (evaluate_annotates blocks operand) fun _ => .pure _
  | .update _ _ name =>
    .bind (Scope.read_annotates name) fun _ => .bind (blocks.write name _) fun _ => .pure _
  | .member _ object key _ optional => by
    refine .bind (evaluate_annotates blocks object) fun receiver => ?_
    split
    · exact .pure _
    · exact .bind (evaluate_annotates blocks key) fun _ =>
        blocks.ofExcept (readMember_raise _ _) (readMember_raise _ _)
  | .call _ callee arguments => by
    have called : notes.Annotates (evaluate scope callee)
        (evaluate (scope.withBlocks callBlock) callee) := evaluate_annotates blocks callee
    have given : notes.Annotates (evaluate.evaluateAll scope arguments)
        (evaluate.evaluateAll (scope.withBlocks callBlock) arguments) :=
      evaluateAll_annotates blocks arguments
    cases callee with
    | member _ object key _ optional =>
      -- The receiver is evaluated before the key, and the key before the arguments.
      refine .bind (evaluate_annotates blocks object) fun receiver => ?_
      split
      · split
        · exact .pure _
        · exact .bind (evaluate_annotates blocks key) fun _ =>
            blocks.ofExcept (readMember_raise _ _) (readMember_raise _ _)
      · refine .bind (evaluate_annotates blocks key) fun name => ?_
        exact .bind given fun _ => blocks.callMember _ _ _ _
    | _ => exact .bind called fun _ => .bind given fun _ => blocks.callValue _ _ _
  | .ternary _ condition consequent alternate => by
    refine .bind (evaluate_annotates blocks condition) fun value => ?_
    split
    · exact evaluate_annotates blocks consequent
    · exact evaluate_annotates blocks alternate
  | .object _ properties =>
    .bind (evaluateProperties_annotates blocks properties []) fun _ => .pure _
  | .array _ items => .bind (evaluateAll_annotates blocks items) fun _ => .pure _
  | .assignment _ op name value => by
    refine .bind (evaluate_annotates blocks value) fun right => ?_
    have written (result : Value) : notes.Annotates
        (do scope.write name result; return result : Eval σ ε Value)
        (do (scope.withBlocks callBlock).write name result; return result) :=
      .bind (blocks.write name result) fun _ => .pure _
    dsimp only
    cases op.binaryOp? with
    | none => exact .bind (.pure _) written
    | some _ => exact .bind (Scope.read_annotates name) fun _ => .bind (.pure _) written

/-- So are those of several expressions, -/
theorem evaluateAll_annotates (blocks : scope.BlocksAnnotated callBlock notes) :
    (exprs : List Expr) → notes.Annotates (evaluate.evaluateAll scope exprs)
      (evaluate.evaluateAll (scope.withBlocks callBlock) exprs)
  | [] => .pure _
  | expr :: rest =>
    .bind (evaluate_annotates blocks expr) fun _ =>
      .bind (evaluateAll_annotates blocks rest) fun _ => .pure _

/-- and of object literals. -/
theorem evaluateProperties_annotates (blocks : scope.BlocksAnnotated callBlock notes) :
    (properties : List (Property Expr)) → (fields : List (String × Value)) →
      notes.Annotates (evaluate.evaluateProperties scope fields properties)
        (evaluate.evaluateProperties (scope.withBlocks callBlock) fields properties)
  | [], _ => .pure _
  | ⟨_, _, expr⟩ :: rest, _ =>
    .bind (evaluate_annotates blocks expr) fun _ => evaluateProperties_annotates blocks rest _

end

/-- **Statements are annotated**, if declarations keep to the annotation. -/
theorem Statement.run_annotates (blocks : scope.BlocksAnnotated callBlock notes)
    (declares : ∀ state name value, notes.returns state (scope.declare state name value)) :
    (statement : Statement) →
      notes.Annotates (statement.run scope) (statement.run (scope.withBlocks callBlock))
  | .expression expr => evaluate_annotates blocks expr
  | .declaration name init => by
    have declared (value : Value) : notes.Annotates
        (do modify (scope.declare · name value); return .undefined : Eval σ ε Value)
        (do modify ((scope.withBlocks callBlock).declare · name value); return .undefined) :=
      .bind (.modify fun state => declares state name value) fun _ => .pure _
    cases init with
    | none => exact .bind (.pure _) declared
    | some expr => exact .bind (evaluate_annotates blocks expr) declared

end ViewTemplate.Snippet
