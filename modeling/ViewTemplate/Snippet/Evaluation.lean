import ViewTemplate.Snippet.Member
import ViewTemplate.Snippet.Operation

/-!
# Evaluation of expressions

The value of an expression in a scope, and what its evaluation changes.

## Main Definitions

* `evaluate` — the value of an expression
* `Statement.run` — the effect of a statement
* `describe` — how an expression is called in messages

## Design Notes

Operands are evaluated from left to right, each once, and not at all when the value is already
known. A compound assignment reads its variable after its right side was evaluated.
-/

namespace ViewTemplate.Snippet

variable {σ ε : Type}

/-- How an expression is called in messages: names and members by name show what was written. -/
def describe : Expr → String
  | .identifier _ name => name
  | .this _ => "this"
  | .member _ object (.string _ name) false _ => describe object ++ "." ++ name
  | _ => "expression"

/-- The evaluation of a result that depends on no state. -/
def ofExcept {α : Type} : Except (EvalError ε) α → Eval σ ε α
  | .ok value => return value
  | .error error => throw error

/-- Calls the member of a value under a key. A function among the fields of an object hides the
methods that all values have. -/
def callMember (scope : Scope σ ε) (callee : String) (receiver : Value) (key : String)
    (arguments : List Value) : Eval σ ε Value := do
  match ownFunction? receiver key with
  | some callable => scope.call callable arguments
  | none =>
    match ← callMethod? scope receiver key arguments with
    | some result => return result
    | none => throw (.notAFunction callee)
where
  /-- The function among the fields of an object under a key. -/
  ownFunction? : Value → String → Option Callable
    | .object fields, key =>
      match Table.get? fields key with
      | some (.function callable) => some callable
      | _ => none
    | _, _ => none

/-- The value of an expression. -/
def evaluate (scope : Scope σ ε) : Expr → Eval σ ε Value
  | .number _ value => return .number value
  | .string _ text => return .string text
  | .boolean _ value => return .bool value
  | .null _ => return .null
  | .undefined _ => return .undefined
  | .identifier _ name => scope.read name
  | .this _ => return scope.this (← get)
  | .binary _ op left right => do
    let first ← evaluate scope left
    if op.shortcuts first then
      return first
    else
      return op.apply first (← evaluate scope right)
  | .unary _ op operand => return op.apply (← evaluate scope operand)
  | .update _ op name => do
    let old := (← scope.read name).toNumber
    scope.write name (.number (op.apply old))
    return .number old
  | .member _ object key _ optional => do
    let receiver ← evaluate scope object
    if optional && receiver.isNullish then
      return .undefined
    else
      ofExcept (readMember receiver (← evaluate scope key).text)
  | .call _ callee arguments =>
    match callee with
    | .member span object key computed optional => do
      let receiver ← evaluate scope object
      if receiver.isNullish then
        if optional then
          return .undefined
        else
          ofExcept (readMember receiver (← evaluate scope key).text)
      else
        let name := (← evaluate scope key).text
        let values ← evaluateAll arguments
        callMember scope (describe (.member span object key computed optional)) receiver name values
    | callee => do
      let value ← evaluate scope callee
      let values ← evaluateAll arguments
      match value with
      | .function callable => scope.call callable values
      | _ => throw (.notAFunction (describe callee))
  | .ternary _ condition consequent alternate => do
    if (← evaluate scope condition).isTruthy then
      evaluate scope consequent
    else
      evaluate scope alternate
  | .object _ properties => return .object (← evaluateProperties [] properties)
  | .array _ items => return .array (← evaluateAll items)
  | .assignment _ op name value => do
    let right ← evaluate scope value
    let result ← match op.binaryOp? with
      | some op => pure (op.apply (← scope.read name) right)
      | none => pure right
    scope.write name result
    return result
where
  /-- The values of expressions, from left to right. -/
  evaluateAll : List Expr → Eval σ ε (List Value)
    | [] => return []
    | expr :: rest => do
      let value ← evaluate scope expr
      return value :: (← evaluateAll rest)
  /-- The fields of an object literal behind the given ones, from left to right. -/
  evaluateProperties (fields : List (String × Value)) :
      List (Property Expr) → Eval σ ε (List (String × Value))
    | [] => return fields
    | ⟨key, _, expr⟩ :: rest => do
      let value ← evaluate scope expr
      evaluateProperties (Table.set fields key value) rest

/-- The effect of a statement. A declaration makes a variable and has no value of its own. -/
def Statement.run (scope : Scope σ ε) : Statement → Eval σ ε Value
  | .expression expr => evaluate scope expr
  | .declaration name init => do
    let value ← match init with
      | some expr => evaluate scope expr
      | none => pure .undefined
    modify (scope.declare · name value)
    return .undefined

end ViewTemplate.Snippet
