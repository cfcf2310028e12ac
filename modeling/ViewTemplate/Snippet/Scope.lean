import ViewTemplate.Value.Text

/-!
# Scopes

What an expression is evaluated against: variables, the value of `this`, and what can be called.

## Main Definitions

* `HostFunction` — functions of the host
* `EvalError` — why an evaluation fails
* `Eval` — evaluations, which change a state and give a value or an error
* `Scope` — the operations on the state that expressions use
* `Variables`, `Variables.scope` — the plain scope of a table of variables

## Design Notes

An evaluation that fails keeps the state as it was when it failed: assignments made before the
failure stay. What a print block does when it is called is up to the scope, and so is the kind of
failure `ε` that it can end with.
-/

namespace ViewTemplate

/-! ### Host functions -/

/-- The kinds of errors that an evaluation can end with. -/
inductive ErrorKind where
  | type | reference | range | custom | host
deriving Repr, DecidableEq

/-- What is written in front of the wording of an error of some kind. -/
def ErrorKind.lead : ErrorKind → String
  | type => "TypeError: "
  | reference => "ReferenceError: "
  | range => "RangeError: "
  | custom | host => ""

/-- An error that a function of the host raises. -/
structure HostFault where
  /-- Its kind. -/
  kind : ErrorKind
  /-- Its wording. -/
  text : String
deriving Repr, DecidableEq

/-- A function of the host. -/
abbrev HostFunction := List Value → Except HostFault Value

namespace Snippet

/-! ### Errors -/

/-- Why an evaluation fails. -/
inductive EvalError (ε : Type) where
  /-- A member of `null` or `undefined` is read. -/
  | unreadable (receiver key : String)
  /-- What is called is no function. -/
  | notAFunction (callee : String)
  /-- What is given to a method of arrays is no function. -/
  | notACallback (typeName method : String)
  /-- A print block is called where nothing is rendered. -/
  | blockOutsideRender
  /-- A variable is assigned that does not exist. -/
  | notDefined (name : String)
  /-- A text is repeated a negative or infinite number of times. -/
  | invalidCount (count : Float)
  /-- A text would become too long. -/
  | invalidLength
  /-- A print block is called that the render does not know. -/
  | unboundBlock (index : Nat)
  /-- A function of the host raised an error. -/
  | raised (fault : HostFault)
  /-- A print block failed. -/
  | failed (failure : ε)

namespace EvalError

variable {ε : Type}

/-- The kind of an error. -/
def kind : EvalError ε → ErrorKind
  | unreadable .. | notAFunction _ | notACallback .. | blockOutsideRender => .type
  | notDefined _ => .reference
  | invalidCount _ | invalidLength => .range
  | unboundBlock _ => .custom
  | raised fault => fault.kind
  | failed _ => .host

/-- The wording of an error, without its kind. -/
def detail (failureText : ε → String) : EvalError ε → String
  | unreadable receiver key =>
    "Cannot read properties of " ++ receiver ++ " (reading '" ++ key ++ "')"
  | notAFunction callee => callee ++ " is not a function"
  | notACallback typeName method => typeName ++ " is not a function (in Array." ++ method ++ ")"
  | blockOutsideRender => "template blocks can only be called during a render"
  | notDefined name => name ++ " is not defined"
  | invalidCount count => "Invalid count value: " ++ Number.text count
  | invalidLength => "Invalid string length"
  | unboundBlock index => "No block is bound at index " ++ toString index
  | raised fault => fault.text
  | failed failure => failureText failure

/-- The wording of an error. -/
def message (failureText : ε → String) (error : EvalError ε) : String :=
  error.kind.lead ++ error.detail failureText

/-- What a print block failed with, or else the error itself. -/
def own : EvalError ε → Except ε (EvalError Empty)
  | failed failure => .error failure
  | unreadable receiver key => .ok (.unreadable receiver key)
  | notAFunction callee => .ok (.notAFunction callee)
  | notACallback typeName method => .ok (.notACallback typeName method)
  | blockOutsideRender => .ok .blockOutsideRender
  | notDefined name => .ok (.notDefined name)
  | invalidCount count => .ok (.invalidCount count)
  | invalidLength => .ok .invalidLength
  | unboundBlock index => .ok (.unboundBlock index)
  | raised fault => .ok (.raised fault)

end EvalError

/-! ### Evaluations -/

/-- An evaluation over states of type `σ`. -/
abbrev Eval (σ ε : Type) := ExceptT (EvalError ε) (StateM σ)

/-- The operations on a state that expressions use. -/
structure Scope (σ ε : Type) where
  /-- The value of a variable. -/
  lookup : σ → String → Option Value
  /-- Gives a variable that exists another value. -/
  assign? : σ → String → Value → Option σ
  /-- Makes a variable in the innermost frame. -/
  declare : σ → String → Value → σ
  /-- The value of `this`. -/
  this : σ → Value
  /-- Calls a print block. -/
  callBlock : Nat → List Value → Eval σ ε Value
  /-- Calls a function of the host. -/
  callHost : String → HostFunction

namespace Scope

variable {σ ε : Type}

/-- The value of a variable, `undefined` if there is none. -/
def read (scope : Scope σ ε) (name : String) : Eval σ ε Value := do
  return (scope.lookup (← get) name).getD .undefined

/-- Gives a variable that exists another value. -/
def write (scope : Scope σ ε) (name : String) (value : Value) : Eval σ ε Unit := do
  match scope.assign? (← get) name value with
  | some state => set state
  | none => throw (.notDefined name)

/-- Calls a function value. -/
def call (scope : Scope σ ε) (callable : Callable) (arguments : List Value) : Eval σ ε Value :=
  match callable with
  | .block index => scope.callBlock index arguments
  | .host name =>
    match scope.callHost name arguments with
    | .ok value => return value
    | .error fault => throw (.raised fault)

end Scope

/-! ### Plain variables -/

/-- A single frame of variables. -/
structure Variables where
  /-- The variables, in the order in which they were made. -/
  table : Table Value := []
  /-- The value of `this`. -/
  this : Value := .undefined

/-- The scope of plain variables, in which no print block can be called. -/
def Variables.scope (callHost : String → HostFunction) : Scope Variables Empty where
  lookup frame name := frame.table.get? name
  assign? frame name value :=
    (frame.table.update? name value).map fun table => { frame with table }
  declare frame name value := { frame with table := frame.table.set name value }
  this := Variables.this
  callBlock _ _ := throw .blockOutsideRender
  callHost := callHost

end Snippet

end ViewTemplate
