import ViewTemplate.Position
import ViewTemplate.Snippet.Lexer

/-!
# Faults of a snippet

Why a snippet is no expression or statement.

## Main Definitions

* `Fault` — the causes, with what each concerns
* `Fault.message` — the wording of a cause
* `SnippetError` — a cause and the place in the template that the snippet was taken from

## Design Notes

A snippet is reported where it starts in the template, never at an offset inside it.
-/

namespace ViewTemplate.Snippet

/-- Why a snippet cannot be read. -/
inductive Fault where
  /-- The snippet has no tokens. -/
  | lexical (fault : LexFault)
  | expectedExpression
  | expectedStatement
  /-- A declaration by another word than the one allowed. -/
  | otherDeclaration (word : String)
  | reservedName (name : String)
  | severalBindings
  | memberAssignment
  | invalidTarget
  | updateInFront
  | invalidUpdate
  | optionalCall
  | arrowFunction
  | unexpectedEnd
  | unexpectedToken (label : String)
  | expectedProperty (label : String)
  | expectedColon (key : String)
  | expectedToken (expected label : String)
  | expectedIdentifier (label : String)
  | severalStatements
  | trailingToken (label : String)
  /-- The budget of a reader ran out, which the budgets given here never do. -/
  | exhausted
deriving Repr, DecidableEq

/-- The wording of a fault. -/
def Fault.message : Fault → String
  | lexical fault => fault.message
  | expectedExpression => "Expected an expression"
  | expectedStatement => "Expected a statement"
  | otherDeclaration word =>
    "'" ++ word ++ "' is not allowed here; only a single let binding may be declared"
  | reservedName name => "'" ++ name ++ "' cannot be used as a variable name"
  | severalBindings => "Only a single binding may be declared"
  | memberAssignment => "Assignment to object members is not supported"
  | invalidTarget => "Invalid assignment target"
  | updateInFront => "Prefix update operators are not supported"
  | invalidUpdate => "Invalid update target; only variables can be incremented"
  | optionalCall => "Optional calls are not supported"
  | arrowFunction => "Arrow functions are not supported"
  | unexpectedEnd => "Unexpected end of expression"
  | unexpectedToken label => "Unexpected token " ++ label
  | expectedProperty label => "Expected property name, got " ++ label
  | expectedColon key => "Expected ':' after property '" ++ key ++ "'"
  | expectedToken expected label => "Expected " ++ expected ++ ", got " ++ label
  | expectedIdentifier label => "Expected identifier, got " ++ label
  | severalStatements => "Only a single statement is allowed"
  | trailingToken label => "Unexpected token " ++ label ++ " after expression"
  | exhausted => "Expression is too long"

/-- A fault of the snippet that starts at `position` in a template. -/
structure SnippetError where
  /-- What is wrong. -/
  fault : Fault
  /-- Where the snippet starts. -/
  position : Position
deriving Repr, DecidableEq

/-- The full wording of an error. -/
def SnippetError.message (error : SnippetError) : String :=
  "Expression error at " ++ error.position.describe ++ ": " ++ error.fault.message

end ViewTemplate.Snippet
