import ViewTemplate.Snippet.Scope
import ViewTemplate.Views.Error

/-!
# Errors of a render

Why a render ends early, and where in a template.

## Main Definitions

* `RenderError` — the causes, with what each concerns
* `RenderError.ofEval` — the cause behind a failed evaluation
* `RenderError.message`, `RenderError.position?` — its wording and its place

## Design Notes

An evaluation that calls a print block fails with whatever the block failed with, so an error inside
a block is reported where it arose, however many calls surround it.
-/

namespace ViewTemplate

/-- How many views and print blocks can be active inside each other. -/
def maxDepth : Nat := 32

/-- Why a render ends early. -/
inductive RenderError where
  /-- A view cannot be had. -/
  | view (error : ViewError)
  /-- A layout is to be applied again; `chain` ends with it. -/
  | layoutCycle (chain : List String)
  /-- A loop goes over nothing. -/
  | nullCollection (position : Position)
  /-- A loop goes over a value that has no items. -/
  | notIterable (typeName : String) (position : Position)
  /-- The context for a view is no object. -/
  | invalidContext (typeName : String) (position : Position)
  /-- A view or print block is called inside `maxDepth` others. -/
  | tooDeep (name : String) (position : Position)
  /-- An evaluation failed by itself. -/
  | evaluation (cause : Snippet.EvalError Empty) (position : Position)
  /-- A loop took more turns than the environment grants. -/
  | tooManyTurns (position : Position)
  /-- More layouts were applied than there are views, which the cycle check never lets happen. -/
  | tooManyLayouts

namespace RenderError

/-- The cause behind the failed evaluation of a snippet that starts at `position`. -/
def ofEval (position : Position) (error : Snippet.EvalError RenderError) : RenderError :=
  match error.own with
  | .error failure => failure
  | .ok cause => evaluation cause position

/-- The wording of an error. -/
def message : RenderError → String
  | view error => error.message
  | layoutCycle chain => "Cycle detected in view layouts: " ++ " -> ".intercalate chain
  | nullCollection position =>
    "Foreach collection cannot be null or undefined at " ++ position.describe
  | notIterable typeName position =>
    "Foreach collection of type " ++ typeName ++ " is not iterable at " ++ position.describe
  | invalidContext typeName position =>
    "Partial context must be an object, found " ++ typeName ++ " at " ++ position.describe
  | tooDeep name position =>
    "Render depth limit of " ++ toString maxDepth ++ " exceeded by " ++ name ++ " at "
      ++ position.describe
  | evaluation cause position =>
    "Evaluation error at " ++ position.describe ++ ": " ++ cause.message nofun
  | tooManyTurns position => "Loop limit exceeded at " ++ position.describe
  | tooManyLayouts => "Layout limit exceeded"

/-- Where in a template an error arose. -/
def position? : RenderError → Option Position
  | view error => error.position?
  | layoutCycle _ | tooManyLayouts => none
  | nullCollection position | notIterable _ position | invalidContext _ position
  | tooDeep _ position | evaluation _ position | tooManyTurns position => some position

end RenderError

end ViewTemplate
