import ViewTemplate.Document.Error
import ViewTemplate.Program.Lowering
import ViewTemplate.Views.FileTree

/-!
# Errors of views

Why a view cannot be had as a program.

## Main Definitions

* `ViewError` — the causes, with the view that each concerns
* `ViewError.message`, `ViewError.position?` — the wording and the place of a cause
-/

namespace ViewTemplate

/-- Why a view cannot be had. -/
inductive ViewError where
  /-- No view has that path. -/
  | notFound (path : String)
  /-- The file of a view has no text. -/
  | unreadable (name : String) (fault : FileFault)
  /-- The source of a view is no document. -/
  | parse (name : String) (error : ParseError)
  /-- The document of a view has no program. -/
  | compile (name : String) (error : CompileError)
deriving Repr, DecidableEq

namespace ViewError

/-- The wording of an error. -/
def message : ViewError → String
  | notFound path => "View not found: " ++ path
  | unreadable name fault => "Failed to read view " ++ name ++ ": " ++ fault.message
  | parse name error => name ++ ": " ++ error.message
  | compile name error => name ++ ": " ++ error.message

/-- Where in the source of a view an error stands. -/
def position? : ViewError → Option Position
  | notFound _ | unreadable .. => none
  | parse _ error => some error.position
  | compile _ error => some error.position

end ViewError

end ViewTemplate
