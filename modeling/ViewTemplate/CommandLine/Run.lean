import ViewTemplate.CommandLine.Arguments
import ViewTemplate.Program.Listing
import ViewTemplate.Render.Layout
import ViewTemplate.Value.OfJson

/-!
# Running the command line

What the program prints for its arguments and the files that are there.

## Main Definitions

* `CommandError` — why a command fails
* `Invocation.run` — what a command prints
* `Outcome` — an exit code with the texts printed
* `run` — the outcome of arguments
-/

namespace ViewTemplate.CommandLine

/-- Why a command fails. -/
inductive CommandError where
  /-- A file has no text. -/
  | unreadable (path : String) (fault : FileFault)
  /-- A file holds no JSON of the form that is needed. -/
  | invalidJson (path : String)
  /-- The settings cannot be used. -/
  | options (fault : Template.OptionsFault)
  /-- The render fails. -/
  | render (error : RenderError)

/-- The wording of an error. -/
def CommandError.message : CommandError → String
  | unreadable path fault => "Error reading " ++ path ++ ": " ++ fault.message
  | invalidJson path => "Invalid JSON in " ++ path
  | options fault => environmentFaultMessage fault
  | render error => error.message

/-- The files that a command can read. -/
structure Files where
  /-- All of them. -/
  tree : FileTree
  /-- Where paths start from. -/
  directory : Location

namespace Files

/-- The text of a file. -/
def read (files : Files) (path : String) : Except CommandError String :=
  (files.tree.readText files.directory path).mapError (.unreadable path)

/-- What a file of JSON stands for. -/
def readAs {α : Type} (files : Files) (decode : String → Option α) (path : String) :
    Except CommandError α := do
  match decode (← files.read path) with
  | some value => return value
  | none => throw (.invalidJson path)

end Files

/-- What a command prints. -/
structure Printed where
  /-- The result. -/
  result : String := ""
  /-- A remark beside it. -/
  remark : String := ""

namespace Invocation

/-- The options of the environment: those of the file, and the ones given in their place. -/
def environmentOptions (invocation : Invocation) (files : Files) :
    Except CommandError EnvironmentOptions := do
  let options ← match invocation.config with
    | some path =>
      files.readAs (fun text => (Json.read? text).bind EnvironmentOptions.ofJson?) path
    | none => pure {}
  let lexical := options.lexical
  let lexical := { lexical with blockTag := invocation.tag.getD lexical.blockTag }
  let lexical := { lexical with tabWidth := invocation.tabWidth.getD lexical.tabWidth }
  let options := { options with lexical }
  match invocation.command with
  | .render _ _ views layout noCache =>
    return { options with
      root := views.getD options.root
      defaultLayout := layout.orElse fun _ => options.defaultLayout
      cacheViews := options.cacheViews && !noCache }
  | _ => return options

/-- The functions of the host, of which there are none. -/
def noFunctions (name : String) : HostFunction :=
  fun _ => .error ⟨.reference, name ++ " is not defined"⟩

/-- The environment of a command. -/
def environment (options : EnvironmentOptions) (files : Files) :
    Except CommandError Environment :=
  (Environment.create? options (.files files.tree files.directory options.root) []
    noFunctions).mapError .options

/-- The program of a file. -/
def programOf (options : EnvironmentOptions) (files : Files) (path : String) :
    Except CommandError Program := do
  let source ← files.read path
  let environment ← environment options files
  (environment.compileSource path source).mapError (.render ∘ .view)

/-- The text of a view. -/
def rendered (options : EnvironmentOptions) (files : Files) (view : String)
    (context : Option String) : Except CommandError String := do
  let context ← match context with
    | some path => files.readAs Value.readJson? path
    | none => pure (.object [])
  let environment ← environment options files
  (((environment.render view context).run.run {}).1).mapError .render

/-- What a command prints. -/
def run (invocation : Invocation) (files : Files) : Except CommandError Printed := do
  let options ← invocation.environmentOptions files
  match invocation.command with
  | .render view context .. => return { result := ← rendered options files view context }
  | .check path =>
    let _ ← programOf options files path
    return { remark := "OK: " ++ path ++ "\n" }
  | .dump path => return { result := (← programOf options files path).listing }

end Invocation

/-! ### Outcomes -/

/-- An exit code with the texts printed. -/
structure Outcome where
  /-- The exit code. -/
  code : Nat
  /-- The text on the standard output. -/
  stdout : String := ""
  /-- The text on the standard error output. -/
  stderr : String := ""
deriving Repr, DecidableEq

/-- The outcome where there is nothing to run. -/
def Stop.outcome : Stop → Outcome
  | usage => { code := 2, stderr := "error: invalid arguments\n\n" ++ Page.program.text }
  | help page => { code := 0, stdout := page.text }
  | version => { code := 0, stdout := programName ++ " " ++ programVersion ++ "\n" }

/-- The outcome of a command. -/
def outcomeOf : Except CommandError Printed → Outcome
  | .ok printed => { code := 0, stdout := printed.result, stderr := printed.remark }
  | .error error => { code := 1, stderr := "Error: " ++ error.message ++ "\n" }

/-- The outcome of arguments. -/
def run (arguments : List String) (files : Files) : Outcome :=
  match readArguments arguments with
  | .error stop => stop.outcome
  | .ok invocation => outcomeOf (invocation.run files)

end ViewTemplate.CommandLine
