import ViewTemplate.CommandLine.Run

/-!
# The program

Runs the command line on the files of the machine.

## Main Definitions

* `main` — the program

## Design Notes

A command is a function of its arguments and of the files that are there. The program gives it the
files that the arguments name. When the command then lacks a view, the program looks for it among
the files of the machine, adds it, and runs the command again.
-/

namespace ViewTemplate.CommandLine

/-- The files with the one that a path leads to on the machine, and whether there is one. -/
def addFile (files : Files) (path : String) : IO (Files × Bool) := do
  try
    let content ← IO.FS.readBinFile path
    return ({ files with tree := files.tree.write files.directory path content }, true)
  catch
    | .inappropriateType .. =>
      let place := FileTree.placeOf files.directory path
      return ({ files with tree := files.tree.put (.directory []) place }, false)
    | _ => return (files, false)

/-- The paths that the arguments of a command name. -/
def namedPaths (invocation : Invocation) : List String :=
  invocation.config.toList ++ match invocation.command with
    | .render _ context _ _ _ => context.toList
    | .check path | .dump path => [path]

/-- The result of a command, with views added from the machine as long as it lacks one that is
there. -/
partial def settle (invocation : Invocation) (files : Files) :
    IO (Except CommandError Printed) := do
  let result := invocation.run files
  match result, invocation.environmentOptions files with
  | .error (.render (.view (.notFound path))), .ok options =>
    let full := joinPaths options.root path
    if (files.tree.locateFile? files.directory full).isSome then
      return result
    else
      match ← addFile files full with
      | (files, true) => settle invocation files
      | (_, false) => return result
  | _, _ => return result

/-- The outcome of an invocation on the files of the machine. -/
def perform (invocation : Invocation) : IO Outcome := do
  let directory := FileTree.placeOf [] (← IO.currentDir).toString
  let mut files : Files := ⟨FileTree.put (.directory []) (.directory []) directory, directory⟩
  for path in namedPaths invocation do
    files := (← addFile files path).1
  return outcomeOf (← settle invocation files)

end ViewTemplate.CommandLine

open ViewTemplate.CommandLine in
/-- The program. -/
def main (arguments : List String) : IO UInt32 := do
  let outcome ← match readArguments arguments with
    | .error stop => pure stop.outcome
    | .ok invocation => perform invocation
  (← IO.getStdout).putStr outcome.stdout
  (← IO.getStderr).putStr outcome.stderr
  return outcome.code.toUInt32
