/-!
# Options of the command line

The commands, their options, and the pages that describe them.

## Main Definitions

* `CommandName` — the commands
* `OptionName`, `OptionName.spec` — the options, and how each is written
* `Page` — what a description is about
* `Page.options` — the options that can be given there
* `Page.text` — the description

## Design Notes

The options of a page are listed in the order in which it shows them. The same lists say which
options are accepted.
-/

namespace ViewTemplate.CommandLine

/-- How the program is called. -/
def programName : String := "hexel"

/-- Which version of the program this is. -/
def programVersion : String := "0.3.0"

/-! ### Options -/

/-- The options. -/
inductive OptionName where
  | verbose | config | tag | tabWidth | context | views | layout | noCache | help | version
deriving Repr, DecidableEq

/-- How an option is written and described. -/
structure OptionSpec where
  /-- The letter behind a single dash. -/
  short : Option Char := none
  /-- The word behind two dashes. -/
  long : String
  /-- How the value of the option is called, if it has one. -/
  value : Option String := none
  /-- Whether the option counts how often it is given. -/
  counts : Bool := false
  /-- What the option does. -/
  summary : String

/-- How an option is written and described. -/
def OptionName.spec : OptionName → OptionSpec
  | verbose =>
    { short := some 'v', long := "verbose", counts := true
      summary := "Raise log verbosity (-v debug, -vv trace)" }
  | config =>
    { long := "config", value := some "FILE", summary := "JSON file with environment options" }
  | tag => { long := "tag", value := some "TAG", summary := "Tag name that opens template blocks" }
  | tabWidth =>
    { long := "tab-width", value := some "TAB_WIDTH"
      summary := "Columns a tab advances when reporting positions" }
  | context =>
    { long := "context", value := some "FILE", summary := "JSON file used as the render context" }
  | views =>
    { long := "views", value := some "DIR", summary := "Directory views are resolved against" }
  | layout =>
    { long := "layout", value := some "PATH"
      summary := "Layout wrapping the view, in place of any it declares" }
  | noCache => { long := "no-cache", summary := "Compile every view on each use" }
  | help => { short := some 'h', long := "help", summary := "Print help" }
  | version => { short := some 'V', long := "version", summary := "Print version" }

/-- How an option is shown in front of its description. -/
def OptionSpec.shown (spec : OptionSpec) : String :=
  let short := match spec.short with
    | some letter => "-" ++ String.singleton letter ++ ", "
    | none => "    "
  let value := match spec.value with
    | some name => " <" ++ name ++ ">"
    | none => if spec.counts then "..." else ""
  short ++ "--" ++ spec.long ++ value

/-! ### Commands -/

/-- The commands. -/
inductive CommandName where
  | render | check | dump
deriving Repr, DecidableEq

namespace CommandName

/-- The word that names a command. -/
def word : CommandName → String
  | render => "render"
  | check => "check"
  | dump => "dump"

/-- What a command does. -/
def summary : CommandName → String
  | render => "Render a view and print the document"
  | check => "Parse and compile a template file, reporting the first error"
  | dump => "Print the compiled program of a template file"

/-- How the argument of a command is called, and what it is. -/
def argument : CommandName → String × String
  | render => ("<VIEW>", "View path, relative to the views directory")
  | check | dump => ("<PATH>", "Template file")

/-- The commands, in order. -/
def all : List CommandName := [render, check, dump]

/-- The command that a word names. -/
def ofWord? (word : String) : Option CommandName :=
  all.find? (·.word = word)

end CommandName

/-- The word that asks for a description. -/
def helpWord : String := "help"

/-- What that word does. -/
def helpSummary : String := "Print this message or the help of the given subcommand(s)"

/-! ### Pages -/

/-- What a description is about. -/
inductive Page where
  /-- The whole program. -/
  | program
  | command (name : CommandName)
  /-- The word that asks for a description. -/
  | help
deriving Repr, DecidableEq

/-- The options that can be given, in the order in which they are shown. -/
def Page.options : Page → List OptionName
  | program => [.verbose, .config, .tag, .tabWidth, .help, .version]
  | command .render =>
    [.context, .verbose, .config, .views, .layout, .tag, .noCache, .tabWidth, .help]
  | command _ => [.verbose, .config, .tag, .tabWidth, .help]
  | help => []

/-- A heading and lines of two columns, the second one aligned. -/
def section? (heading : String) (rows : List (String × String)) : Option String :=
  if rows.isEmpty then none
  else
    let width := (rows.map (·.1.length)).foldl max 0
    let line (row : String × String) : String :=
      "  " ++ row.1 ++ "".pushn ' ' (width - row.1.length) ++ "  " ++ row.2 ++ "\n"
    some (heading ++ ":\n" ++ String.join (rows.map line))

/-- The lines that describe options. -/
def Page.optionRows (page : Page) : List (String × String) :=
  page.options.map fun name => (name.spec.shown, name.spec.summary)

/-- The description of a page. -/
def Page.text (page : Page) : String :=
  let (summary, usage, sections) : String × String × List (Option String) := match page with
    | program =>
      ("Hexel: HTML view templates with embedded expressions", "[OPTIONS] <COMMAND>",
        [section? "Commands"
          (CommandName.all.map (fun name => (name.word, name.summary))
            ++ [(helpWord, helpSummary)])])
    | command name =>
      (name.summary, name.word ++ " [OPTIONS] " ++ name.argument.1,
        [section? "Arguments" [name.argument]])
    | help =>
      (helpSummary, helpWord ++ " [COMMAND]...",
        [section? "Arguments" [("[COMMAND]...", "Print help for the subcommand(s)")]])
  let sections := (sections ++ [section? "Options" page.optionRows]).filterMap id
  summary ++ "\n\nUsage: " ++ programName ++ " " ++ usage ++ "\n\n" ++ "\n".intercalate sections

end ViewTemplate.CommandLine
