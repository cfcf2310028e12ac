import ViewTemplate.CommandLine.Options
import ViewTemplate.Number.Reading

/-!
# Arguments of the command line

What a list of arguments asks for.

## Main Definitions

* `Invocation` — a command with its settings
* `Stop` — why there is nothing to run: a description is asked for, or the arguments are wrong
* `readArguments` — the invocation that arguments spell

## Design Notes

Arguments are read from left to right, and the first one that is wrong or asks for a description
decides. An option whose value stands apart is given late: only when the next option, the argument
of the command or the end of the arguments shows that it is complete. The word of a command does not
show that; so what follows the word is read before the last option in front of it is given.

The options of the whole program can stand in front of the command and behind it; of an option that
is given in both places, the one behind counts.
-/

namespace ViewTemplate.CommandLine

/-- A command with what it works on. -/
inductive Command where
  | render (view : String) (context views layout : Option String) (noCache : Bool)
  | check (path : String)
  | dump (path : String)
deriving Repr, DecidableEq

/-- A command with its settings. -/
structure Invocation where
  /-- The file with the options of the environment. -/
  config : Option String
  /-- The block tag, in place of the one of the options. -/
  tag : Option String
  /-- The width of a tab, in place of the one of the options. -/
  tabWidth : Option Nat
  /-- The command. -/
  command : Command
deriving Repr, DecidableEq

/-- Why there is nothing to run. -/
inductive Stop where
  /-- The arguments are wrong. -/
  | usage
  /-- A description is asked for. -/
  | help (page : Page)
  /-- The version is asked for. -/
  | version
deriving Repr, DecidableEq

/-! ### Words -/

/-- How an argument can be taken. -/
inductive Word where
  /-- An option by its word, perhaps with a value behind an equals sign. -/
  | long (name : String) (value : Option String)
  /-- Options by their letters. -/
  | letters (letters : List Char)
  /-- The mark behind which nothing is an option. -/
  | endOfOptions
  | plain
deriving Repr, DecidableEq

/-- How an argument is taken. -/
def Word.ofArgument (argument : String) : Word :=
  match argument.toList with
  | ['-', '-'] => endOfOptions
  | '-' :: '-' :: text =>
    match text.dropWhile (· ≠ '=') with
    | [] => long (String.ofList text) none
    | _ :: value => long (String.ofList (text.takeWhile (· ≠ '='))) (some (String.ofList value))
  | '-' :: c :: text => letters (c :: text)
  | _ => plain

/-! ### Values -/

/-- The width that a text spells: digits, perhaps behind a plus sign. It fits in a machine word. -/
def width? (text : String) : Option Nat :=
  let digits := match text.toList with
    | '+' :: rest => rest
    | rest => rest
  match Number.readDigits? digits with
  | some (digits, []) =>
    let value := Number.ofDigits digits
    if value ≤ Number.maxWord then some value else none
  | _ => none

/-- Whether a text can be the value of an option: paths are not empty, and widths are numbers. -/
def OptionName.accepts (name : OptionName) (text : String) : Bool :=
  match name with
  | config | context | views => text != ""
  | tabWidth => (width? text).isSome
  | _ => true

/-- Whether a text can be the argument of a command. -/
def CommandName.accepts (name : CommandName) (text : String) : Bool :=
  match name with
  | render => true
  | check | dump => text != ""

/-! ### Reading -/

/-- Options that were given, each with its value. -/
abbrev Given := List (OptionName × String)

/-- The value of an option that was given. -/
def Given.value? (given : Given) (name : OptionName) : Option String :=
  (given.find? (·.1 = name)).map (·.2)

/-- An option whose value stands apart. -/
structure Pending where
  /-- The option. -/
  name : OptionName
  /-- The value, once it was read. -/
  value : Option String := none

/-- How far the arguments of a page were read. -/
structure Progress where
  /-- The options that were given there. -/
  given : Given := []
  /-- The option that was read but is not given yet. -/
  pending : Option Pending := none
  /-- Whether options have ended. -/
  ended : Bool := false
  /-- The argument that is no option. -/
  argument : Option String := none

namespace Progress

/-- Gives an option a value. Only once, and only a value that it accepts. -/
def give (progress : Progress) (name : OptionName) (value : String) : Except Stop Progress :=
  if (progress.given.value? name).isSome || !name.accepts value then .error .usage
  else .ok { progress with given := progress.given ++ [(name, value)], pending := none }

/-- Gives the option that was read but not given yet. It must have got its value. -/
def settle (progress : Progress) : Except Stop Progress :=
  match progress.pending with
  | none => .ok progress
  | some ⟨_, none⟩ => .error .usage
  | some ⟨name, some value⟩ => progress.give name value

/-- Whether an option waits for its value. -/
def isWaiting (progress : Progress) : Bool :=
  match progress.pending with
  | some ⟨_, none⟩ => true
  | _ => false

/-- Gives an option that has no value. -/
def giveFlag (page : Page) (progress : Progress) (name : OptionName) : Except Stop Progress :=
  match name with
  | .help => .error (.help page)
  | .version => .error .version
  | .verbose => .ok progress
  | name => progress.give name ""

/-- Gives an option by its letter. -/
def giveLetter (page : Page) (progress : Progress) (letter : Char) : Except Stop Progress :=
  match page.options.find? (·.spec.short = some letter) with
  | some name => progress.giveFlag page name
  | none => .error .usage

/-- Gives an option by its word, and waits for its value if it stands apart. -/
def giveLong (page : Page) (progress : Progress) (word : String) (value : Option String) :
    Except Stop Progress :=
  match page.options.find? (·.spec.long = word) with
  | none => .error .usage
  | some name =>
    match name.spec.value, value with
    | some _, some value => progress.give name value
    | some _, none => .ok { progress with pending := some { name } }
    | none, some _ => .error .usage
    | none, none => progress.giveFlag page name

/-- Takes an argument that is an option or the value of one. -/
def takeOption (page : Page) (progress : Progress) (argument : String) : Except Stop Progress :=
  match Word.ofArgument argument with
  | .plain =>
    .ok { progress with pending := progress.pending.map ({ · with value := some argument }) }
  | .endOfOptions => .ok { progress with ended := true }
  | .letters letters => do letters.foldlM (giveLetter page) (← progress.settle)
  | .long word value => do (← progress.settle).giveLong page word value

/-- Whether an argument is no option and no value of one. -/
def isArgument (progress : Progress) (argument : String) : Bool :=
  progress.ended || (!progress.isWaiting && Word.ofArgument argument = .plain)

end Progress

/-- Reads the arguments behind a command. -/
def readCommand (name : CommandName) (progress : Progress) : List String → Except Stop Progress
  | [] => progress.settle
  | argument :: rest => do
    if progress.isArgument argument then
      let progress ← progress.settle
      if progress.argument.isSome || !name.accepts argument then
        .error .usage
      else
        readCommand name { progress with argument := some argument } rest
    else
      readCommand name (← progress.takeOption (.command name) argument) rest

/-- The page that the words behind the word for descriptions ask for. -/
def readTopic : List String → Stop
  | [] => .help .program
  | [word] =>
    match CommandName.ofWord? word with
    | some name => .help (.command name)
    | none => if word = helpWord then .help .help else .usage
  | _ => .usage

/-- The invocation of a command with an argument and options. -/
def invocation (name : CommandName) (argument : String) (given : Given) : Invocation where
  config := given.value? .config
  tag := given.value? .tag
  tabWidth := (given.value? .tabWidth).bind width?
  command := match name with
    | .render =>
      .render argument (given.value? .context) (given.value? .views) (given.value? .layout)
        (given.value? .noCache).isSome
    | .check => .check argument
    | .dump => .dump argument

/-- Reads arguments up to the command and behind it. -/
def readProgram (progress : Progress) : List String → Except Stop Invocation
  | [] => .error .usage
  | argument :: rest => do
    if progress.isArgument argument then
      match CommandName.ofWord? argument with
      | some name =>
        if progress.ended then
          .error .usage
        else
          let inner ← readCommand name {} rest
          let progress ← progress.settle
          match inner.argument with
          | none => .error .usage
          | some argument => return invocation name argument (inner.given ++ progress.given)
      | none =>
        .error (if argument = helpWord && !progress.ended then readTopic rest else .usage)
    else
      readProgram (← progress.takeOption .program argument) rest

/-- The invocation that arguments spell. -/
def readArguments : List String → Except Stop Invocation :=
  readProgram {}

end ViewTemplate.CommandLine
