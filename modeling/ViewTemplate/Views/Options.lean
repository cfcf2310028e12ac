import ViewTemplate.Json.Number
import ViewTemplate.Template.Options

/-!
# Environment options

The settings of a rendering environment and how they are read from a JSON document.

## Main Definitions

* `EnvironmentOptions` — the settings, with their defaults
* `readSettings` — what a document of named settings gives
* `LexicalOptions.ofJson?`, `EnvironmentOptions.ofJson?` — the settings that a document gives

## Design Notes

A document gives settings as the fields of an object, or as the items of a list, in the order in
which the settings are declared. An object may leave out any setting and may hold other fields,
which do not count; a list may leave out the last settings, but it must not go on behind them. A
setting of another type than expected, or one that is given twice, makes the whole document invalid.
-/

namespace ViewTemplate

open Template

/-! ### Fields of a document -/

/-- The text of a JSON string. -/
def Json.text? : Json → Option String
  | .string text => text
  | _ => none

/-- The value of a JSON truth value. -/
def Json.bool? : Json → Option Bool
  | .bool value => some value
  | _ => none

/-- The machine word that a JSON number spells. -/
def Json.word? : Json → Option Nat
  | .number literal => literal.word?
  | _ => none

/-- The text of a JSON string, or nothing for `null`. -/
def Json.optionalText? : Json → Option (Option String)
  | .null => some none
  | .string text => text.map some
  | _ => none

/-- Goes through the fields of an object and puts each one that `put` knows into the settings. A
known field must have the expected type and must not be given twice; `seen` are the known names so
far. -/
def readFields {α : Type} (put : String → Json → α → Option (Option α)) (seen : List String) :
    List (Option String × Json) → α → Option α
  | [], settings => some settings
  | (none, _) :: _, _ => none
  | (some name, json) :: rest, settings =>
    match put name json settings with
    | none => readFields put seen rest settings
    | some result => do
      let settings ← result
      if seen.contains name then none else readFields put (name :: seen) rest settings

/-- Goes through the items of a list and puts each one into the settings, under the name at the same
place of `names`. -/
def readItems {α : Type} (put : String → Json → α → Option (Option α)) :
    (names : List String) → List Json → α → Option α
  | _, [], settings => some settings
  | [], _ :: _, _ => none
  | name :: names, json :: rest, settings => do
    let settings ← (put name json settings).join
    readItems put names rest settings

/-- The settings that a document gives, starting from those that hold if it gives none. -/
def readSettings {α : Type} (put : String → Json → α → Option (Option α)) (names : List String)
    (defaults : α) : Json → Option α
  | .object fields => readFields put [] fields defaults
  | .array items => readItems put names items defaults
  | _ => none

/-! ### Lexical options -/

/-- The names of the lexical options, in order. -/
def lexicalNames : List String :=
  ["block-tag-name", "expression-start", "expression-end", "print-prefix", "comment-prefix",
    "tab-width"]

/-- Puts one field into lexical options: nothing if the name is unknown, and no result if the type
is wrong. -/
def putLexical (name : String) (json : Json) (options : LexicalOptions) :
    Option (Option LexicalOptions) :=
  match name with
  | "block-tag-name" => some (json.text?.map fun blockTag => { options with blockTag })
  | "expression-start" =>
    some (json.text?.map fun expressionStart => { options with expressionStart })
  | "expression-end" => some (json.text?.map fun expressionEnd => { options with expressionEnd })
  | "print-prefix" => some (json.text?.map fun printStart => { options with printStart })
  | "comment-prefix" => some (json.text?.map fun commentStart => { options with commentStart })
  | "tab-width" => some (json.word?.map fun tabWidth => { options with tabWidth })
  | _ => none

/-- The lexical options that a document gives. -/
def Template.LexicalOptions.ofJson? : Json → Option LexicalOptions :=
  readSettings putLexical lexicalNames {}

/-! ### Environment options -/

/-- The settings of a rendering environment. -/
structure EnvironmentOptions where
  /-- The directory that view paths start from. -/
  root : String := "views"
  /-- Whether compiled views are kept. -/
  cacheViews : Bool := true
  /-- The delimiters of templates. -/
  lexical : LexicalOptions := {}
  /-- The layout of every full render, in place of any that a view declares. -/
  defaultLayout : Option String := none
deriving Repr, DecidableEq, Inhabited

/-- The names of the environment options, in order. -/
def environmentNames : List String :=
  ["root", "cache-views", "lexer", "default-layout"]

/-- Puts one field into environment options. -/
def putEnvironment (name : String) (json : Json) (options : EnvironmentOptions) :
    Option (Option EnvironmentOptions) :=
  match name with
  | "root" => some (json.text?.map fun root => { options with root })
  | "cache-views" => some (json.bool?.map fun cacheViews => { options with cacheViews })
  | "lexer" =>
    some ((LexicalOptions.ofJson? json).map fun lexical => { options with lexical })
  | "default-layout" =>
    some (json.optionalText?.map fun defaultLayout => { options with defaultLayout })
  | _ => none

/-- The environment options that a document gives. -/
def EnvironmentOptions.ofJson? : Json → Option EnvironmentOptions :=
  readSettings putEnvironment environmentNames {}

end ViewTemplate
