import ViewTemplate.Text.Blank
import ViewTemplate.Text.Letter
import ViewTemplate.Text.Search

/-!
# Lexical options

The delimiters of a template and how its columns are counted.

## Main Definitions

* `LexicalOptions` — the settings, with their defaults
* `OptionsFault` — why settings cannot be used together
* `LexicalOptions.validate` — the first fault of the settings, if any
-/

namespace ViewTemplate.Template

open Text

/-- The delimiters of a template and how its columns are counted. -/
structure LexicalOptions where
  /-- The name of the tag that opens template blocks. -/
  blockTag : String := "js"
  /-- What stands before an embedded statement. -/
  expressionStart : String := "\x7b%"
  /-- What stands behind an embedded snippet. -/
  expressionEnd : String := "%\x7d"
  /-- What stands before an embedded expression whose value is printed. -/
  printStart : String := "\x7b%="
  /-- What stands before an embedded comment. -/
  commentStart : String := "\x7b%#"
  /-- The number of columns that a tab takes. -/
  tabWidth : Nat := 4
deriving Repr, DecidableEq, Inhabited

/-- Why settings cannot be used together. -/
inductive OptionsFault where
  | shortStart
  | shortEnd
  | printStart
  | commentStart
  | equalStarts
  | blockTag (name : String)
  | tabWidth
deriving Repr, DecidableEq

/-- The wording of a fault. -/
def OptionsFault.detail : OptionsFault → String
  | shortStart => "expression start delimiter must be at least 2 characters long"
  | shortEnd => "expression end delimiter must be at least 2 characters long"
  | printStart => "print prefix must start with the expression start delimiter"
  | commentStart => "comment prefix must start with the expression start delimiter"
  | equalStarts => "print and comment prefixes must differ"
  | blockTag name => "invalid block tag name: '" ++ name ++ "'"
  | tabWidth => "tab width must be at least 1"

/-- The full wording of a fault. -/
def OptionsFault.message (fault : OptionsFault) : String :=
  "Invalid lexer options: " ++ fault.detail

/-- Whether a name can be the block tag: it starts with an ASCII letter or digit and holds nothing
that would end a tag's name. -/
def isBlockTag (name : String) : Bool :=
  match name.toList with
  | [] => false
  | c :: rest =>
    isAsciiLetterOrDigit c && (c :: rest).all fun d => !isBlank d && d != '/' && d != '>'

/-- The first fault of the settings, if any. -/
def LexicalOptions.validate (options : LexicalOptions) : Except OptionsFault Unit :=
  if options.expressionStart.length < 2 then .error .shortStart
  else if options.expressionEnd.length < 2 then .error .shortEnd
  else if !startsWith options.printStart.toList options.expressionStart.toList then
    .error .printStart
  else if !startsWith options.commentStart.toList options.expressionStart.toList then
    .error .commentStart
  else if options.printStart = options.commentStart then .error .equalStarts
  else if !isBlockTag options.blockTag then .error (.blockTag options.blockTag)
  else if options.tabWidth = 0 then .error .tabWidth
  else .ok ()

end ViewTemplate.Template
