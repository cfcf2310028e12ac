import ViewTemplate.Snippet.Error
import ViewTemplate.Template.Options

/-!
# Errors in documents

Why a source is no document, and where.

## Main Definitions

* `ParseFault` — the causes, with what each concerns
* `ParseFault.detail` — the wording of a cause
* `ParseError` — a cause and its place

## Design Notes

A fault belongs to one of three kinds: the source ends inside a token, the tokens fit no rule, or an
embedded snippet is wrong.
-/

namespace ViewTemplate

/-- The kinds of errors in documents. -/
inductive ParseErrorKind where
  | lexical | syntactic | snippet
deriving Repr, DecidableEq

/-- The name of a kind in messages. -/
def ParseErrorKind.label : ParseErrorKind → String
  | lexical => "Lexical"
  | syntactic => "Syntax"
  | snippet => "Expression"

/-- Why a source is no document. -/
inductive ParseFault where
  /-- The settings cannot be used. -/
  | options (fault : Template.OptionsFault)
  /-- The source ends before a closing quote. -/
  | unclosedValue
  /-- The source ends where more is needed. -/
  | endOfSource
  | unexpected (found : String)
  | expected (what found : String)
  | expectedQuote (found : String)
  | expectedVariable (found : String)
  | expectedLoopWord (found : String)
  | expectedName (what : String)
  | expectedHtml (found : String)
  | expectedSuffix
  | expectedAttribute
  | misplacedLayout
  | unknownBlock (opener : String)
  | duplicateArgument (name : String)
  | noArguments
  | secondDefault
  | duplicateIdentifier (name : String)
  | tooManyIdentifiers
  | mismatchedClosing (expected found : String)
  | statementInAttribute
  /-- A snippet is no expression or statement. -/
  | snippet (fault : Snippet.Fault)
  | printedDeclaration
  /-- The budget of a reader ran out, which the budgets given here never do. -/
  | exhausted
deriving Repr, DecidableEq

namespace ParseFault

/-- The kind of a fault. -/
def kind : ParseFault → ParseErrorKind
  | options _ | unclosedValue => .lexical
  | snippet _ | printedDeclaration => .snippet
  | _ => .syntactic

/-- The wording of a fault. -/
def detail : ParseFault → String
  | options fault => fault.message
  | unclosedValue | endOfSource => "Unexpected end of file"
  | unexpected found => "Unexpected " ++ found
  | expected what found => "Expected " ++ what ++ ", found " ++ found
  | expectedQuote found => "Expected a quote, found " ++ found
  | expectedVariable found => "Expected a variable name, found " ++ found
  | expectedLoopWord found => "Expected 'in' or 'of', found " ++ found
  | expectedName what => "Expected a " ++ what
  | expectedHtml found => "Expected 'html', found '" ++ found ++ "'"
  | expectedSuffix => "Expected a value to append"
  | expectedAttribute => "Expected an attribute name"
  | misplacedLayout => "A layout can only be declared at the very start of a view"
  | unknownBlock opener => "Unknown block keyword in '" ++ opener ++ "'"
  | duplicateArgument name => "Duplicate block argument '" ++ name ++ "'"
  | noArguments => "Expected one or more block arguments"
  | secondDefault => "A switch block can only have one default case"
  | duplicateIdentifier name => "Duplicate identifier '" ++ name ++ "' in foreach"
  | tooManyIdentifiers => "A foreach block takes at most two identifiers"
  | mismatchedClosing wanted found =>
    "Mismatched closing tag: expected </" ++ wanted ++ ">, found </" ++ found ++ ">"
  | statementInAttribute => "Statements are not allowed inside attribute values"
  | snippet fault => fault.message
  | printedDeclaration => "A declaration cannot be printed"
  | exhausted => "Document is too long"

end ParseFault

/-- A fault and its place. -/
structure ParseError where
  /-- What is wrong. -/
  fault : ParseFault
  /-- Where it is wrong. -/
  position : Position
deriving Repr, DecidableEq

/-- The full wording of an error. -/
def ParseError.message (error : ParseError) : String :=
  error.fault.kind.label ++ " error at " ++ error.position.describe ++ ": " ++ error.fault.detail

end ViewTemplate
