import ViewTemplate.Position

/-!
# Tokens of a template

The pieces that the source of a template is cut into: markup, block openers, the delimiters of
embedded snippets, and everything between them.

## Main Definitions

* `TokenKind` — what a token is
* `Token` — a piece of the source with its kind and place
* `TokenKind.ofBlockWord?`, `TokenKind.ofAttributeWord?`, `TokenKind.ofWord?` — what words stand for
* `isVoidElement` — elements without content
-/

namespace ViewTemplate.Template

/-- What a token is. -/
inductive TokenKind where
  -- Delimiters of embedded snippets.
  | expressionStart | printExpressionStart | commentExpressionStart | expressionEnd
  -- Tags.
  | leftAngleBrace | elementStart | elementClosingStart | blockClosingStart
  | commentStart | commentEnd | cdataStart | cdataEnd | doctype
  -- Block openers: the block tag with a keyword, or without one for a scope.
  | scope | print | ifBlock | elseIf | elseBlock | switch | case | defaultCase
  | foreach | whileBlock | render | renderContent | contentFor | layout
  -- Keywords in a block opener's tail, and an at sign without a word.
  | blockAttribute | contextAttribute | atSign
  -- Punctuation.
  | rightAngleBrace | leftCurlyBrace | rightCurlyBrace | leftSquareBrace | rightSquareBrace
  | forwardSlash | questionMark | underscore | dollar | equals | dot | comma
  | doubleQuote | singleQuote | backtick | dash | doubleDash
  -- Runs of characters of one kind.
  | whitespace | letters | numbers
  -- Words between the names and the collection of a loop.
  | inKeyword | ofKeyword
  | unknown
deriving Repr, DecidableEq

/-- A piece of the source. -/
structure Token where
  /-- What the token is. -/
  kind : TokenKind
  /-- Where its first character stands. -/
  position : Position
  /-- Its characters. -/
  text : String
  /-- The name of the tag that it opens or closes, in lower case. -/
  tagName : Option String := none
deriving Repr, DecidableEq

namespace TokenKind

/-- The block that a keyword opens. -/
def ofBlockWord? : String → Option TokenKind
  | "print" => some print
  | "if" => some ifBlock
  | "else-if" => some elseIf
  | "else" => some elseBlock
  | "switch" => some switch
  | "case" => some case
  | "default" => some defaultCase
  | "foreach" => some foreach
  | "while" => some whileBlock
  | "render" => some render
  | "render-content" => some renderContent
  | "content-for" => some contentFor
  | "layout" => some layout
  | _ => none

/-- What a word behind an at sign stands for in the tail of a block opener. -/
def ofAttributeWord? : String → Option TokenKind
  | "block" => some blockAttribute
  | "context" => some contextAttribute
  | _ => none

/-- What a run of letters stands for, if it is no plain text. -/
def ofWord? : String → Option TokenKind
  | "in" => some inKeyword
  | "of" => some ofKeyword
  | _ => none

/-- Whether a token opens and closes a quoted value. -/
def isQuote : TokenKind → Bool
  | doubleQuote | singleQuote => true
  | _ => false

/-- The name of a kind in messages. -/
def label : TokenKind → String
  | expressionStart => "ExpressionStart"
  | printExpressionStart => "PrintExpressionStart"
  | commentExpressionStart => "CommentExpressionStart"
  | expressionEnd => "ExpressionEnd"
  | leftAngleBrace => "LeftAngleBrace"
  | elementStart => "ElementStart"
  | elementClosingStart => "ElementClosingStart"
  | blockClosingStart => "BlockClosingStart"
  | commentStart => "CommentStart"
  | commentEnd => "CommentEnd"
  | cdataStart => "CDataStart"
  | cdataEnd => "CDataEnd"
  | doctype => "Doctype"
  | scope => "Scope"
  | print => "Print"
  | ifBlock => "If"
  | elseIf => "ElseIf"
  | elseBlock => "Else"
  | switch => "Switch"
  | case => "Case"
  | defaultCase => "DefaultCase"
  | foreach => "Foreach"
  | whileBlock => "While"
  | render => "Render"
  | renderContent => "RenderContent"
  | contentFor => "ContentFor"
  | layout => "Layout"
  | blockAttribute => "BlockAttribute"
  | contextAttribute => "ContextAttribute"
  | atSign => "At"
  | rightAngleBrace => "RightAngleBrace"
  | leftCurlyBrace => "LeftCurlyBrace"
  | rightCurlyBrace => "RightCurlyBrace"
  | leftSquareBrace => "LeftSquareBrace"
  | rightSquareBrace => "RightSquareBrace"
  | forwardSlash => "ForwardSlash"
  | questionMark => "QuestionMark"
  | underscore => "Underscore"
  | dollar => "Dollar"
  | equals => "Equals"
  | dot => "Dot"
  | comma => "Comma"
  | doubleQuote => "DoubleQuote"
  | singleQuote => "SingleQuote"
  | backtick => "Backtick"
  | dash => "Dash"
  | doubleDash => "DoubleDash"
  | whitespace => "Whitespace"
  | letters => "Letters"
  | numbers => "Numbers"
  | inKeyword => "InKeyword"
  | ofKeyword => "OfKeyword"
  | unknown => "Unknown"

end TokenKind

/-- The elements that have no content and no closing tag. -/
def voidElements : List String := [
  "area", "base", "br", "col", "command", "embed", "hr", "img", "input", "keygen", "link",
  "meta", "param", "source", "track", "wbr"]

/-- Whether an element has no content. -/
def isVoidElement (tagName : String) : Bool :=
  voidElements.contains tagName

end ViewTemplate.Template
