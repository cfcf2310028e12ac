import ViewTemplate.Document.Error
import ViewTemplate.Snippet.Captured
import ViewTemplate.Template.Scanner

/-!
# Reading tokens of a document

The steps that the rules of documents are made of: looking at the next token, taking it, and taking
runs of tokens or raw text.

## Main Definitions

* `Reader` — what takes text from a cursor and gives a result or an error
* `peek`, `take`, `expect`, `eat`, `skipSpace` — single tokens
* `textWhile` — the text of a run of tokens
* `quotedValue`, `blockExpression`, `blockName` — values in quotes, read as raw text
* `variableName` — the name of a variable

## Design Notes

The next token is cut anew from the text whenever it is looked at. So the only state is the text
that is left, and looking never changes it.
-/

namespace ViewTemplate.Document

open Template

/-- What takes text from a cursor and gives a result or an error. -/
abbrev Reader := ReaderT Lexicon (StateT Template.Cursor (Except ParseError))

/-! ### Errors -/

/-- The place of the next token, or the end of the source. -/
def here : Reader Position := do
  return (← get).position

/-- Fails with a fault at some place. -/
def failAt {α : Type} (position : Position) (fault : ParseFault) : Reader α :=
  throw ⟨fault, position⟩

/-- Fails with a fault at the next token. -/
def failHere {α : Type} (fault : ParseFault) : Reader α := do
  failAt (← here) fault

/-- How a token is called in messages. -/
def describe (token : Token) : String :=
  if token.kind = .whitespace then "whitespace" else "'" ++ token.text ++ "'"

/-- How an expected kind of token is called in messages. -/
def describeKind : TokenKind → String
  | .rightAngleBrace => "'>'"
  | .forwardSlash => "'/'"
  | .equals => "'='"
  | .comma => "','"
  | .rightSquareBrace => "']'"
  | .doubleQuote => "'\"'"
  | .singleQuote => "\"'\""
  | .whitespace => "whitespace"
  | .letters => "a word"
  | .expressionEnd => "the end of the expression"
  | .blockClosingStart => "a closing block tag"
  | .elementClosingStart => "a closing tag"
  | .commentEnd => "'-->'"
  | .cdataEnd => "']]>'"
  | kind => kind.label

/-! ### Single tokens -/

/-- The next token; none at the end of the source. -/
def peek : Reader (Option Token) := do
  return (← get).token? (← read)

/-- The kind of the next token; none at the end of the source. -/
def peekKind : Reader (Option TokenKind) := do
  return (← peek).map (·.kind)

/-- Whether the next token is of a kind. -/
def sees (kind : TokenKind) : Reader Bool := do
  return (← peekKind) = some kind

/-- Takes the next token. -/
def take : Reader Token := do
  match ← peek with
  | some token =>
    let lexicon ← read
    modify (·.skipToken lexicon token)
    return token
  | none => failHere .endOfSource

/-- Takes the next token, which has to be of a kind. -/
def expect (kind : TokenKind) : Reader Token := do
  let token ← take
  if token.kind = kind then
    return token
  else
    failAt token.position (.expected (describeKind kind) (describe token))

/-- Takes the next token if it is of a kind, and says whether it was. -/
def eat (kind : TokenKind) : Reader Bool := do
  if ← sees kind then
    let _ ← take
    return true
  else
    return false

/-- Takes white space, if there is some. -/
def skipSpace : Reader Unit := do
  let _ ← eat .whitespace

/-- Fails because of the next token. -/
def failUnexpected {α : Type} : Reader α := do
  match ← peek with
  | some token => failAt token.position (.unexpected (describe token))
  | none => failHere .endOfSource

/-- A bound on the number of turns of a loop that takes a token in each. -/
def budget : Reader Nat := do
  return (← get).rest.length + 1

/-! ### Runs of tokens -/

/-- The texts of the tokens up to the first one that does not belong, or to the end. -/
def textsWhile (belongs : Token → Bool) : (turns : Nat) → Reader (List String)
  | 0 => failHere .exhausted
  | turns + 1 => do
    match ← peek with
    | some token =>
      if belongs token then
        let _ ← take
        return token.text :: (← textsWhile belongs turns)
      else
        return []
    | none => return []

/-- The text of the tokens up to the first one that does not belong, or to the end. -/
def textWhile (belongs : Token → Bool) : Reader String := do
  return String.join (← textsWhile belongs (← budget))

/-- The text of the tokens before the next one of a kind, which is taken too. -/
def textUpTo (kind : TokenKind) : Reader String := do
  let text ← textWhile (·.kind != kind)
  let _ ← expect kind
  return text

/-! ### Snippets and values -/

/-- The result of reading a snippet. -/
def captured {α : Type} (result : Except Snippet.SnippetError α) : Reader α :=
  match result with
  | .ok snippet => return snippet
  | .error error => failAt error.position (.snippet error.fault)

/-- Takes a quote. -/
def expectQuote : Reader TokenKind := do
  let token ← take
  if token.kind.isQuote then
    return token.kind
  else
    failAt token.position (.expectedQuote (describe token))

/-- The character of a kind of quote. -/
def quoteChar (kind : TokenKind) : Char :=
  if kind = .doubleQuote then '"' else '\x27'

/-- A value in quotes. -/
structure QuotedValue where
  /-- The text between the quotes. -/
  text : String
  /-- Where the text starts. -/
  position : Position
  /-- The quote. -/
  quote : Char

/-- An equals sign and a value in quotes, whose text is taken as it is. -/
def quotedValue : Reader QuotedValue := do
  skipSpace
  let _ ← expect .equals
  skipSpace
  let kind ← expectQuote
  let position ← here
  let lexicon ← read
  match (← get).rawUntil? lexicon (quoteChar kind) with
  | some (text, cursor) =>
    set cursor
    let _ ← expect kind
    return ⟨text, position, quoteChar kind⟩
  | none =>
    modify (·.toEnd lexicon)
    failHere .unclosedValue

/-- The expression that a block's value holds. -/
def blockExpression : Reader Expression := do
  let value ← quotedValue
  captured (captureExpression (Text.trim value.text) value.position)

/-- A name that a block's value holds, such as a path. -/
def blockName (what : String) : Reader String := do
  let value ← quotedValue
  let name := Text.trim value.text
  if name.isEmpty then
    failAt value.position (.expectedName what)
  else
    return name

/-- The text of an embedded snippet behind its opener, and where it starts. -/
def spanText : Reader (String × Position) := do
  let position ← here
  let text ← textUpTo .expressionEnd
  return (text, position)

/-! ### Names -/

/-- Whether a kind of token can start the name of a variable. -/
def startsVariable : TokenKind → Bool
  | .letters | .underscore | .dollar => true
  | _ => false

/-- Whether a kind of token can continue the name of a variable. -/
def continuesVariable : TokenKind → Bool
  | .letters | .numbers | .underscore | .dollar | .inKeyword | .ofKeyword => true
  | _ => false

/-- The name of a variable. -/
def variableName : Reader String := do
  let token ← take
  if startsVariable token.kind then
    return token.text ++ (← textWhile fun token => continuesVariable token.kind)
  else
    failAt token.position (.expectedVariable (describe token))

end ViewTemplate.Document
