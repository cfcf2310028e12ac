import ViewTemplate.Template.Options
import ViewTemplate.Template.Token
import ViewTemplate.Text.Case

/-!
# Cutting a template into tokens

Each token is found from the text that starts with it. Every source can be cut: what fits no other
kind is unknown.

## Main Definitions

* `Lexicon` — the settings in the form that scanning uses
* `Piece` — the kind, the characters and the tag name of a token
* `Lexicon.scan` — the first token of a text
* `Cursor` — the text that is left and where it starts
* `Cursor.token?`, `Cursor.skip` — the next token, and the cursor behind it

## Design Notes

A scanner gives the characters that a token takes from the front of the text, and the cursor drops
as many and counts the position over them. So tokens cover the source without gaps, and a cursor can
look at the next token as often as it likes.
-/

namespace ViewTemplate.Template

open Text

/-! ### Settings -/

/-- The settings in the form that scanning uses. -/
structure Lexicon where
  /-- The name of the block tag in lower case. -/
  blockTag : String
  /-- What stands before an embedded statement. -/
  expressionStart : List Char
  /-- What stands behind an embedded snippet. -/
  expressionEnd : List Char
  /-- What stands before an embedded expression whose value is printed. -/
  printStart : List Char
  /-- What stands before an embedded comment. -/
  commentStart : List Char
  /-- The number of columns that a tab takes. -/
  tabWidth : Nat

/-- The settings in the form that scanning uses. -/
def LexicalOptions.lexicon (options : LexicalOptions) : Lexicon where
  blockTag := toLower options.blockTag
  expressionStart := options.expressionStart.toList
  expressionEnd := options.expressionEnd.toList
  printStart := options.printStart.toList
  commentStart := options.commentStart.toList
  tabWidth := options.tabWidth

/-! ### Classes of characters -/

/-- White space inside tags and between tokens. -/
def isSpace (c : Char) : Bool :=
  c == ' ' || c == '\t' || c == '\n'

/-- A character that cannot belong to a tag's name. -/
def endsTagName (c : Char) : Bool :=
  c == '/' || c == '>' || isSpace c

/-- A character that cannot belong to a keyword behind an at sign. -/
def endsKeyword (c : Char) : Bool :=
  c == '/' || c == '>' || c == '=' || c == '"' || c == '\x27' || isSpace c

/-! ### Pieces -/

/-- What a token takes from the front of a text. -/
structure Piece where
  /-- What the token is. -/
  kind : TokenKind
  /-- Its characters. -/
  text : List Char
  /-- The name of the tag that it opens or closes, in lower case. -/
  tagName : Option String := none

/-- The token that a single character makes up, if it is punctuation. -/
def punctuation? (c : Char) : Option TokenKind :=
  if c = '>' then some .rightAngleBrace
  else if c = '\x7b' then some .leftCurlyBrace
  else if c = '\x7d' then some .rightCurlyBrace
  else if c = '[' then some .leftSquareBrace
  else if c = '/' then some .forwardSlash
  else if c = '?' then some .questionMark
  else if c = '_' then some .underscore
  else if c = '$' then some .dollar
  else if c = '=' then some .equals
  else if c = '.' then some .dot
  else if c = ',' then some .comma
  else if c = '"' then some .doubleQuote
  else if c = '\x27' then some .singleQuote
  else if c = '\x60' then some .backtick
  else none

/-- The opener of an embedded snippet at the start of a text that begins with the plain one. Longer
openers come first. -/
def Lexicon.scanOpener (lexicon : Lexicon) (text : List Char) : Piece :=
  if startsWith text lexicon.printStart then ⟨.printExpressionStart, lexicon.printStart, none⟩
  else if startsWith text lexicon.commentStart then
    ⟨.commentExpressionStart, lexicon.commentStart, none⟩
  else ⟨.expressionStart, lexicon.expressionStart, none⟩

/-- A block opener, where `name` is the block tag with its angle bracket and `rest` is what follows
it: white space and a keyword behind an at sign, or a scope without one. -/
def scanBlock (name rest : List Char) : TokenKind × List Char :=
  let blanks := rest.takeWhile isSpace
  match rest.dropWhile isSpace with
  | '@' :: rest =>
    let keyword := rest.takeWhile (!endsKeyword ·)
    ((TokenKind.ofBlockWord? (String.ofList keyword)).getD .unknown,
      name ++ blanks ++ '@' :: keyword)
  | _ => (.scope, name ++ blanks)

/-- Everything behind an exclamation mark in an angle bracket. -/
def scanDeclaration (rest : List Char) : Piece :=
  if startsWith rest ['-', '-'] then ⟨.commentStart, ['<', '!', '-', '-'], none⟩
  else if startsWith rest ['[', 'C', 'D', 'A', 'T', 'A', '['] then
    ⟨.cdataStart, ['<', '!', '[', 'C', 'D', 'A', 'T', 'A', '['], none⟩
  else if startsWith rest ['D', 'O', 'C', 'T', 'Y', 'P', 'E'] then
    ⟨.doctype, ['<', '!', 'D', 'O', 'C', 'T', 'Y', 'P', 'E'], none⟩
  else ⟨.unknown, ['<', '!'], none⟩

/-- The name at the start of a text that can name a tag. -/
def tagNameOf (text : List Char) : List Char :=
  match text with
  | c :: _ => if isAsciiLetterOrDigit c then text.takeWhile (!endsTagName ·) else []
  | [] => []

/-- A closing tag, where `rest` is what follows its slash. -/
def Lexicon.scanClosing (lexicon : Lexicon) (rest : List Char) : Piece :=
  match tagNameOf rest with
  | [] => ⟨.unknown, ['<', '/'], none⟩
  | name =>
    let tagName := toLower (String.ofList name)
    ⟨if tagName = lexicon.blockTag then .blockClosingStart else .elementClosingStart,
      '<' :: '/' :: name, some tagName⟩

/-- An opening tag or a block opener, where `rest` is what follows its angle bracket. -/
def Lexicon.scanOpening (lexicon : Lexicon) (rest : List Char) : Piece :=
  match tagNameOf rest with
  | [] => ⟨.leftAngleBrace, ['<'], none⟩
  | name =>
    let tagName := toLower (String.ofList name)
    if tagName = lexicon.blockTag then
      let (kind, text) := scanBlock ('<' :: name) (rest.drop name.length)
      ⟨kind, text, some tagName⟩
    else ⟨.elementStart, '<' :: name, some tagName⟩

/-- Everything that begins with an angle bracket, where `rest` is what follows it. -/
def Lexicon.scanAngle (lexicon : Lexicon) (rest : List Char) : Piece :=
  match rest with
  | '/' :: rest => lexicon.scanClosing rest
  | '!' :: rest => scanDeclaration rest
  | rest => lexicon.scanOpening rest

/-- An at sign with the keyword behind it, where `rest` is what follows it. -/
def scanAt (rest : List Char) : Piece :=
  match rest with
  | c :: _ =>
    if isAsciiLetterOrDigit c then
      let keyword := rest.takeWhile (!endsKeyword ·)
      ⟨(TokenKind.ofAttributeWord? (String.ofList keyword)).getD .unknown, '@' :: keyword, none⟩
    else ⟨.atSign, ['@'], none⟩
  | [] => ⟨.atSign, ['@'], none⟩

/-- One or two dashes, or the end of a comment, where `rest` is what follows the first dash. -/
def scanDashes (rest : List Char) : Piece :=
  match rest with
  | '-' :: '>' :: _ => ⟨.commentEnd, ['-', '-', '>'], none⟩
  | '-' :: _ => ⟨.doubleDash, ['-', '-'], none⟩
  | _ => ⟨.dash, ['-'], none⟩

/-- A square bracket or the end of a section of character data, where `rest` is what follows the
bracket. -/
def scanSquare (rest : List Char) : Piece :=
  match rest with
  | ']' :: '>' :: _ => ⟨.cdataEnd, [']', ']', '>'], none⟩
  | _ => ⟨.rightSquareBrace, [']'], none⟩

/-- A token that starts with no delimiter of embedded snippets. -/
def Lexicon.scanMarkup (lexicon : Lexicon) (c : Char) (rest : List Char) : Piece :=
  if c = '<' then lexicon.scanAngle rest
  else if c = ']' then scanSquare rest
  else if c = '@' then scanAt rest
  else if c = '-' then scanDashes rest
  else match punctuation? c with
    | some kind => ⟨kind, [c], none⟩
    | none =>
      if isSpace c then ⟨.whitespace, (c :: rest).takeWhile isSpace, none⟩
      else if isAsciiLetter c then
        let word := (c :: rest).takeWhile isAsciiLetter
        ⟨(TokenKind.ofWord? (String.ofList word)).getD .letters, word, none⟩
      else if isAsciiDigit c then ⟨.numbers, (c :: rest).takeWhile isAsciiDigit, none⟩
      else ⟨.unknown, [c], none⟩

/-- The first token of a text; none if the text is empty. -/
def Lexicon.scan (lexicon : Lexicon) (text : List Char) : Option Piece :=
  match text with
  | [] => none
  | c :: rest =>
    if startsWith text lexicon.expressionStart then some (lexicon.scanOpener text)
    else if startsWith text lexicon.expressionEnd then
      some ⟨.expressionEnd, lexicon.expressionEnd, none⟩
    else some (lexicon.scanMarkup c rest)

/-! ### Cursors -/

/-- The text that is left to read and where it starts. -/
structure Cursor where
  /-- The text that is left. -/
  rest : List Char
  /-- Where it starts. -/
  position : Position := .start
deriving Repr, DecidableEq

namespace Cursor

/-- A cursor before a whole source, in which a carriage return before a line feed does not count. -/
def ofSource (source : String) : Cursor :=
  ⟨normalizeLines source.toList, .start⟩

/-- The cursor behind `count` more characters. -/
def skip (lexicon : Lexicon) (cursor : Cursor) (count : Nat) : Cursor :=
  ⟨cursor.rest.drop count, cursor.position.afterAll lexicon.tabWidth (cursor.rest.take count)⟩

/-- The next token; none at the end. -/
def token? (lexicon : Lexicon) (cursor : Cursor) : Option Token :=
  (lexicon.scan cursor.rest).map fun piece =>
    ⟨piece.kind, cursor.position, String.ofList piece.text, piece.tagName⟩

/-- The cursor behind a token that was found at it. -/
def skipToken (lexicon : Lexicon) (cursor : Cursor) (token : Token) : Cursor :=
  cursor.skip lexicon token.text.length

/-- The text before the next `stop` and the cursor at it; none if there is no `stop` left. -/
def rawUntil? (lexicon : Lexicon) (cursor : Cursor) (stop : Char) : Option (String × Cursor) :=
  let raw := cursor.rest.takeWhile (· != stop)
  if raw.length < cursor.rest.length then
    some (String.ofList raw, cursor.skip lexicon raw.length)
  else none

/-- The cursor at the end of the source. -/
def toEnd (lexicon : Lexicon) (cursor : Cursor) : Cursor :=
  cursor.skip lexicon cursor.rest.length

end Cursor

/-- The tokens that are left behind a cursor. A budget of the length of the text is enough, as every
token takes a character. -/
def tokensFrom (lexicon : Lexicon) : (budget : Nat) → Cursor → List Token
  | 0, _ => []
  | budget + 1, cursor =>
    match cursor.token? lexicon with
    | none => []
    | some token => token :: tokensFrom lexicon budget (cursor.skipToken lexicon token)

/-- The tokens of a source. -/
def tokenize (options : LexicalOptions) (source : String) : Except OptionsFault (List Token) := do
  options.validate
  let cursor := Cursor.ofSource source
  return tokensFrom options.lexicon cursor.rest.length cursor

end ViewTemplate.Template
