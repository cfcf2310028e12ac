import ViewTemplate.Template.Scanner

/-!
# Lexers with one token of lookahead

Reading a template token by token, where the next token can be looked at before it is taken, and raw
text can be taken up to a given character.

## Main Definitions

* `Lexer` — a cursor and the token that was looked at
* `Lexer.ofSource?` — a lexer before a source, with settings that have no fault
* `Lexer.peek`, `Lexer.next`, `Lexer.rawUntil` — looking, taking, and taking raw text
* `LexicalError` — why raw text cannot be taken

## Design Notes

A token that was looked at has been read, so the position of the lexer is behind it.
-/

namespace ViewTemplate.Template

/-- A source that ends too early, and where. -/
structure LexicalError where
  /-- The end of the source. -/
  position : Position
deriving Repr, DecidableEq

/-- What is wrong. -/
def LexicalError.detail : String :=
  "Unexpected end of file"

/-- The full wording of an error. -/
def LexicalError.message (error : LexicalError) : String :=
  "Lexical error at " ++ error.position.describe ++ ": " ++ LexicalError.detail

/-- A cursor and the token before it that was looked at but not taken. -/
structure Lexer where
  /-- The settings. -/
  lexicon : Lexicon
  /-- The text that was not read yet. -/
  cursor : Cursor
  /-- The token that was looked at. -/
  ahead : Option Token := none

namespace Lexer

/-- A lexer before a source. -/
def ofSource? (options : LexicalOptions) (source : String) : Except OptionsFault Lexer := do
  options.validate
  return ⟨options.lexicon, .ofSource source, none⟩

/-- The place behind everything that was read. -/
def position (lexer : Lexer) : Position :=
  lexer.cursor.position

/-- Reads the next token; none at the end. -/
def scan (lexer : Lexer) : Option Token × Lexer :=
  match lexer.cursor.token? lexer.lexicon with
  | none => (none, lexer)
  | some token =>
    (some token, { lexer with cursor := lexer.cursor.skipToken lexer.lexicon token })

/-- Looks at the next token. -/
def peek (lexer : Lexer) : Option Token × Lexer :=
  match lexer.ahead with
  | some token => (some token, lexer)
  | none =>
    let (token, lexer) := lexer.scan
    (token, { lexer with ahead := token })

/-- Takes the next token. -/
def next (lexer : Lexer) : Option Token × Lexer :=
  match lexer.ahead with
  | some token => (some token, { lexer with ahead := none })
  | none => lexer.scan

/-- Takes the text before the next `stop`; all of it is read if there is none. -/
def rawUntil (lexer : Lexer) (stop : Char) : Except LexicalError String × Lexer :=
  match lexer.cursor.rawUntil? lexer.lexicon stop with
  | some (raw, cursor) => (.ok raw, { lexer with cursor })
  | none =>
    let cursor := lexer.cursor.toEnd lexer.lexicon
    (.error ⟨cursor.position⟩, { lexer with cursor })

end Lexer

end ViewTemplate.Template
