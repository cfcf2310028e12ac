import ViewTemplate.Number.Reading
import ViewTemplate.Snippet.Token
import ViewTemplate.Text.Search

/-!
# Reading the tokens of a snippet

A snippet is cut into tokens from left to right. White space separates tokens and is dropped.

## Main Definitions

* `LexError` — why a snippet has no tokens, and where
* `scan` — the lexeme at the start of a text, and what follows it
* `tokenize` — the tokens of a snippet, the end of the snippet last

## Design Notes

A lexeme is recognised on the text alone; offsets are counted from the lengths of the texts before
and after it, so a scanner cannot miscount them.
-/

namespace ViewTemplate.Snippet

open ViewTemplate.Text ViewTemplate.Number

/-- Why the characters at some place are no token. -/
inductive LexFault where
  | unexpectedCharacter (c : Char)
  | invalidNumber (text : String)
  | unterminatedString
  | unterminatedEscape
deriving Repr, DecidableEq

/-- The wording of a fault. -/
def LexFault.message : LexFault → String
  | unexpectedCharacter c => "Unexpected character: '" ++ c.toString ++ "'"
  | invalidNumber text => "Invalid number: '" ++ text ++ "'"
  | unterminatedString => "Unterminated string"
  | unterminatedEscape => "Unterminated escape sequence"

/-- A fault and the characters it concerns. -/
structure LexError where
  /-- What is wrong. -/
  fault : LexFault
  /-- Where it is wrong. -/
  span : Span
deriving Repr, DecidableEq

/-- What scanning finds: a lexeme or a fault, and in either case the text behind it. -/
abbrev Scanned := Except LexFault Lexeme × List Char

/-! ### Numbers -/

/-- A character of a number before its exponent. -/
def isNumberPart (c : Char) : Bool :=
  isAsciiDigit c || c == '.'

/-- The exponent at the start of a text: a mark, an optional sign and digits. Nothing if no digit
follows. -/
def exponentPart : List Char → List Char
  | mark :: sign :: rest =>
    if mark = 'e' ∨ mark = 'E' then
      if sign = '+' ∨ sign = '-' then
        match rest.takeWhile isAsciiDigit with
        | [] => []
        | digits => mark :: sign :: digits
      else
        match (sign :: rest).takeWhile isAsciiDigit with
        | [] => []
        | digits => mark :: digits
    else []
  | _ => []

/-- A number: digits and points, then an exponent. It has to spell a number as a whole. -/
def scanNumber (text : List Char) : Scanned :=
  let body := text.takeWhile isNumberPart
  let spelled := body ++ exponentPart (text.dropWhile isNumberPart)
  let rest := text.drop spelled.length
  match readUnsigned? spelled with
  | some value => (.ok (.number value), rest)
  | none => (.error (.invalidNumber (String.ofList spelled)), rest)

/-! ### Strings -/

/-- A character that opens and closes a string. -/
def isQuote (c : Char) : Bool :=
  c == '"' || c == '\x27' || c == '\x60'

/-- The character that a letter behind a backslash stands for. -/
def unescape (c : Char) : Char :=
  if c = 'n' then '\n'
  else if c = 't' then '\t'
  else if c = 'r' then '\r'
  else if c = '0' then Char.ofNat 0
  else c

/-- A string behind its opening quote, where `value` is what was read so far, in reverse. -/
def scanString (quote : Char) (value : List Char) : List Char → Scanned
  | [] => (.error .unterminatedString, [])
  | c :: rest =>
    if c = quote then (.ok (.string (String.ofList value.reverse)), rest)
    else if c = '\\' then
      match rest with
      | [] => (.error .unterminatedEscape, [])
      | d :: rest => scanString quote (unescape d :: value) rest
    else scanString quote (c :: value) rest

/-! ### Words and symbols -/

/-- A character that may start a word. -/
def isWordStart (c : Char) : Bool :=
  isLetter c || c == '_' || c == '$'

/-- A character that may continue a word. -/
def isWordPart (c : Char) : Bool :=
  isLetterOrNumeral c || c == '_' || c == '$'

/-- What a word is: a truth value, a keyword or a name. -/
def lexemeOfWord (word : String) : Lexeme :=
  if word = "true" then .boolean true
  else if word = "false" then .boolean false
  else match Keyword.ofWord? word with
    | some keyword => .keyword keyword
    | none => .identifier word

/-- A word. -/
def scanWord (text : List Char) : Scanned :=
  (.ok (lexemeOfWord (String.ofList (text.takeWhile isWordPart))), text.dropWhile isWordPart)

/-- Whether a text begins with a digit. -/
def startsWithDigit : List Char → Bool
  | c :: _ => isAsciiDigit c
  | [] => false

/-- The symbol at the start of a text, if it starts with one of `spellings`. A question mark and a
point before a digit are no optional access: the point belongs to the number. -/
def symbolFrom (text : List Char) : List (List Char × Symbol) → Option (Symbol × List Char)
  | [] => none
  | (spelling, symbol) :: others =>
    match after? spelling text with
    | some rest =>
      if symbol = .optionalChain ∧ startsWithDigit rest then symbolFrom text others
      else some (symbol, rest)
    | none => symbolFrom text others

/-- A symbol. -/
def scanSymbol (c : Char) (rest : List Char) : Scanned :=
  match symbolFrom (c :: rest) Symbol.spellings with
  | some (symbol, rest) => (.ok (.symbol symbol), rest)
  | none => (.error (.unexpectedCharacter c), rest)

/-! ### Tokens -/

/-- The lexeme at the start of a text that does not start with white space. -/
def scan : List Char → Scanned
  | [] => (.ok .finish, [])
  | c :: rest =>
    if isAsciiDigit c || (c == '.' && startsWithDigit rest) then scanNumber (c :: rest)
    else if isQuote c then scanString c [] rest
    else if isWordStart c then scanWord (c :: rest)
    else scanSymbol c rest

/-- The tokens of the last `text` of a snippet of `length` characters. A budget of one more than the
length of the text is enough, as every token but the last takes a character. -/
def tokensFrom (length : Nat) : (budget : Nat) → List Char → Except LexError (List Token)
  | 0, _ => .ok [⟨.finish, ⟨length, length⟩⟩]
  | budget + 1, text =>
    let text := dropBlanks text
    let found := scan text
    let span : Span := ⟨length - text.length, length - found.2.length⟩
    match found.1 with
    | .error fault => .error ⟨fault, span⟩
    | .ok .finish => .ok [⟨.finish, span⟩]
    | .ok lexeme => (tokensFrom length budget found.2).map (⟨lexeme, span⟩ :: ·)

/-- The tokens of a snippet; the last one, and no other, is the end. -/
def tokenize (snippet : String) : Except LexError (List Token) :=
  let text := snippet.toList
  tokensFrom text.length (text.length + 1) text

end ViewTemplate.Snippet
