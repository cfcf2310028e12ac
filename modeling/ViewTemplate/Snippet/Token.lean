/-!
# Tokens of a snippet

The words that an embedded expression is made of.

## Main Definitions

* `Span` — a range of characters of the snippet
* `Symbol` — operators, brackets and punctuation, each with its spelling
* `Keyword` — names with a meaning of their own
* `Lexeme` — what a token is, with the value it carries
* `Token` — a lexeme and where it stands
-/

namespace ViewTemplate.Snippet

/-- The characters of a snippet from offset `start` up to but not including `stop`. -/
structure Span where
  /-- The offset of the first character. -/
  start : Nat
  /-- The offset behind the last character. -/
  stop : Nat
deriving Repr, DecidableEq, Inhabited

/-- Operators, brackets and punctuation. -/
inductive Symbol where
  | plus | minus | star | slash | percent
  | eqEq | notEq | strictEq | strictNotEq | lt | gt | lte | gte
  | and | or | not | questionQuestion
  | eq | plusEq | minusEq | starEq | slashEq
  | plusPlus | minusMinus
  | lParen | rParen | lBracket | rBracket | lBrace | rBrace
  | dot | comma | colon | semicolon | question | arrow | optionalChain
deriving Repr, DecidableEq

/-- Words that are no names. -/
inductive Keyword where
  | null | undefined | typeof | this | letWord
deriving Repr, DecidableEq

/-- What a token is. -/
inductive Lexeme where
  | number (value : Float)
  | string (text : String)
  | boolean (value : Bool)
  | identifier (name : String)
  | keyword (word : Keyword)
  | symbol (symbol : Symbol)
  /-- The end of the snippet. -/
  | finish
deriving DecidableEq

/-- A lexeme and the characters that spell it. -/
structure Token where
  /-- What the token is. -/
  lexeme : Lexeme
  /-- Where it stands. -/
  span : Span
deriving DecidableEq

namespace Symbol

/-- Every symbol with its spelling. A symbol comes before those that it begins with, so the first
match is the longest. -/
def spellings : List (List Char × Symbol) := [
  (['=', '=', '='], strictEq), (['!', '=', '='], strictNotEq),
  (['=', '='], eqEq), (['!', '='], notEq), (['=', '>'], arrow),
  (['&', '&'], and), (['|', '|'], or),
  (['+', '+'], plusPlus), (['-', '-'], minusMinus),
  (['+', '='], plusEq), (['-', '='], minusEq), (['*', '='], starEq), (['/', '='], slashEq),
  (['<', '='], lte), (['>', '='], gte),
  (['?', '?'], questionQuestion), (['?', '.'], optionalChain),
  (['+'], plus), (['-'], minus), (['*'], star), (['/'], slash), (['%'], percent),
  (['!'], not), (['<'], lt), (['>'], gt), (['='], eq),
  (['('], lParen), ([')'], rParen), (['['], lBracket), ([']'], rBracket),
  (['\x7b'], lBrace), (['\x7d'], rBrace),
  (['.'], dot), ([','], comma), ([':'], colon), ([';'], semicolon), (['?'], question)]

/-- The name of a symbol in messages. -/
def label : Symbol → String
  | plus => "Plus" | minus => "Minus" | star => "Star" | slash => "Slash" | percent => "Percent"
  | eqEq => "EqEq" | notEq => "NotEq" | strictEq => "StrictEq" | strictNotEq => "StrictNotEq"
  | lt => "Lt" | gt => "Gt" | lte => "Lte" | gte => "Gte"
  | and => "And" | or => "Or" | not => "Not" | questionQuestion => "QuestionQuestion"
  | eq => "Eq" | plusEq => "PlusEq" | minusEq => "MinusEq" | starEq => "StarEq"
  | slashEq => "SlashEq"
  | plusPlus => "PlusPlus" | minusMinus => "MinusMinus"
  | lParen => "LParen" | rParen => "RParen" | lBracket => "LBracket" | rBracket => "RBracket"
  | lBrace => "LBrace" | rBrace => "RBrace"
  | dot => "Dot" | comma => "Comma" | colon => "Colon" | semicolon => "Semicolon"
  | question => "Question" | arrow => "Arrow" | optionalChain => "OptionalChain"

end Symbol

namespace Keyword

/-- The keyword that a word spells, if it is one. -/
def ofWord? : String → Option Keyword
  | "null" => some null
  | "undefined" => some undefined
  | "typeof" => some typeof
  | "this" => some this
  | "let" => some letWord
  | _ => none

/-- The word that spells a keyword. -/
def word : Keyword → String
  | null => "null"
  | undefined => "undefined"
  | typeof => "typeof"
  | this => "this"
  | letWord => "let"

/-- The name of a keyword in messages. -/
def label : Keyword → String
  | null => "Null"
  | undefined => "Undefined"
  | typeof => "Typeof"
  | this => "This"
  | letWord => "Let"

@[simp]
theorem ofWord?_word (keyword : Keyword) : ofWord? keyword.word = some keyword := by
  cases keyword <;> rfl

end Keyword

namespace Lexeme

/-- The name of a kind of lexeme in messages. -/
def label : Lexeme → String
  | number _ => "Number"
  | string _ => "String"
  | boolean _ => "Boolean"
  | identifier _ => "Identifier"
  | keyword k => k.label
  | symbol s => s.label
  | finish => "Eof"

end Lexeme

end ViewTemplate.Snippet
