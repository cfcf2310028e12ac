import ViewTemplate.Number.Text
import ViewTemplate.Snippet.Error
import ViewTemplate.Snippet.Syntax

/-!
# The grammar of snippets

Trees are read from tokens by recursive descent, one function for each level of the grammar, from
assignments, which bind loosest, to names and literals.

## Main Definitions

* `Cursor`, `Reader` — the tokens that are left, and functions that take from them
* `BinaryOp.ofSymbol?` — the operator of a symbol and how tightly it binds
* `primary`, `chain`, `postfixed`, `unary`, `binaryAt`, `ternary`, `assignment` — the levels
* `expression` — expressions, nested up to a given depth
* `readExpression`, `readStatement` — a whole snippet

## Design Notes

Every level takes the reader of nested expressions as an argument, so that only `expression` is
recursive across levels. Its depth and the loops of the levels are bounded by the number of tokens,
which every turn and every nesting reduces.
-/

namespace ViewTemplate.Snippet

/-! ### The cursor -/

/-- The tokens that are left to read. -/
structure Cursor where
  /-- The tokens that are left, the end of the snippet last. -/
  tokens : List Token
  /-- The offset behind the last token read. -/
  lastStop : Nat

/-- What takes tokens from a cursor and gives a result or a fault. -/
abbrev Reader := StateT Cursor (Except Fault)

namespace Cursor

/-- The token that is read next; past the last one, the end. -/
def token (cursor : Cursor) : Token :=
  cursor.tokens.headD ⟨.finish, ⟨cursor.lastStop, cursor.lastStop⟩⟩

/-- The cursor behind the next token. The end is never passed. -/
def advance (cursor : Cursor) : Cursor :=
  match cursor.tokens with
  | [] => cursor
  | token :: rest => if token.lexeme = .finish then cursor else ⟨rest, token.span.stop⟩

end Cursor

/-- What the next token is. -/
def peek : Reader Lexeme :=
  fun cursor => .ok (cursor.token.lexeme, cursor)

/-- Takes the next token. -/
def next : Reader Token :=
  fun cursor => .ok (cursor.token, cursor.advance)

/-- The offset behind the last token read. -/
def lastStop : Reader Nat :=
  fun cursor => .ok (cursor.lastStop, cursor)

/-- A bound on the number of turns of a loop that takes a token in each. -/
def budget : Reader Nat :=
  fun cursor => .ok (cursor.tokens.length + 1, cursor)

/-- Whether the next token is `symbol`; if so it is taken. -/
def eat (symbol : Symbol) : Reader Bool := do
  if (← peek) = .symbol symbol then
    let _ ← next
    return true
  else
    return false

/-- Takes the next token, which has to be `symbol`. -/
def expect (symbol : Symbol) : Reader Unit := do
  let lexeme ← peek
  if lexeme = .symbol symbol then
    let _ ← next
  else
    throw (.expectedToken symbol.label lexeme.label)

/-! ### Operators -/

/-- The binary operator of a symbol and how tightly it binds. -/
def BinaryOp.ofSymbol? : Symbol → Option (BinaryOp × Nat)
  | .questionQuestion => some (.nullishCoalescing, 1)
  | .or => some (.or, 2)
  | .and => some (.and, 3)
  | .eqEq => some (.eq, 4)
  | .notEq => some (.neq, 4)
  | .strictEq => some (.strictEq, 4)
  | .strictNotEq => some (.strictNeq, 4)
  | .lt => some (.lt, 5)
  | .gt => some (.gt, 5)
  | .lte => some (.lte, 5)
  | .gte => some (.gte, 5)
  | .plus => some (.add, 6)
  | .minus => some (.sub, 6)
  | .star => some (.mul, 7)
  | .slash => some (.div, 7)
  | .percent => some (.mod, 7)
  | _ => none

/-- The number of levels of binary operators. -/
def tightest : Nat := 7

/-- The operator that a lexeme spells on a given level. -/
def BinaryOp.ofLexeme? (level : Nat) : Lexeme → Option BinaryOp
  | .symbol symbol =>
    match ofSymbol? symbol with
    | some (op, tightness) => if tightness = level then some op else none
    | none => none
  | _ => none

/-- The operator in front of an operand that a lexeme spells. -/
def UnaryOp.ofLexeme? : Lexeme → Option UnaryOp
  | .symbol .not => some .not
  | .symbol .minus => some .neg
  | .symbol .plus => some .plus
  | .keyword .typeof => some .typeof
  | _ => none

/-- The update that a lexeme spells. -/
def UpdateOp.ofLexeme? : Lexeme → Option UpdateOp
  | .symbol .plusPlus => some .increment
  | .symbol .minusMinus => some .decrement
  | _ => none

/-- The assignment that a lexeme spells. -/
def AssignOp.ofLexeme? : Lexeme → Option AssignOp
  | .symbol .eq => some .assign
  | .symbol .plusEq => some .addAssign
  | .symbol .minusEq => some .subAssign
  | .symbol .starEq => some .mulAssign
  | .symbol .slashEq => some .divAssign
  | _ => none

/-! ### Lists and names -/

/-- Items with commas between them up to the symbol `close`. A comma may stand before it. -/
def itemsUpTo {α : Type} (close : Symbol) (item : Reader α) : (turns : Nat) → Reader (List α)
  | 0 => throw .exhausted
  | turns + 1 => do
    if (← peek) = .symbol close then
      return []
    else
      let first ← item
      if ← eat .comma then
        return first :: (← itemsUpTo close item turns)
      else
        return [first]

/-- Items with commas between them, and the symbol `close` behind them. -/
def listUpTo {α : Type} (close : Symbol) (item : Reader α) : Reader (List α) := do
  let items ← itemsUpTo close item (← budget)
  expect close
  return items

/-- The name behind a point: a word of any kind but the truth values. -/
def memberName : Reader Expr := do
  let token ← next
  match token.lexeme with
  | .identifier name => return .string token.span name
  | .keyword word => return .string token.span word.word
  | lexeme => throw (.expectedProperty lexeme.label)

/-- The key that a lexeme spells in an object literal. -/
def keyOf? : Lexeme → Option String
  | .string text => some text
  | .identifier name => some name
  | .number value => some (Number.text value)
  | .keyword word => some word.word
  | _ => none

/-- A property of an object literal. A name alone stands for the variable of that name. -/
def property (nested : Reader Expr) : Reader (Property Expr) := do
  let token ← next
  match keyOf? token.lexeme with
  | none => throw (.expectedProperty token.lexeme.label)
  | some key =>
    if ← eat .colon then
      return ⟨key, false, ← nested⟩
    else match token.lexeme with
      | .identifier name => return ⟨key, true, .identifier token.span name⟩
      | _ => throw (.expectedColon key)

/-! ### The levels of the grammar -/

/-- Literals, names and everything in brackets. -/
def primary (nested : Reader Expr) : Reader Expr := do
  let token ← next
  match token.lexeme with
  | .number value => return .number token.span value
  | .string text => return .string token.span text
  | .boolean value => return .boolean token.span value
  | .identifier name => return .identifier token.span name
  | .keyword .null => return .null token.span
  | .keyword .undefined => return .undefined token.span
  | .keyword .this => return .this token.span
  | .symbol .lParen =>
    let inner ← nested
    expect .rParen
    return inner
  | .symbol .lBracket =>
    let items ← listUpTo .rBracket nested
    return .array ⟨token.span.start, ← lastStop⟩ items
  | .symbol .lBrace =>
    let properties ← listUpTo .rBrace (property nested)
    return .object ⟨token.span.start, ← lastStop⟩ properties
  | .symbol .arrow => throw .arrowFunction
  | .finish => throw .unexpectedEnd
  | lexeme => throw (.unexpectedToken lexeme.label)

/-- The member `key` of `object`. -/
def memberOf (object key : Expr) (computed optional : Bool) : Expr :=
  .member ⟨object.span.start, key.span.stop⟩ object key computed optional

/-- A key in brackets, behind the opening one. -/
def bracketedKey (nested : Reader Expr) : Reader Expr := do
  let key ← nested
  expect .rBracket
  return key

/-- One link of a chain behind `target`: a member or a call. Nothing if the next token starts
none. -/
def link (nested : Reader Expr) (target : Expr) : Reader (Option Expr) := do
  match ← peek with
  | .symbol .dot =>
    let _ ← next
    return some (memberOf target (← memberName) false false)
  | .symbol .optionalChain =>
    let _ ← next
    if ← eat .lBracket then
      return some (memberOf target (← bracketedKey nested) true true)
    else if (← peek) = .symbol .lParen then
      throw .optionalCall
    else
      return some (memberOf target (← memberName) false true)
  | .symbol .lBracket =>
    let _ ← next
    return some (memberOf target (← bracketedKey nested) true false)
  | .symbol .lParen =>
    let _ ← next
    let arguments ← listUpTo .rParen nested
    return some (.call ⟨target.span.start, ← lastStop⟩ target arguments)
  | _ => return none

/-- The links behind `target`. -/
def links (nested : Reader Expr) : (turns : Nat) → Expr → Reader Expr
  | 0, _ => throw .exhausted
  | turns + 1, target => do
    match ← link nested target with
    | some longer => links nested turns longer
    | none => return target

/-- A primary expression with members and calls behind it. -/
def chain (nested : Reader Expr) : Reader Expr := do
  let target ← primary nested
  links nested (← budget) target

/-- A chain with an update behind it, which only a variable can have. -/
def postfixed (nested : Reader Expr) : Reader Expr := do
  let target ← chain nested
  match UpdateOp.ofLexeme? (← peek) with
  | none => return target
  | some op =>
    let token ← next
    match target with
    | .identifier span name => return .update ⟨span.start, token.span.stop⟩ op name
    | _ => throw .invalidUpdate

/-- Operators in front of an operand. -/
def unaryUpTo (nested : Reader Expr) : (turns : Nat) → Reader Expr
  | 0 => throw .exhausted
  | turns + 1 => do
    let lexeme ← peek
    match UnaryOp.ofLexeme? lexeme with
    | some op =>
      let token ← next
      let operand ← unaryUpTo nested turns
      return .unary ⟨token.span.start, operand.span.stop⟩ op operand
    | none =>
      if lexeme = .symbol .plusPlus ∨ lexeme = .symbol .minusMinus then
        throw .updateInFront
      else
        postfixed nested

/-- An operand with the operators in front of it. -/
def unary (nested : Reader Expr) : Reader Expr := do
  unaryUpTo nested (← budget)

/-- The operators of one level behind the operand `left`, each with its right operand. -/
def operations (operand : Reader Expr) (level : Nat) : (turns : Nat) → Expr → Reader Expr
  | 0, _ => throw .exhausted
  | turns + 1, left => do
    match BinaryOp.ofLexeme? level (← peek) with
    | none => return left
    | some op =>
      let _ ← next
      let right ← operand
      operations operand level turns (.binary ⟨left.span.start, right.span.stop⟩ op left right)

/-- Operations on the `levels` tightest levels of binary operators. On each level they group to the
left. -/
def binaryUpTo (nested : Reader Expr) : (levels : Nat) → Reader Expr
  | 0 => unary nested
  | levels + 1 => do
    let left ← binaryUpTo nested levels
    operations (binaryUpTo nested levels) (tightest - levels) (← budget) left

/-- Operations on all levels of binary operators. -/
def binary (nested : Reader Expr) : Reader Expr :=
  binaryUpTo nested tightest

/-- A choice between two expressions. -/
def ternary (nested : Reader Expr) : Reader Expr := do
  let condition ← binary nested
  if ← eat .question then
    let consequent ← nested
    expect .colon
    let alternate ← nested
    return .ternary ⟨condition.span.start, alternate.span.stop⟩ condition consequent alternate
  else
    return condition

/-- An assignment, which only a variable can have. -/
def assignment (nested : Reader Expr) : Reader Expr := do
  let target ← ternary nested
  match AssignOp.ofLexeme? (← peek) with
  | none => return target
  | some op =>
    let _ ← next
    let value ← nested
    match target with
    | .identifier span name => return .assignment ⟨span.start, value.span.stop⟩ op name value
    | .member .. => throw .memberAssignment
    | _ => throw .invalidTarget

/-- An expression in which fewer than `depth` others are nested. -/
def expression : (depth : Nat) → Reader Expr
  | 0 => throw .exhausted
  | depth + 1 => assignment (expression depth)

/-! ### Snippets -/

/-- An optional semicolon and the end of the snippet. -/
def finish : Reader Unit := do
  if ← eat .semicolon then
    if (← peek) ≠ .finish then
      throw .severalStatements
  match ← peek with
  | .finish => return ()
  | .symbol .arrow => throw .arrowFunction
  | lexeme => throw (.trailingToken lexeme.label)

/-- One expression and nothing else. -/
def soleExpression : Reader Expr := do
  if (← peek) = .finish then
    throw .expectedExpression
  let expr ← expression (← budget)
  finish
  return expr

/-- Words that declare something in a way that is not allowed. -/
def otherDeclarations : List String := ["const", "var", "function", "class"]

/-- A declaration behind its keyword. -/
def declaration : Reader Statement := do
  let lexeme ← peek
  match lexeme with
  | .identifier name =>
    let _ ← next
    if otherDeclarations.contains name then
      throw (.reservedName name)
    let init ← if ← eat .eq then some <$> expression (← budget) else pure none
    if (← peek) = .symbol .comma then
      throw .severalBindings
    return .declaration name init
  | _ => throw (.expectedIdentifier lexeme.label)

/-- A statement. -/
def statement : Reader Statement := do
  match ← peek with
  | .finish => throw .expectedStatement
  | .keyword .letWord =>
    let _ ← next
    declaration
  | .identifier name =>
    if otherDeclarations.contains name then
      throw (.otherDeclaration name)
    return .expression (← expression (← budget))
  | _ => return .expression (← expression (← budget))

/-- One statement and nothing else. -/
def soleStatement : Reader Statement := do
  let read ← statement
  finish
  return read

/-- What a reader finds in a list of tokens. -/
def Reader.onTokens {α : Type} (reader : Reader α) (tokens : List Token) : Except Fault α :=
  (reader.run ⟨tokens, 0⟩).map (·.1)

/-- What a reader finds in a snippet. -/
def Reader.onSnippet {α : Type} (reader : Reader α) (snippet : String) : Except Fault α :=
  match tokenize snippet with
  | .error error => .error (.lexical error.fault)
  | .ok tokens => reader.onTokens tokens

/-- The expression that a snippet holds. -/
def readExpression (snippet : String) : Except Fault Expr :=
  soleExpression.onSnippet snippet

/-- The statement that a snippet holds. -/
def readStatement (snippet : String) : Except Fault Statement :=
  soleStatement.onSnippet snippet

end ViewTemplate.Snippet
