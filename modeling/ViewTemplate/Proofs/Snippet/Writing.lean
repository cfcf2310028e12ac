import ViewTemplate.Snippet.Grammar

/-!
# Writings of expressions

Which lexemes write an expression, said without a reader.

An expression can be written in many ways: brackets for grouping may stand around
any part of it, a list may end with a comma, and a key of an object may be a word
or a text.  What cannot be chosen is where grouping is needed.  Each kind of
expression has a level, from assignments, which bind loosest, to names and
literals; each place where an expression may stand asks for a level; and an
expression that is looser than its place asks for has to be grouped.

`Writes place expr lexemes` is the relation in which both are kept: the lexemes
write the expression where `place` is asked for.  Spans are no part of it, so a
tree stands for all trees that differ in spans only (`Expr.unspanned`).

## Main Definitions

* `Level` — how tightly the kinds of expressions bind
* `Listed` — items with commas between them
* `Writes` — lexemes write an expression at a place
* `WritesSnippet` — lexemes write an expression that stands alone
* `Expr.unspanned` — an expression without its spans
* `Matches` — expressions that differ in spans only
-/

namespace ViewTemplate.Snippet

/-! ## Levels -/

namespace Level

/-- Assignments bind loosest, so a place for them is a place for any expression. -/
abbrev assignment : Nat := 0

/-- Choices between two expressions. -/
abbrev ternary : Nat := 1

/-- Operations of a given tightness, the loosest of which is one. -/
abbrev binary (tightness : Nat) : Nat := tightness + 1

/-- Operators in front of an operand. -/
abbrev unary : Nat := 9

/-- Updates of a variable. -/
abbrev update : Nat := 10

/-- Members and calls. -/
abbrev chain : Nat := 11

/-- Names, literals, and everything in brackets. -/
abbrev primary : Nat := 12

end Level

/-- A lexeme spells an operator of a tightness if it is a symbol that does. -/
theorem BinaryOp.ofLexeme?_eq_some_iff {tightness : Nat} {lexeme : Lexeme} {op : BinaryOp} :
    ofLexeme? tightness lexeme = some op ↔
      ∃ symbol, lexeme = .symbol symbol ∧ ofSymbol? symbol = some (op, tightness) := by
  constructor
  · intro spells
    cases lexeme with
    | symbol symbol =>
      refine ⟨symbol, rfl, ?_⟩
      simp only [ofLexeme?] at spells
      split at spells
      · rename_i found
        split at spells
        · rename_i same
          cases spells
          rw [found, same]
        · cases spells
      · cases spells
    | _ => cases spells
  · rintro ⟨symbol, rfl, spells⟩
    simp [ofLexeme?, spells]

/-! ## Writings -/

/-- The name that a lexeme spells behind a point: a word of any kind but the truth
values. -/
def nameOf? : Lexeme → Option String
  | .identifier name => some name
  | .keyword word => some word.word
  | _ => none

/-- The symbol before the name of a member. -/
def memberMark : (optional : Bool) → Symbol
  | false => .dot
  | true => .optionalChain

/-- The lexemes before a computed key. -/
def keyMark : (optional : Bool) → List Lexeme
  | false => [.symbol .lBracket]
  | true => [.symbol .optionalChain, .symbol .lBracket]

/-- **Items with commas between them**, where a comma may also stand behind the last. -/
inductive Listed {α : Type} (writes : α → List Lexeme → Prop) : List α → List Lexeme → Prop where
  | nil : Listed writes [] []
  | last {item : α} {lexemes : List Lexeme} (only : writes item lexemes) :
      Listed writes [item] lexemes
  | cons {item : α} {items : List α} {lexemes rest : List Lexeme} (first : writes item lexemes)
      (others : Listed writes items rest) :
      Listed writes (item :: items) (lexemes ++ .symbol .comma :: rest)

/-- A property of an object is a key and a value, or the name of a variable. -/
inductive WritesProperty (writes : Expr → List Lexeme → Prop) :
    Property Expr → List Lexeme → Prop where
  | pair {lexeme : Lexeme} {key : String} {value : Expr} {lexemes : List Lexeme}
      (named : keyOf? lexeme = some key) (given : writes value lexemes) :
      WritesProperty writes ⟨key, false, value⟩ (lexeme :: .symbol .colon :: lexemes)
  | shorthand {span : Span} {name : String} :
      WritesProperty writes ⟨name, true, .identifier span name⟩ [.identifier name]

/-- **Lexemes write an expression** where an expression of level `place` or a tighter one
is asked for. -/
inductive Writes : (place : Nat) → Expr → List Lexeme → Prop where
  | number {place : Nat} {span : Span} {value : Float} :
      Writes place (.number span value) [.number value]
  | string {place : Nat} {span : Span} {text : String} :
      Writes place (.string span text) [.string text]
  | boolean {place : Nat} {span : Span} {value : Bool} :
      Writes place (.boolean span value) [.boolean value]
  | null {place : Nat} {span : Span} : Writes place (.null span) [.keyword .null]
  | undefined {place : Nat} {span : Span} : Writes place (.undefined span) [.keyword .undefined]
  | this {place : Nat} {span : Span} : Writes place (.this span) [.keyword .this]
  | identifier {place : Nat} {span : Span} {name : String} :
      Writes place (.identifier span name) [.identifier name]
  /-- Grouping: inside the brackets any expression may stand. -/
  | grouped {place : Nat} {expr : Expr} {lexemes : List Lexeme}
      (inner : Writes Level.assignment expr lexemes) :
      Writes place expr (.symbol .lParen :: (lexemes ++ [.symbol .rParen]))
  | array {place : Nat} {span : Span} {items : List Expr} {lexemes : List Lexeme}
      (listed : Listed (Writes Level.assignment) items lexemes) :
      Writes place (.array span items)
        (.symbol .lBracket :: (lexemes ++ [.symbol .rBracket]))
  | object {place : Nat} {span : Span} {properties : List (Property Expr)}
      {lexemes : List Lexeme}
      (listed : Listed (WritesProperty (Writes Level.assignment)) properties lexemes) :
      Writes place (.object span properties)
        (.symbol .lBrace :: (lexemes ++ [.symbol .rBrace]))
  | member {place : Nat} {span keySpan : Span} {object : Expr} {optional : Bool} {name : String}
      {target : List Lexeme} {lexeme : Lexeme} (admits : place ≤ Level.chain)
      (receiver : Writes Level.chain object target) (named : nameOf? lexeme = some name) :
      Writes place (.member span object (.string keySpan name) false optional)
        (target ++ [.symbol (memberMark optional), lexeme])
  | computed {place : Nat} {span : Span} {object key : Expr} {optional : Bool}
      {target lexemes : List Lexeme} (admits : place ≤ Level.chain)
      (receiver : Writes Level.chain object target)
      (inner : Writes Level.assignment key lexemes) :
      Writes place (.member span object key true optional)
        (target ++ (keyMark optional ++ (lexemes ++ [.symbol .rBracket])))
  | call {place : Nat} {span : Span} {callee : Expr} {arguments : List Expr}
      {target lexemes : List Lexeme} (admits : place ≤ Level.chain)
      (receiver : Writes Level.chain callee target)
      (listed : Listed (Writes Level.assignment) arguments lexemes) :
      Writes place (.call span callee arguments)
        (target ++ .symbol .lParen :: (lexemes ++ [.symbol .rParen]))
  /-- Only a variable is updated, perhaps in brackets. -/
  | update {place : Nat} {span nameSpan : Span} {op : UpdateOp} {name : String}
      {target : List Lexeme} {lexeme : Lexeme} (admits : place ≤ Level.update)
      (changed : Writes Level.primary (.identifier nameSpan name) target)
      (spells : UpdateOp.ofLexeme? lexeme = some op) :
      Writes place (.update span op name) (target ++ [lexeme])
  | unary {place : Nat} {span : Span} {op : UnaryOp} {operand : Expr} {lexeme : Lexeme}
      {lexemes : List Lexeme} (admits : place ≤ Level.unary)
      (spells : UnaryOp.ofLexeme? lexeme = some op)
      (inner : Writes Level.unary operand lexemes) :
      Writes place (.unary span op operand) (lexeme :: lexemes)
  /-- Operations of one tightness group to the left: only the left operand may be one of
  them without brackets. -/
  | binary {place : Nat} {span : Span} {op : BinaryOp} {tightness : Nat} {left right : Expr}
      {symbol : Symbol} {first second : List Lexeme} (admits : place ≤ Level.binary tightness)
      (spells : BinaryOp.ofSymbol? symbol = some (op, tightness))
      (before : Writes (Level.binary tightness) left first)
      (behind : Writes (Level.binary tightness + 1) right second) :
      Writes place (.binary span op left right) (first ++ .symbol symbol :: second)
  | ternary {place : Nat} {span : Span} {condition consequent alternate : Expr}
      {first second third : List Lexeme} (admits : place ≤ Level.ternary)
      (test : Writes (Level.binary 1) condition first)
      (chosen : Writes Level.assignment consequent second)
      (other : Writes Level.assignment alternate third) :
      Writes place (.ternary span condition consequent alternate)
        (first ++ .symbol .question :: (second ++ .symbol .colon :: third))
  /-- Only a variable is assigned to, perhaps in brackets. -/
  | assignment {span nameSpan : Span} {op : AssignOp} {name : String} {value : Expr}
      {target lexemes : List Lexeme} {lexeme : Lexeme}
      (changed : Writes Level.primary (.identifier nameSpan name) target)
      (spells : AssignOp.ofLexeme? lexeme = some op)
      (given : Writes Level.assignment value lexemes) :
      Writes Level.assignment (.assignment span op name value) (target ++ lexeme :: lexemes)

/-- **Lexemes write an expression that stands alone**: a semicolon may follow it. -/
inductive WritesSnippet (expr : Expr) : List Lexeme → Prop where
  | plain {lexemes : List Lexeme} (written : Writes Level.assignment expr lexemes) :
      WritesSnippet expr lexemes
  | semicolon {lexemes : List Lexeme} (written : Writes Level.assignment expr lexemes) :
      WritesSnippet expr (lexemes ++ [.symbol .semicolon])

/-- Nothing is written without a lexeme. -/
theorem Writes.ne_nil {place : Nat} {expr : Expr} {lexemes : List Lexeme}
    (written : Writes place expr lexemes) : lexemes ≠ [] := by
  cases written <;> simp

/-- An expression that is tight enough for a place is so for any that asks for less. -/
theorem Writes.loosen {place looser : Nat} {expr : Expr} {lexemes : List Lexeme}
    (written : Writes place expr lexemes) (le : looser ≤ place) : Writes looser expr lexemes := by
  cases written with
  | number => exact .number
  | string => exact .string
  | boolean => exact .boolean
  | null => exact .null
  | undefined => exact .undefined
  | this => exact .this
  | identifier => exact .identifier
  | grouped inner => exact .grouped inner
  | array listed => exact .array listed
  | object listed => exact .object listed
  | member admits receiver named => exact .member (Nat.le_trans le admits) receiver named
  | computed admits receiver inner => exact .computed (Nat.le_trans le admits) receiver inner
  | call admits receiver listed => exact .call (Nat.le_trans le admits) receiver listed
  | update admits changed spells => exact .update (Nat.le_trans le admits) changed spells
  | unary admits spells inner => exact .unary (Nat.le_trans le admits) spells inner
  | binary admits spells before behind =>
    exact .binary (Nat.le_trans le admits) spells before behind
  | ternary admits test chosen other => exact .ternary (Nat.le_trans le admits) test chosen other
  | assignment changed spells given =>
    rw [Nat.le_zero.mp le]
    exact .assignment changed spells given

/-- A name is tight enough for any place. -/
theorem Writes.name {place tighter : Nat} {span : Span} {name : String} {lexemes : List Lexeme}
    (written : Writes place (.identifier span name) lexemes) :
    Writes tighter (.identifier span name) lexemes := by
  cases written with
  | identifier => exact .identifier
  | grouped inner => exact .grouped inner

/-! ## Expressions without spans -/

namespace Expr

/-- An expression without its spans. -/
@[simp] def unspanned : Expr → Expr
  | number _ value => number default value
  | string _ text => string default text
  | boolean _ value => boolean default value
  | null _ => null default
  | undefined _ => undefined default
  | identifier _ name => identifier default name
  | this _ => this default
  | binary _ op left right => binary default op left.unspanned right.unspanned
  | unary _ op operand => unary default op operand.unspanned
  | update _ op name => update default op name
  | member _ target key computed optional =>
    member default target.unspanned key.unspanned computed optional
  | call _ callee arguments => call default callee.unspanned (unspannedItems arguments)
  | ternary _ condition consequent alternate =>
    ternary default condition.unspanned consequent.unspanned alternate.unspanned
  | object _ properties => object default (unspannedProperties properties)
  | array _ items => array default (unspannedItems items)
  | assignment _ op name value => assignment default op name value.unspanned
where
  /-- Expressions without their spans. -/
  unspannedItems : List Expr → List Expr
    | [] => []
    | item :: items => item.unspanned :: unspannedItems items
  /-- Properties without the spans of their values. -/
  unspannedProperties : List (Property Expr) → List (Property Expr)
    | [] => []
    | ⟨key, shorthand, value⟩ :: properties =>
      ⟨key, shorthand, value.unspanned⟩ :: unspannedProperties properties

@[simp] theorem unspannedItems_eq_map (items : List Expr) :
    unspanned.unspannedItems items = items.map unspanned := by
  induction items with
  | nil => rfl
  | cons item items ih => rw [unspanned.unspannedItems, ih, List.map_cons]

end Expr

/-- A property without the spans of its value. -/
def Property.unspanned (property : Property Expr) : Property Expr :=
  ⟨property.key, property.shorthand, property.value.unspanned⟩

@[simp] theorem Expr.unspannedProperties_eq_map (properties : List (Property Expr)) :
    unspanned.unspannedProperties properties = properties.map Property.unspanned := by
  induction properties with
  | nil => rfl
  | cons property properties ih =>
    obtain ⟨key, shorthand, value⟩ := property
    rw [unspanned.unspannedProperties, ih, List.map_cons]
    rfl

/-! ## Expressions that differ in spans only -/

/-- The same expression, but for spans. -/
def Matches (expr other : Expr) : Prop := other.unspanned = expr.unspanned

namespace Matches

variable {span span' : Span} {a a' b b' c c' : Expr}

/-- A name matches only itself. -/
theorem eq_identifier {name : String} {other : Expr} (h : Matches (.identifier span name) other) :
    ∃ span', other = .identifier span' name := by
  cases other with
  | identifier span' name' =>
    have same : name' = name := by simpa [Matches, Expr.unspanned] using h
    exact ⟨span', by rw [same]⟩
  | _ => simp [Matches, Expr.unspanned] at h

theorem array {items others : List Expr}
    (same : others.map Expr.unspanned = items.map Expr.unspanned) :
    Matches (.array span items) (.array span' others) := by
  simp [Matches, Expr.unspanned, same]

theorem object {properties others : List (Property Expr)}
    (same : others.map Property.unspanned = properties.map Property.unspanned) :
    Matches (.object span properties) (.object span' others) := by
  simp [Matches, Expr.unspanned, same]

theorem member {computed optional : Bool} (target : Matches a a') (key : Matches b b') :
    Matches (.member span a b computed optional) (.member span' a' b' computed optional) := by
  rw [Matches] at target key
  simp [Matches, Expr.unspanned, target, key]

theorem call {items others : List Expr} (callee : Matches a a')
    (same : others.map Expr.unspanned = items.map Expr.unspanned) :
    Matches (.call span a items) (.call span' a' others) := by
  rw [Matches] at callee
  simp [Matches, Expr.unspanned, callee, same]

theorem unary {op : UnaryOp} (operand : Matches a a') :
    Matches (.unary span op a) (.unary span' op a') := by
  rw [Matches] at operand
  simp [Matches, Expr.unspanned, operand]

theorem binary {op : BinaryOp} (left : Matches a a') (right : Matches b b') :
    Matches (.binary span op a b) (.binary span' op a' b') := by
  rw [Matches] at left right
  simp [Matches, Expr.unspanned, left, right]

theorem ternary (condition : Matches a a') (consequent : Matches b b')
    (alternate : Matches c c') : Matches (.ternary span a b c) (.ternary span' a' b' c') := by
  rw [Matches] at condition consequent alternate
  simp [Matches, Expr.unspanned, condition, consequent, alternate]

theorem assignment {op : AssignOp} {name : String} (value : Matches a a') :
    Matches (.assignment span op name a) (.assignment span' op name a') := by
  rw [Matches] at value
  simp [Matches, Expr.unspanned, value]

end Matches

end ViewTemplate.Snippet
