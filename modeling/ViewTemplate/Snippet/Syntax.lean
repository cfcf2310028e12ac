import ViewTemplate.Snippet.Token

/-!
# Syntax of snippets

The trees of expressions and statements.

## Main Definitions

* `Expr` — expressions, each with the characters it was read from
* `Statement` — an expression, or the declaration of a variable
* `Expr.span` — the characters of an expression
* `Expr.same`, `Statement.same` — equality of trees, spans included

## Design Notes

A member read by name and one read by a computed key have the same form: the name stands as a string
in the place of the key, and a flag says which of the two was written. Grouping brackets leave no
trace in the tree. Trees are compared with the bits of their numbers, so that every tree equals
itself and no other one.
-/

namespace ViewTemplate.Snippet

/-- Operators between two operands. -/
inductive BinaryOp where
  | add | sub | mul | div | mod
  | eq | neq | strictEq | strictNeq
  | lt | gt | lte | gte
  | and | or | nullishCoalescing
deriving Repr, DecidableEq

/-- Operators in front of an operand. -/
inductive UnaryOp where
  | not | neg | plus | typeof
deriving Repr, DecidableEq

/-- Updates of a variable, written behind its name. -/
inductive UpdateOp where
  | increment | decrement
deriving Repr, DecidableEq

/-- Assignments to a variable. -/
inductive AssignOp where
  | assign | addAssign | subAssign | mulAssign | divAssign
deriving Repr, DecidableEq

/-- The operator that a compound assignment applies before it assigns. -/
def AssignOp.binaryOp? : AssignOp → Option BinaryOp
  | assign => none
  | addAssign => some .add
  | subAssign => some .sub
  | mulAssign => some .mul
  | divAssign => some .div

/-- A property of an object literal whose values are of type `α`. -/
structure Property (α : Type) where
  /-- The name of the property. -/
  key : String
  /-- Whether only the name was written, for a variable of that name. -/
  shorthand : Bool
  /-- The value of the property. -/
  value : α
deriving Repr

/-- Expressions. -/
inductive Expr where
  | number (span : Span) (value : Float)
  | string (span : Span) (text : String)
  | boolean (span : Span) (value : Bool)
  | null (span : Span)
  | undefined (span : Span)
  | identifier (span : Span) (name : String)
  /-- The render context. -/
  | this (span : Span)
  | binary (span : Span) (op : BinaryOp) (left right : Expr)
  | unary (span : Span) (op : UnaryOp) (operand : Expr)
  | update (span : Span) (op : UpdateOp) (name : String)
  /-- A member of an object; `computed` tells a key in brackets from a name, and `optional` whether
  the object may be missing. -/
  | member (span : Span) (object key : Expr) (computed optional : Bool)
  | call (span : Span) (callee : Expr) (arguments : List Expr)
  | ternary (span : Span) (condition consequent alternate : Expr)
  | object (span : Span) (properties : List (Property Expr))
  | array (span : Span) (items : List Expr)
  | assignment (span : Span) (op : AssignOp) (name : String) (value : Expr)
deriving Repr

/-- Statements. -/
inductive Statement where
  | expression (expr : Expr)
  /-- The declaration of a variable, with its first value if one is given. -/
  | declaration (name : String) (init : Option Expr)
deriving Repr

namespace Expr

/-- The characters that an expression was read from. -/
def span : Expr → Span
  | number span _ => span
  | string span _ => span
  | boolean span _ => span
  | null span => span
  | undefined span => span
  | identifier span _ => span
  | this span => span
  | binary span _ _ _ => span
  | unary span _ _ => span
  | update span _ _ => span
  | member span _ _ _ _ => span
  | call span _ _ => span
  | ternary span _ _ _ => span
  | object span _ => span
  | array span _ => span
  | assignment span _ _ _ => span

/-- Whether two expressions are the same tree over the same characters. -/
def same : Expr → Expr → Bool
  | number s a, number t b => s == t && a.toBits == b.toBits
  | string s a, string t b => s == t && a == b
  | boolean s a, boolean t b => s == t && a == b
  | null s, null t => s == t
  | undefined s, undefined t => s == t
  | identifier s a, identifier t b => s == t && a == b
  | this s, this t => s == t
  | binary s op left right, binary t op' left' right' =>
    s == t && op == op' && same left left' && same right right'
  | unary s op operand, unary t op' operand' => s == t && op == op' && same operand operand'
  | update s op name, update t op' name' => s == t && op == op' && name == name'
  | member s target key computed optional, member t target' key' computed' optional' =>
    s == t && same target target' && same key key' && computed == computed'
      && optional == optional'
  | call s callee arguments, call t callee' arguments' =>
    s == t && same callee callee' && sameItems arguments arguments'
  | ternary s condition consequent alternate, ternary t condition' consequent' alternate' =>
    s == t && same condition condition' && same consequent consequent'
      && same alternate alternate'
  | object s properties, object t properties' => s == t && sameProperties properties properties'
  | array s items, array t items' => s == t && sameItems items items'
  | assignment s op name value, assignment t op' name' value' =>
    s == t && op == op' && name == name' && same value value'
  | _, _ => false
where
  /-- Whether two lists hold the same expressions. -/
  sameItems : List Expr → List Expr → Bool
    | [], [] => true
    | a :: as, b :: bs => same a b && sameItems as bs
    | _, _ => false
  /-- Whether two lists hold the same properties. -/
  sameProperties : List (Property Expr) → List (Property Expr) → Bool
    | [], [] => true
    | ⟨key, shorthand, value⟩ :: as, b :: bs =>
      key == b.key && shorthand == b.shorthand && same value b.value && sameProperties as bs
    | _, _ => false

instance : BEq Expr := ⟨same⟩

end Expr

/-- Whether two statements are the same tree over the same characters. -/
def Statement.same : Statement → Statement → Bool
  | expression a, expression b => a == b
  | declaration name init, declaration name' init' => name == name' && init == init'
  | _, _ => false

instance : BEq Statement := ⟨Statement.same⟩

/-- Whether a statement declares a variable. -/
def Statement.isDeclaration : Statement → Bool
  | expression _ => false
  | declaration _ _ => true

end ViewTemplate.Snippet
