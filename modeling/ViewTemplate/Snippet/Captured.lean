import ViewTemplate.Snippet.Evaluation
import ViewTemplate.Snippet.Grammar
import ViewTemplate.Text.Blank

/-!
# Captured snippets

Expressions and statements as they are carried through a template: read once, with their text and
the place in the template where it starts.

## Main Definitions

* `Captured` — a snippet that was read
* `Expression`, `Action` — captured expressions and statements
* `captureExpression`, `captureAction` — reading a snippet found at some place
-/

namespace ViewTemplate

open Snippet

/-- A snippet that was read, with its text and the place where the text starts. -/
structure Captured (α : Type) where
  /-- The text of the snippet. -/
  source : String
  /-- Where the text starts in the template. -/
  position : Position
  /-- What the text spells. -/
  body : α
deriving Repr, BEq

/-- A captured expression. -/
abbrev Expression := Captured Expr

/-- A captured statement. -/
abbrev Action := Captured Statement

/-- The text of a captured snippet without the blanks around it. -/
def Captured.trimmed {α : Type} (captured : Captured α) : String :=
  Text.trim captured.source

/-- Pairs a text with what it spells, or its fault with its place. -/
def capture {α : Type} (read : String → Except Fault α) (source : String) (position : Position) :
    Except SnippetError (Captured α) :=
  match read source with
  | .ok body => .ok ⟨source, position, body⟩
  | .error fault => .error ⟨fault, position⟩

/-- The expression of a text found at some place. -/
def captureExpression : String → Position → Except SnippetError Expression :=
  capture readExpression

/-- The statement of a text found at some place. -/
def captureAction : String → Position → Except SnippetError Action :=
  capture readStatement

end ViewTemplate
