import ViewTemplate.Snippet.Captured

/-!
# Documents

The tree of a template: literal markup, elements with their attributes, blocks, and embedded
snippets, each with the place where it starts.

## Main Definitions

* `Attribute`, `AttributePart` — what is written in an opening tag
* `Tag` — an opening tag
* `Branch` — a condition with the nodes that stand under it
* `Node` — a node of the tree
* `Document` — the nodes of a whole template
* `Document.layout?` — the layout that a template declares

## Design Notes

The type of nodes is wider than the grammar: branches and layouts can stand anywhere. What may stand
where is the business of compilation, which has an error for each misplaced node.
-/

namespace ViewTemplate

/-- A part of an attribute's value. -/
inductive AttributePart where
  | literal (text : String)
  | expression (expression : Expression)
deriving BEq

/-- What an attribute says. -/
inductive AttributeForm where
  /-- An attribute with a value in quotes, or with none. -/
  | plain (value : Option (Char × List AttributePart))
  /-- An attribute whose value is that of an expression. -/
  | bound (quote : Char) (expression : Expression)
  /-- An attribute without a value that is there if the condition holds. -/
  | conditional (quote : Char) (condition : Expression)
  /-- A text that is added to the attribute's value if the condition holds. -/
  | append (quote : Char) (suffix : String) (condition : Expression)

/-- An attribute of an opening tag. -/
structure Attribute where
  /-- Where it starts. -/
  position : Position
  /-- Its name. -/
  name : String
  /-- What it says. -/
  form : AttributeForm

/-- An opening tag. -/
structure Tag where
  /-- The name of the element, in lower case. -/
  name : String
  /-- Whether the element never has content. -/
  isVoid : Bool
  /-- Whether the tag closes itself. -/
  isSelfClosing : Bool
  /-- Its attributes, in order. -/
  attributes : List Attribute

/-- Nodes of type `α` under a condition. -/
structure Branch (α : Type) where
  /-- Where the branch starts. -/
  position : Position
  /-- The condition, or what a value is compared with. -/
  condition : Expression
  /-- The nodes. -/
  children : List α

/-- A node of a document. -/
inductive Node where
  | text (position : Position) (text : String)
  | whitespace (position : Position) (text : String)
  | comment (position : Position) (text : String)
  | cdata (position : Position) (text : String)
  | doctype (position : Position)
  | element (position : Position) (tag : Tag) (children : List Node)
  /-- A block with variables of its own. -/
  | scope (position : Position) (children : List Node)
  /-- A printed expression, perhaps with a block that it can call: parameters and body. -/
  | print (position : Position) (expression : Expression)
    (block : Option (List String × List Node))
  | conditional (position : Position) (condition : Expression) (children : List Node)
    (alternate : Option Node)
  | elseIf (position : Position) (condition : Expression) (children : List Node)
    (alternate : Option Node)
  | otherwise (position : Position) (children : List Node)
  /-- A choice by value: the cases, and where the default case starts with its nodes. -/
  | switch (position : Position) (expression : Expression) (cases : List (Branch Node))
    (fallback : Option (Position × List Node))
  | foreach (position : Position) (identifiers : List String) (collection : Expression)
    (children : List Node) (alternate : Option Node)
  | loop (position : Position) (condition : Expression) (children : List Node)
  /-- Another view, with an expression for fields of its context. -/
  | render (position : Position) (path : String) (context : Option Expression)
  /-- Captured content, of a slot or of the whole view. -/
  | renderContent (position : Position) (slot : Option String)
  | contentFor (position : Position) (slot : String) (children : List Node)
  /-- A statement that is run. -/
  | action (position : Position) (action : Action)
  /-- A statement that is run and whose value is printed. -/
  | printAction (position : Position) (action : Action)
  | commentSpan (position : Position) (text : String)
  | layout (position : Position) (path : String)

/-- Where a node starts. -/
def Node.position : Node → Position
  | text position _ => position
  | whitespace position _ => position
  | comment position _ => position
  | cdata position _ => position
  | doctype position => position
  | element position _ _ => position
  | scope position _ => position
  | print position _ _ => position
  | conditional position _ _ _ => position
  | elseIf position _ _ _ => position
  | otherwise position _ => position
  | switch position _ _ _ => position
  | foreach position _ _ _ _ => position
  | loop position _ _ => position
  | render position _ _ => position
  | renderContent position _ => position
  | contentFor position _ _ => position
  | action position _ => position
  | printAction position _ => position
  | commentSpan position _ => position
  | layout position _ => position

/-- A template. -/
structure Document where
  /-- The nodes, in order. -/
  nodes : List Node

/-- The layout that a template declares: only its first node can. -/
def Document.layout? (document : Document) : Option String :=
  match document.nodes with
  | .layout _ path :: _ => some path
  | _ => none

end ViewTemplate
