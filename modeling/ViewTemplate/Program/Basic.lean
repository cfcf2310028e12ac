import ViewTemplate.Document.Basic

/-!
# Programs

The executable form of a view: a tree of steps, with every snippet carried through as it was read.

## Main Definitions

* `AttributeStep` — how one attribute of an element comes about
* `Step` — what is done when a view is rendered
* `Step.same` — equality of steps
* `Program` — the steps of a view
* `Program.layout?` — the layout that a view registers
-/

namespace ViewTemplate

/-- How one attribute of an element comes about when it is rendered. -/
inductive AttributeStep where
  /-- A value in quotes, or none. -/
  | plain (name : String) (value : Option (Char × List AttributePart))
  | bound (name : String) (quote : Char) (expression : Expression)
  | conditional (name : String) (condition : Expression)
  | append (name : String) (quote : Char) (suffix : String) (condition : Expression)
deriving BEq

/-- What is done when a view is rendered. -/
inductive Step where
  /-- Writes a literal text. -/
  | text (text : String)
  | comment (text : String)
  | cdata (text : String)
  | doctype
  | openTag (name : String) (attributes : List AttributeStep)
  | closeTag (name : String)
  /-- Steps with variables of their own. -/
  | block (body : List Step)
  | branch (condition : Expression) (consequent : List Step) (alternate : Option (List Step))
  /-- The first case with an equal value, else the fallback. -/
  | switch (expression : Expression) (cases : List (Expression × List Step))
    (fallback : Option (List Step))
  /-- The body for each item, or `empty` if there is none. -/
  | foreach (identifiers : List String) (collection : Expression) (body : List Step)
    (empty : Option (List Step))
  | loop (condition : Expression) (body : List Step)
  | renderPartial (path : String) (context : Option Expression) (position : Position)
  | renderContent (slot : Option String)
  /-- Starts a new target for output. -/
  | saveTarget
  /-- Ends the newest target and puts what was written to it into a slot of the one before. -/
  | mergeTarget (slot : String)
  | renderValue (expression : Expression)
  | renderAction (action : Action)
  /-- Prints an expression that can call the body. -/
  | printBlock (expression : Expression) (parameters : List String) (body : List Step)
  | execute (action : Action)
  | setLayout (path : String)

namespace Step

/-- Whether two steps are the same. -/
def same : Step → Step → Bool
  | text a, text b => a == b
  | comment a, comment b => a == b
  | cdata a, cdata b => a == b
  | doctype, doctype => true
  | openTag name attributes, openTag name' attributes' => name == name' && attributes == attributes'
  | closeTag name, closeTag name' => name == name'
  | block body, block body' => sameList body body'
  | branch condition consequent alternate, branch condition' consequent' alternate' =>
    condition == condition' && sameList consequent consequent' && sameOption alternate alternate'
  | switch expression cases fallback, switch expression' cases' fallback' =>
    expression == expression' && sameCases cases cases' && sameOption fallback fallback'
  | foreach identifiers collection body empty, foreach identifiers' collection' body' empty' =>
    identifiers == identifiers' && collection == collection' && sameList body body'
      && sameOption empty empty'
  | loop condition body, loop condition' body' => condition == condition' && sameList body body'
  | renderPartial path context position, renderPartial path' context' position' =>
    path == path' && context == context' && position == position'
  | renderContent slot, renderContent slot' => slot == slot'
  | saveTarget, saveTarget => true
  | mergeTarget slot, mergeTarget slot' => slot == slot'
  | renderValue expression, renderValue expression' => expression == expression'
  | renderAction action, renderAction action' => action == action'
  | printBlock expression parameters body, printBlock expression' parameters' body' =>
    expression == expression' && parameters == parameters' && sameList body body'
  | execute action, execute action' => action == action'
  | setLayout path, setLayout path' => path == path'
  | _, _ => false
where
  /-- Whether two lists hold the same steps. -/
  sameList : List Step → List Step → Bool
    | [], [] => true
    | a :: as, b :: bs => same a b && sameList as bs
    | _, _ => false
  /-- Whether two lists of steps are the same or both missing. -/
  sameOption : Option (List Step) → Option (List Step) → Bool
    | none, none => true
    | some as, some bs => sameList as bs
    | _, _ => false
  /-- Whether two lists hold the same cases. -/
  sameCases : List (Expression × List Step) → List (Expression × List Step) → Bool
    | [], [] => true
    | (expression, body) :: as, b :: bs =>
      expression == b.1 && sameList body b.2 && sameCases as bs
    | _, _ => false

instance : BEq Step := ⟨same⟩

end Step

/-- A compiled view. -/
structure Program where
  /-- The steps, in order. -/
  steps : List Step
deriving BEq

/-- The layout that a view registers in a full render: only its first step can. -/
def Program.layout? (program : Program) : Option String :=
  match program.steps with
  | .setLayout path :: _ => some path
  | _ => none

end ViewTemplate
