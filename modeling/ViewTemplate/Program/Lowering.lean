import ViewTemplate.Program.Basic

/-!
# Compiling documents

The program of a document. Each node becomes the steps that render it; nothing is evaluated.

## Main Definitions

* `CompileFault`, `CompileError` — which nodes stand where they must not
* `lowerNode` — the steps of a node
* `Document.compile` — the program of a document

## Design Notes

An else-if branch becomes a choice inside the other branch, and captured content becomes a block
between two steps that switch targets. Of several misplaced nodes the first one that is come across
is reported; the branch that follows a block is looked at before the block itself.
-/

namespace ViewTemplate

/-- Why a node cannot stand where it does. -/
inductive CompileFault where
  | strayBranch
  | conditionalAlternate
  | foreachAlternate
  | misplacedLayout
deriving Repr, DecidableEq

/-- The wording of a fault. -/
def CompileFault.detail : CompileFault → String
  | strayBranch => "Found an else branch that does not follow an if block"
  | conditionalAlternate => "An if block can only be followed by else-if or else"
  | foreachAlternate => "A foreach block can only be followed by an else block"
  | misplacedLayout => "A layout can only be declared as the first node of a view"

/-- A misplaced node. -/
structure CompileError where
  /-- Why it cannot stand there. -/
  fault : CompileFault
  /-- Where it stands. -/
  position : Position
deriving Repr, DecidableEq

/-- The full wording of an error. -/
def CompileError.message (error : CompileError) : String :=
  "Compile error at " ++ error.position.describe ++ ": " ++ error.fault.detail

/-- The step of an attribute. -/
def Attribute.lower (written : Attribute) : AttributeStep :=
  match written.form with
  | .plain value => .plain written.name value
  | .bound quote expression => .bound written.name quote expression
  | .conditional _ condition => .conditional written.name condition
  | .append quote suffix condition => .append written.name quote suffix condition

/-- The steps of a node. -/
def lowerNode : Node → Except CompileError (List Step)
  | .text _ text => .ok [.text text]
  | .whitespace _ text => .ok [.text text]
  | .comment _ text => .ok [.comment text]
  | .cdata _ text => .ok [.cdata text]
  | .doctype _ => .ok [.doctype]
  | .element _ tag children => do
    let opening := Step.openTag tag.name (tag.attributes.map Attribute.lower)
    if tag.isVoid || tag.isSelfClosing then
      return [opening]
    else
      return opening :: (← lowerNodes children) ++ [.closeTag tag.name]
  | .scope _ children => return [.block (← lowerNodes children)]
  | .print _ expression none => return [.renderValue expression]
  | .print _ expression (some (parameters, children)) =>
    return [.printBlock expression parameters (← lowerNodes children)]
  | .conditional _ condition children alternate => do
    let alternate ← lowerAlternate alternate
    return [.branch condition (← lowerNodes children) alternate]
  | .elseIf position _ _ _ => throw ⟨.strayBranch, position⟩
  | .otherwise position _ => throw ⟨.strayBranch, position⟩
  | .switch _ expression cases fallback => do
    let cases ← lowerCases cases
    return [.switch expression cases (← lowerFallback fallback)]
  | .foreach _ identifiers collection children alternate => do
    let empty ← lowerEmpty alternate
    return [.foreach identifiers collection (← lowerNodes children) empty]
  | .loop _ condition children => return [.loop condition (← lowerNodes children)]
  | .render position path context => return [.renderPartial path context position]
  | .renderContent _ slot => return [.renderContent slot]
  | .contentFor _ slot children => do
    return [.saveTarget, .block (← lowerNodes children), .mergeTarget slot]
  | .action _ action => return [.execute action]
  | .printAction _ action => return [.renderAction action]
  | .commentSpan _ _ => return []
  | .layout position _ => throw ⟨.misplacedLayout, position⟩
where
  /-- The steps of nodes, in order. -/
  lowerNodes : List Node → Except CompileError (List Step)
    | [] => return []
    | node :: rest => do
      let steps ← lowerNode node
      return steps ++ (← lowerNodes rest)
  /-- The steps of the branch that follows a conditional block. -/
  lowerAlternate : Option Node → Except CompileError (Option (List Step))
    | none => return none
    | some (.elseIf _ condition children alternate) => do
      let alternate ← lowerAlternate alternate
      return some [.branch condition (← lowerNodes children) alternate]
    | some (.otherwise _ children) => return some (← lowerNodes children)
    | some node => throw ⟨.conditionalAlternate, node.position⟩
  /-- The steps of the branch that follows a loop over a collection. -/
  lowerEmpty : Option Node → Except CompileError (Option (List Step))
    | none => return none
    | some (.otherwise _ children) => return some (← lowerNodes children)
    | some node => throw ⟨.foreachAlternate, node.position⟩
  /-- The cases of a choice by value. -/
  lowerCases : List (Branch Node) → Except CompileError (List (Expression × List Step))
    | [] => return []
    | ⟨_, expression, children⟩ :: rest => do
      let body ← lowerNodes children
      return (expression, body) :: (← lowerCases rest)
  /-- The default case of a choice by value. -/
  lowerFallback : Option (Position × List Node) → Except CompileError (Option (List Step))
    | none => return none
    | some (_, children) => return some (← lowerNodes children)

/-- The program of a document. Its first node, and no other, may declare a layout. -/
def Document.compile (document : Document) : Except CompileError Program :=
  match document.nodes with
  | .layout _ path :: rest => return ⟨.setLayout path :: (← lowerNode.lowerNodes rest)⟩
  | nodes => return ⟨← lowerNode.lowerNodes nodes⟩

end ViewTemplate
