import ViewTemplate.Program.Lowering
import ViewTemplate.Render.Execution

/-!
# Documents interpreted

What the nodes of a document do in a render, said without programs.

A document could be rendered without compiling it: each node does something to the state
of the render, with the same operations that steps use.  `renderNode` says what.  It is
where the meaning of the language can be read off: which bodies have variables of their
own, which branch of a choice is taken, and what is captured where.  It follows the nodes,
and so it has no choices inside branches, no blocks between steps that switch targets, and
no steps at all but for one place: the table of print blocks holds bodies in their compiled
form, so that is what a print block puts there.

Views and print blocks that are called are compiled too.  A `Provenance` knows the
documents of some of them, and `interpretWithin` renders a list of steps whose document is
known by interpreting that document.  With a provenance that knows nothing only the
document itself is interpreted; with one that is complete, everything is.

## Main Definitions

* `renderNode`, `renderDocument` — what nodes and documents do, given how calls are made
* `Provenance` — which documents lists of steps come from
* `Provenance.Complete` — the document of every program is known
* `interpretWithin` — interpretation in place of execution, level by level
* `Environment.interpret` — interpretation of a document in a render
-/

namespace ViewTemplate

section

variable (environment : Environment) (calls : Calls)

/-- What an attribute adds to those before it. -/
def renderAttribute (attributes : AttributeSet) (written : Attribute) : Render AttributeSet :=
  match written.form with
  | .plain none => return attributes.setBoolean written.name
  | .plain (some (quote, parts)) => do
    let text ← attributeText environment calls parts
    return attributes.setValue written.name quote text
  | .bound quote expression => do
    let value ← evaluateExpression environment calls expression
    return attributes.setValue written.name quote value.text
  | .conditional _ condition => do
    let value ← evaluateExpression environment calls condition
    return if value.isTruthy then attributes.setBoolean written.name else attributes
  | .append quote suffix condition => do
    let value ← evaluateExpression environment calls condition
    return if value.isTruthy then attributes.appendValue written.name quote suffix else attributes

/-- What a node does that was written in the document of the compilation `origin`.  Branches
and layouts that stand where they must not do nothing; no such document is compiled. -/
def renderNode (origin : Nat) : Node → Render Unit
  | .text _ text | .whitespace _ text => modify (·.write text)
  | .comment _ text => modify (·.writeComment text)
  | .cdata _ text => modify (·.writeCData text)
  | .doctype _ => modify (·.writeDoctype)
  | .element _ tag children => do
    let attributes ← tag.attributes.foldlM (renderAttribute environment calls) []
    modify (·.writeOpenTag tag.name attributes)
    if tag.isVoid || tag.isSelfClosing then
      return ()
    else
      renderNodes origin children
      modify (·.writeCloseTag tag.name)
  | .scope _ children => Render.inFrame [] (renderNodes origin children)
  | .print _ expression none => do
    let value ← evaluateExpression environment calls expression
    modify (·.writeValue value)
  | .print _ expression (some (parameters, children)) => do
    let body := (lowerNode.lowerNodes children).toOption.getD []
    let index ← modifyGet (·.bindBlock ⟨origin, expression.position, parameters, body⟩)
    let frame := [(blockName, .function (.block index))]
    let value ← Render.inFrame frame (evaluateExpression environment calls expression)
    modify (·.writeValue value)
  | .conditional _ condition children alternate => do
    if (← evaluateExpression environment calls condition).isTruthy then
      Render.inFrame [] (renderNodes origin children)
    else
      renderAlternate origin alternate
  | .switch _ expression cases fallback => do
    let value ← evaluateExpression environment calls expression
    renderCases origin value (renderFallback origin fallback) cases
  | .foreach _ identifiers collection children alternate => do
    let value ← evaluateExpression environment calls collection
    let items ← MonadExcept.ofExcept (collectionAt collection.position value)
    if items.isEmpty then
      renderAlternate origin alternate
    else
      let run := renderNodes origin children
      Render.forEach (fun values => Render.inFrame (itemFrame identifiers values) run) items
  | .loop _ condition children =>
    Render.repeatWhile condition.position
      (return (← evaluateExpression environment calls condition).isTruthy)
      (Render.inFrame [] (renderNodes origin children))
      environment.turns
  | .render position path none => calls.view path none position
  | .render position path (some context) => do
    let overrides ← evaluateExpression environment calls context
    calls.view path (some overrides) position
  | .renderContent _ slot => modify (·.writeContent slot)
  | .contentFor _ slot children => do
    modify (·.saveTarget)
    Render.inFrame [] (renderNodes origin children)
    modify (·.mergeTarget slot)
  | .action _ action => do
    let _ ← runAction environment calls action
  | .printAction _ action => do
    let value ← runAction environment calls action
    modify (·.writeValue value)
  | .commentSpan _ _ | .elseIf .. | .otherwise .. | .layout .. => return ()
where
  /-- What nodes do, in order. -/
  renderNodes (origin : Nat) : List Node → Render Unit
    | [] => return ()
    | node :: rest => do
      renderNode origin node
      renderNodes origin rest
  /-- What follows a block that was not taken: of a chain of branches the first whose condition
  holds, or the last if it has none. -/
  renderAlternate (origin : Nat) : Option Node → Render Unit
    | some (.elseIf _ condition children alternate) => do
      if (← evaluateExpression environment calls condition).isTruthy then
        Render.inFrame [] (renderNodes origin children)
      else
        renderAlternate origin alternate
    | some (.otherwise _ children) => Render.inFrame [] (renderNodes origin children)
    | _ => return ()
  /-- What the first case does whose value equals `value`, or else the fallback. -/
  renderCases (origin : Nat) (value : Value) (fallback : Render Unit) :
      List (Branch Node) → Render Unit
    | [] => fallback
    | ⟨_, expression, children⟩ :: rest => do
      if (← evaluateExpression environment calls expression).strictEquals value then
        Render.inFrame [] (renderNodes origin children)
      else
        renderCases origin value fallback rest
  /-- What the default case of a choice by value does. -/
  renderFallback (origin : Nat) : Option (Position × List Node) → Render Unit
    | none => return ()
    | some (_, children) => Render.inFrame [] (renderNodes origin children)

/-- What a document does: it registers the layout that its first node declares, unless it is
rendered inside another one, and does what its nodes do. -/
def renderDocument (origin : Nat) (document : Document) : Render Unit :=
  match document.nodes with
  | .layout _ path :: rest => do
    modify fun state => if state.partialDepth = 0 then state.setLayout path else state
    renderNode.renderNodes environment calls origin rest
  | nodes => renderNode.renderNodes environment calls origin nodes

end

/-! ## Everything that is called -/

/-- **Which documents lists of steps come from**, where that is known. -/
structure Provenance where
  /-- The document that a list of steps comes from. -/
  document? : List Step → Option Document
  /-- Compiling that document gives these steps. -/
  sound : ∀ {steps document}, document? steps = some document → document.compile = .ok ⟨steps⟩

/-- The document of every program is known. -/
def Provenance.Complete (provenance : Provenance) : Prop :=
  ∀ (document : Document) (program : Program), document.compile = .ok program →
    (provenance.document? program.steps).isSome

/-- There is always a document to tell of a program that has one. -/
theorem Provenance.exists_complete : ∃ provenance : Provenance, provenance.Complete := by
  classical
  let document? (steps : List Step) : Option Document :=
    if h : ∃ document : Document, document.compile = .ok ⟨steps⟩ then some h.choose else none
  refine ⟨⟨document?, fun {steps document} found => ?_⟩, fun document program compiled => ?_⟩
  · dsimp only [document?] at found
    split at found
    · rename_i exists'
      cases found
      exact exists'.choose_spec
    · cases found
  · dsimp only [document?]
    rw [dif_pos ⟨document, compiled⟩]
    rfl

/-- Renders steps whose calls are `levels` deep at most, by interpreting the document that they
come from where it is known, and likewise all that they call. -/
def interpretWithin (environment : Environment) (provenance : Provenance) :
    (levels : Nat) → Executor
  | 0 => fun _ _ => return ()
  | levels + 1 => fun origin steps =>
    let calls := callsBy environment (interpretWithin environment provenance levels)
    match provenance.document? steps with
    | some document => renderDocument environment calls origin document
    | none => executeSteps environment calls origin steps

/-- Interprets a document in a render. -/
def Environment.interpret (environment : Environment) (provenance : Provenance) (origin : Nat)
    (document : Document) : Render Unit :=
  renderDocument environment
    (callsBy environment (interpretWithin environment provenance maxDepth)) origin document

end ViewTemplate
