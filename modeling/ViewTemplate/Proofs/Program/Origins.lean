import ViewTemplate.Program.Lowering
import ViewTemplate.Proofs.Document.Shape
import ViewTemplate.Proofs.Program.Nesting
import ViewTemplate.Proofs.Yields

/-!
# Where steps come from

Every step of a compiled program was made by a node, and carries what is written in that node:
its text, its name, its expressions (`Node.Makes`).  Only the bodies of the step come from other
nodes, those inside.

So what is known of all nodes in a list, however deep, is known of all steps that they are
compiled to (`lowerNodes_all`).  Statements about steps with some property can be made
about nodes in that way, without going through compilation again.

## Main Definitions

* `Step.All` — all steps of a list have a property, however deep they stand
* `Node.Makes` — a node is compiled to a step, perhaps among others
* `Place.Gives` — what a node at a place is compiled to has a property everywhere
-/

namespace ViewTemplate

variable {own : Step → Prop}

/-! ## Properties of all steps -/

/-- **All steps of a list have a property**, however deep they stand. -/
def Step.All (own : Step → Prop) (steps : List Step) : Prop :=
  ∀ step : Step, step.Occurs steps → own step

/-- All steps have a property in the lists that may be missing. -/
def Step.AllIn (own : Step → Prop) (steps : Option (List Step)) : Prop :=
  ∀ list ∈ steps, All own list

namespace Step.All

variable {step : Step} {steps rest : List Step}

theorem nil : All own [] := by
  intro step occurs
  cases occurs with
  | here mem => cases mem
  | inside mem _ _ => cases mem

/-- A step has the property, and so do the steps inside it. -/
theorem single (here : own step) (inside : ∀ body ∈ step.bodies, All own body) :
    All own [step] := by
  intro sought occurs
  cases occurs with
  | here mem =>
    rw [List.mem_singleton.mp mem]
    exact here
  | inside mem direct occurs =>
    cases List.mem_singleton.mp mem
    exact inside _ direct sought occurs

theorem append (first : All own steps) (second : All own rest) : All own (steps ++ rest) := by
  intro sought occurs
  cases occurs with
  | here mem =>
    rcases List.mem_append.mp mem with mem | mem
    · exact first sought (.here mem)
    · exact second sought (.here mem)
  | inside mem direct occurs =>
    rcases List.mem_append.mp mem with mem | mem
    · exact first sought (.inside mem direct occurs)
    · exact second sought (.inside mem direct occurs)

/-- A step with nothing inside. -/
theorem leaf (here : own step) (none : step.bodies = []) : All own [step] := by
  refine single here ?_
  rw [none]
  exact List.forall_mem_nil _

/-- A step with one body. -/
theorem around (here : own step) (bodies : step.bodies = [steps]) (inside : All own steps) :
    All own [step] := by
  refine single here ?_
  rw [bodies]
  exact List.forall_mem_singleton.mpr inside

/-- A step with a body, and another one that may be missing. -/
theorem either {other : Option (List Step)} (here : own step)
    (bodies : step.bodies = steps :: other.toList) (inside : All own steps)
    (behind : AllIn own other) : All own [step] := by
  refine single here ?_
  rw [bodies]
  exact List.forall_mem_cons.mpr ⟨inside, fun list mem => behind list (Option.mem_toList.mp mem)⟩

end Step.All

/-! ## Nodes and their steps -/

/-- **A node is compiled to a step**, perhaps among others.  Nothing is said of the bodies of
the step, which come from the nodes inside. -/
inductive Node.Makes : Node → Step → Prop where
  | text (position : Position) (text : String) : Makes (.text position text) (.text text)
  | whitespace (position : Position) (text : String) :
      Makes (.whitespace position text) (.text text)
  | comment (position : Position) (text : String) : Makes (.comment position text) (.comment text)
  | cdata (position : Position) (text : String) : Makes (.cdata position text) (.cdata text)
  | doctype (position : Position) : Makes (.doctype position) .doctype
  | openTag (position : Position) (tag : Tag) (children : List Node) :
      Makes (.element position tag children)
        (.openTag tag.name (tag.attributes.map Attribute.lower))
  | closeTag (position : Position) (tag : Tag) (children : List Node) :
      Makes (.element position tag children) (.closeTag tag.name)
  | scope (position : Position) (children : List Node) (body : List Step) :
      Makes (.scope position children) (.block body)
  | value (position : Position) (expression : Expression) :
      Makes (.print position expression none) (.renderValue expression)
  | printBlock (position : Position) (expression : Expression) (parameters : List String)
      (children : List Node) (body : List Step) :
      Makes (.print position expression (some (parameters, children)))
        (.printBlock expression parameters body)
  | conditional (position : Position) (condition : Expression) (children : List Node)
      (alternate : Option Node) (consequent : List Step) (other : Option (List Step)) :
      Makes (.conditional position condition children alternate)
        (.branch condition consequent other)
  | elseIf (position : Position) (condition : Expression) (children : List Node)
      (alternate : Option Node) (consequent : List Step) (other : Option (List Step)) :
      Makes (.elseIf position condition children alternate) (.branch condition consequent other)
  | switch {cases : List (Branch Node)} {bodies : List (Expression × List Step)}
      (position : Position) (expression : Expression) (fallback : Option (Position × List Node))
      (other : Option (List Step)) (same : bodies.map (·.1) = cases.map (·.condition)) :
      Makes (.switch position expression cases fallback) (.switch expression bodies other)
  | foreach (position : Position) (identifiers : List String) (collection : Expression)
      (children : List Node) (alternate : Option Node) (body : List Step)
      (empty : Option (List Step)) :
      Makes (.foreach position identifiers collection children alternate)
        (.foreach identifiers collection body empty)
  | loop (position : Position) (condition : Expression) (children : List Node)
      (body : List Step) : Makes (.loop position condition children) (.loop condition body)
  | render (position : Position) (path : String) (context : Option Expression) :
      Makes (.render position path context) (.renderPartial path context position)
  | renderContent (position : Position) (slot : Option String) :
      Makes (.renderContent position slot) (.renderContent slot)
  | saveTarget (position : Position) (slot : String) (children : List Node) :
      Makes (.contentFor position slot children) .saveTarget
  | captured (position : Position) (slot : String) (children : List Node) (body : List Step) :
      Makes (.contentFor position slot children) (.block body)
  | mergeTarget (position : Position) (slot : String) (children : List Node) :
      Makes (.contentFor position slot children) (.mergeTarget slot)
  | action (position : Position) (action : Action) :
      Makes (.action position action) (.execute action)
  | printAction (position : Position) (action : Action) :
      Makes (.printAction position action) (.renderAction action)

/-! ## Compiling -/

/-- **What a node at a place is compiled to** has a property everywhere, where the branches
that follow a node are compiled apart from the nodes between tags. -/
def Place.Gives (own : Step → Prop) : Place → Node → Prop
  | .head, node => Yields (lowerNode node) (Step.All own)
  | .body, node => Yields (lowerNode node) (Step.All own)
  | .branch, node => Yields (lowerNode.lowerAlternate (some node)) (Step.AllIn own)
  | .fallback, node => Yields (lowerNode.lowerEmpty (some node)) (Step.AllIn own)

theorem lowerNodes_gives {nodes : List Node} (each : ∀ node ∈ nodes, Place.body.Gives own node) :
    Yields (lowerNode.lowerNodes nodes) (Step.All own) := by
  induction nodes with
  | nil => exact .pure .nil
  | cons node rest ih =>
    obtain ⟨first, others⟩ := List.forall_mem_cons.mp each
    refine .bind first fun steps all => ?_
    exact .bind (ih others) fun more all' => .pure (all.append all')

theorem lowerAlternate_gives {alternate : Option Node}
    (next : ∀ node ∈ alternate, Place.branch.Gives own node) :
    Yields (lowerNode.lowerAlternate alternate) (Step.AllIn own) := by
  cases alternate with
  | none => exact .pure nofun
  | some node => exact next node rfl

theorem lowerEmpty_gives {alternate : Option Node}
    (next : ∀ node ∈ alternate, Place.fallback.Gives own node) :
    Yields (lowerNode.lowerEmpty alternate) (Step.AllIn own) := by
  cases alternate with
  | none => exact .pure nofun
  | some node => exact next node rfl

/-- The cases of a choice keep their values. -/
theorem lowerCases_gives {cases : List (Branch Node)}
    (each : ∀ case ∈ cases, ∀ node ∈ case.children, Place.body.Gives own node) :
    Yields (lowerNode.lowerCases cases) fun lowered =>
      lowered.map (·.1) = cases.map (·.condition) ∧
        ∀ case ∈ lowered, Step.All own case.2 := by
  induction cases with
  | nil => exact .pure ⟨rfl, nofun⟩
  | cons case rest ih =>
    obtain ⟨first, others⟩ := List.forall_mem_cons.mp each
    refine .bind (lowerNodes_gives first) fun body all => ?_
    refine .bind (ih others) fun more kept => .pure ⟨?_, ?_⟩
    · rw [List.map_cons, List.map_cons, kept.1]
    · exact List.forall_mem_cons.mpr ⟨all, kept.2⟩

theorem lowerFallback_gives {fallback : Option (Position × List Node)}
    (each : ∀ node ∈ fallback.elim [] (·.2), Place.body.Gives own node) :
    Yields (lowerNode.lowerFallback fallback) (Step.AllIn own) := by
  cases fallback with
  | none => exact .pure nofun
  | some found =>
    refine .bind (lowerNodes_gives each) fun body all => .pure ?_
    rintro _ ⟨⟩
    exact all

section Nodes

variable {node : Node} (made : ∀ step, node.Makes step → own step)
  (children : ∀ child ∈ node.children, Place.body.Gives own child)
  (alternate : ∀ next ∈ node.alternate?, node.alternatePlace.Gives own next)

include made children alternate

/-- A node among others gives its own steps, and those of what stands in it. -/
theorem lowerNode_gives : Place.body.Gives own node := by
  cases node with
  | elseIf | otherwise | layout => exact .throw _
  | text | whitespace | comment | cdata | doctype | action | printAction | render |
    renderContent => exact .pure (.leaf (made _ (by constructor)) rfl)
  | commentSpan => exact .pure .nil
  | element position tag nodes =>
    have opened : Step.All own [.openTag tag.name (tag.attributes.map Attribute.lower)] :=
      .leaf (made _ (.openTag ..)) rfl
    have closed : Step.All own [.closeTag tag.name] := .leaf (made _ (.closeTag ..)) rfl
    show Yields (lowerNode _) _
    rw [lowerNode]
    split
    · exact .pure opened
    · refine .bind (lowerNodes_gives children) fun steps all => .pure ?_
      exact (opened.append all).append closed
  | scope | loop =>
    refine .bind (lowerNodes_gives children) fun steps all => .pure ?_
    exact .around (made _ (by constructor)) rfl all
  | print position expression block =>
    cases block with
    | none => exact .pure (.leaf (made _ (.value ..)) rfl)
    | some block =>
      refine .bind (lowerNodes_gives children) fun steps all => .pure ?_
      exact .around (made _ (.printBlock ..)) rfl all
  | conditional =>
    refine .bind (lowerAlternate_gives alternate) fun other all' => ?_
    refine .bind (lowerNodes_gives children) fun steps all => .pure ?_
    exact .either (made _ (.conditional ..)) rfl all all'
  | foreach =>
    refine .bind (lowerEmpty_gives alternate) fun other all' => ?_
    refine .bind (lowerNodes_gives children) fun steps all => .pure ?_
    exact .either (made _ (.foreach ..)) rfl all all'
  | switch position expression cases fallback =>
    obtain ⟨inCases, inFallback⟩ := List.forall_mem_append.mp children
    have each : ∀ case ∈ cases, ∀ node ∈ case.children, Place.body.Gives own node :=
      fun case mem node inside => inCases node (List.mem_flatMap.mpr ⟨case, mem, inside⟩)
    refine .bind (lowerCases_gives each) fun bodies kept => ?_
    obtain ⟨same, all⟩ := kept
    refine .bind (lowerFallback_gives inFallback) fun other all' => .pure ?_
    apply Step.All.single (made _ (.switch position expression fallback other same))
    refine List.forall_mem_append.mpr ⟨?_, fun body mem => all' body (Option.mem_toList.mp mem)⟩
    intro body mem
    obtain ⟨case, inside, rfl⟩ := List.mem_map.mp mem
    exact all case inside
  | contentFor position slot nodes =>
    refine .bind (lowerNodes_gives children) fun steps all => .pure ?_
    have saved : Step.All own [.saveTarget] := .leaf (made _ (.saveTarget ..)) rfl
    have captured : Step.All own [.block steps] := .around (made _ (.captured ..)) rfl all
    have merged : Step.All own [.mergeTarget slot] := .leaf (made _ (.mergeTarget ..)) rfl
    exact (saved.append captured).append merged

/-- So does a branch of a conditional block. -/
theorem lowerBranch_gives : Place.branch.Gives own node := by
  cases node with
  | elseIf =>
    refine .bind (lowerAlternate_gives alternate) fun other all' => ?_
    refine .bind (lowerNodes_gives children) fun steps all => .pure ?_
    rintro _ ⟨⟩
    exact .either (made _ (.elseIf ..)) rfl all all'
  | otherwise =>
    refine .bind (lowerNodes_gives children) fun steps all => .pure ?_
    rintro _ ⟨⟩
    exact all
  | _ => exact .throw _

omit made alternate in
/-- So does what follows a loop over a collection. -/
theorem lowerFallbackBranch_gives : Place.fallback.Gives own node := by
  cases node with
  | otherwise =>
    refine .bind (lowerNodes_gives children) fun steps all => .pure ?_
    rintro _ ⟨⟩
    exact all
  | _ => exact .throw _

end Nodes

/-- **Every node** gives steps with a property, wherever it stands, if all nodes in it make
steps of that kind. -/
theorem Node.gives (node : Node)
    (made : ∀ inner : Node, inner.Occurs [node] → ∀ step, inner.Makes step → own step)
    (place : Place) : place.Gives own node := by
  induction node using Node.induction generalizing place with
  | inside node children alternate =>
    have here : ∀ step, node.Makes step → own step :=
      made node (occurs_singleton.mpr (.inl rfl))
    have inside : ∀ child ∈ node.children, Place.body.Gives own child := by
      intro child mem
      refine children child mem (fun inner occurs => made inner ?_) .body
      exact occurs_singleton.mpr (.inr (.inl (occurs.of_mem mem)))
    have behind : ∀ next ∈ node.alternate?, node.alternatePlace.Gives own next := by
      intro next mem
      refine alternate next mem (fun inner occurs => made inner ?_) node.alternatePlace
      exact occurs_singleton.mpr (.inr (.inr (occurs.of_mem (Option.mem_toList.mpr mem))))
    cases place with
    | head | body => exact lowerNode_gives here inside behind
    | branch => exact lowerBranch_gives here inside behind
    | fallback => exact lowerFallbackBranch_gives inside

/-- **All steps come from nodes.**  If all nodes of a list make steps with a property only,
however deep they stand, then all steps that the list is compiled to have the property. -/
theorem lowerNodes_all {nodes : List Node}
    (made : ∀ node : Node, node.Occurs nodes → ∀ step, node.Makes step → own step) :
    Yields (lowerNode.lowerNodes nodes) (Step.All own) :=
  lowerNodes_gives fun node mem =>
    node.gives (fun inner occurs => made inner (occurs.of_mem mem)) .body

end ViewTemplate
