import ViewTemplate.Document.Grammar
import Mathlib.Data.List.Nodup

/-!
# The shape of documents

Which nodes stand where in a document that was read from a source, and what is
true of each of them.

The type of nodes lets branches and layouts stand anywhere.  A document that was
read has them in four places only (`Place`): a node declares the layout, or it
stands among others, or it follows a conditional block, or it follows a loop over
a collection.  That every
node stands where it may, at any depth, is one inductive predicate
(`Node.Formed`), so that a production of the grammar has to show it of the node
that it builds and nothing else.

## Main Definitions

* `Node.children`, `Node.alternate?` — the nodes that stand directly in a node
* `Node.Occurs` — a node stands somewhere in a list of nodes
* `Place`, `Place.Admits` — where a node can stand
* `Node.Sound` — what is true of loops, print blocks and elements
* `Node.Formed`, `Document.Formed` — everything stands where it may and is sound

-/

namespace ViewTemplate

/-! ## Nodes inside nodes -/

/-- The nodes that stand between the tags of a node. -/
def Node.children : Node → List Node
  | .element _ _ children => children
  | .scope _ children => children
  | .print _ _ block => block.elim [] (·.2)
  | .conditional _ _ children _ => children
  | .elseIf _ _ children _ => children
  | .otherwise _ children => children
  | .switch _ _ cases fallback => cases.flatMap (·.children) ++ fallback.elim [] (·.2)
  | .foreach _ _ _ children _ => children
  | .loop _ _ children => children
  | .contentFor _ _ children => children
  | _ => []

/-- The branch that follows a node. -/
def Node.alternate? : Node → Option Node
  | .conditional _ _ _ alternate => alternate
  | .elseIf _ _ _ alternate => alternate
  | .foreach _ _ _ _ alternate => alternate
  | _ => none

/-- What stands between the tags of a node is smaller than the node. -/
theorem Node.sizeOf_lt_of_mem_children {node child : Node} (mem : child ∈ node.children) :
    sizeOf child < sizeOf node := by
  cases node with
  | element | scope | conditional | elseIf | otherwise | foreach | loop | contentFor =>
    have inside := List.sizeOf_lt_of_mem mem
    simp only [children] at inside
    simp
    omega
  | print position expression block =>
    cases block with
    | none => cases mem
    | some block =>
      obtain ⟨parameters, nodes⟩ := block
      have inside := List.sizeOf_lt_of_mem mem
      simp only [children, Option.elim_some] at inside
      simp
      omega
  | switch position expression cases fallback =>
    rcases List.mem_append.1 mem with mem | mem
    · obtain ⟨case, among, mem⟩ := List.mem_flatMap.1 mem
      have caseSize := List.sizeOf_lt_of_mem among
      have inside := List.sizeOf_lt_of_mem mem
      obtain ⟨position, condition, nodes⟩ := case
      simp at caseSize inside ⊢
      omega
    · cases fallback with
      | none => cases mem
      | some found =>
        obtain ⟨position, nodes⟩ := found
        have inside := List.sizeOf_lt_of_mem mem
        simp only [Option.elim_some] at inside
        simp
        omega
  | _ => cases mem

/-- The branch that follows a node is smaller than the node. -/
theorem Node.sizeOf_lt_of_mem_alternate {node next : Node} (mem : next ∈ node.alternate?) :
    sizeOf next < sizeOf node := by
  cases node with
  | conditional | elseIf | foreach =>
    cases Option.mem_def.1 mem
    simp
    omega
  | _ => cases mem

/-- **Induction over nodes**: what holds of a node whenever it holds of all the nodes
directly inside, and of the branch that follows it, holds of every node. -/
theorem Node.induction {motive : Node → Prop}
    (inside : ∀ node : Node, (∀ child ∈ node.children, motive child) →
      (∀ next ∈ node.alternate?, motive next) → motive node)
    (node : Node) : motive node :=
  inside node (fun child _ => Node.induction inside child)
    fun next _ => Node.induction inside next
termination_by sizeOf node
decreasing_by
  · exact sizeOf_lt_of_mem_children ‹_›
  · exact sizeOf_lt_of_mem_alternate ‹_›

/-- A node stands in a list of nodes: as one of them, between the tags of one, or
as a branch that follows one. -/
inductive Node.Occurs (sought : Node) : List Node → Prop where
  | here {nodes : List Node} (mem : sought ∈ nodes) : Occurs sought nodes
  | child {nodes : List Node} {node : Node} (mem : node ∈ nodes)
      (occurs : Occurs sought node.children) : Occurs sought nodes
  | alternate {nodes : List Node} {node : Node} (mem : node ∈ nodes)
      (occurs : Occurs sought node.alternate?.toList) : Occurs sought nodes

@[simp] theorem Node.not_occurs_nil {sought : Node} : ¬ sought.Occurs [] := by
  rintro (mem | ⟨mem, -⟩ | ⟨mem, -⟩) <;> exact absurd mem List.not_mem_nil

theorem Node.occurs_cons {sought node : Node} {rest : List Node} :
    sought.Occurs (node :: rest) ↔
      sought = node ∨ sought.Occurs node.children ∨ sought.Occurs node.alternate?.toList ∨
        sought.Occurs rest := by
  constructor
  · rintro (mem | ⟨mem, inside⟩ | ⟨mem, inside⟩)
    · exact (List.mem_cons.1 mem).imp_right fun mem => .inr (.inr (.here mem))
    · obtain rfl | mem := List.mem_cons.1 mem
      · exact .inr (.inl inside)
      · exact .inr (.inr (.inr (.child mem inside)))
    · obtain rfl | mem := List.mem_cons.1 mem
      · exact .inr (.inr (.inl inside))
      · exact .inr (.inr (.inr (.alternate mem inside)))
  · rintro (rfl | inside | inside | mem | ⟨mem, inside⟩ | ⟨mem, inside⟩)
    · exact .here List.mem_cons_self
    · exact .child List.mem_cons_self inside
    · exact .alternate List.mem_cons_self inside
    · exact .here (List.mem_cons_of_mem _ mem)
    · exact .child (List.mem_cons_of_mem _ mem) inside
    · exact .alternate (List.mem_cons_of_mem _ mem) inside

theorem Node.occurs_singleton {sought node : Node} :
    sought.Occurs [node] ↔
      sought = node ∨ sought.Occurs node.children ∨ sought.Occurs node.alternate?.toList := by
  rw [occurs_cons]
  simp only [not_occurs_nil, or_false]

/-- What occurs in one of several nodes occurs among them. -/
theorem Node.Occurs.of_mem {sought node : Node} {nodes : List Node}
    (occurs : sought.Occurs [node]) (among : node ∈ nodes) : sought.Occurs nodes := by
  obtain rfl | inside | inside := Node.occurs_singleton.1 occurs
  · exact .here among
  · exact .child among inside
  · exact .alternate among inside

/-- **What nodes hand on** to those that stand directly in them holds of every node in
them, however deep. -/
theorem Node.Occurs.inherits {property : Node → Prop}
    (children : ∀ node, property node → ∀ child ∈ node.children, property child)
    (alternate : ∀ node, property node → ∀ next ∈ node.alternate?, property next)
    {sought : Node} {nodes : List Node} (occurs : sought.Occurs nodes)
    (all : ∀ node ∈ nodes, property node) : property sought := by
  induction occurs with
  | here mem => exact all _ mem
  | child mem _ ih => exact ih (children _ (all _ mem))
  | alternate mem _ ih =>
    exact ih fun next inside => alternate _ (all _ mem) next (Option.mem_toList.1 inside)

/-! ## Places -/

/-- Where a node stands. -/
inductive Place where
  /-- At the head of a document. -/
  | head
  /-- Among other nodes. -/
  | body
  /-- Behind a conditional block or one of its branches. -/
  | branch
  /-- Behind a loop over a collection. -/
  | fallback

/-- The nodes that can stand at a place. -/
def Place.Admits : Place → Node → Prop
  | .head, .layout .. => True
  | .head, _ => False
  | .body, .elseIf .. | .body, .otherwise .. | .body, .layout .. => False
  | .body, _ => True
  | .branch, .elseIf .. | .branch, .otherwise .. => True
  | .branch, _ => False
  | .fallback, .otherwise .. => True
  | .fallback, _ => False

/-- The place of the branch that follows a node. -/
def Node.alternatePlace : Node → Place
  | .foreach .. => .fallback
  | _ => .branch

/-! ## Sound nodes -/

/-- What is true of a node that was read: a loop has one or two names, and they
differ; the parameters of a print block differ; an element without content has no
nodes in it, and the content of a script or a style is one text. -/
def Node.Sound : Node → Prop
  | .foreach _ identifiers _ _ _ =>
    (identifiers.length = 1 ∨ identifiers.length = 2) ∧ identifiers.Nodup
  | .print _ _ (some (parameters, _)) => parameters.Nodup
  | .element _ tag children =>
    tag.isVoid = Template.isVoidElement tag.name
      ∧ (tag.isVoid = true ∨ tag.isSelfClosing = true → children = [])
      ∧ (tag.isSelfClosing = false → tag.name = "script" ∨ tag.name = "style" →
        ∃ position text, children = [.text position text])
  | _ => True

/-- A node that can stand at a place, is sound, and has only such nodes in it,
however deep. -/
inductive Node.Formed : Place → Node → Prop where
  | intro {place : Place} {node : Node} (admitted : place.Admits node) (sound : node.Sound)
      (children : ∀ child ∈ node.children, Formed .body child)
      (alternate : ∀ next ∈ node.alternate?, Formed node.alternatePlace next) :
      Formed place node

/-- The nodes of a body. -/
def Node.FormedAll (nodes : List Node) : Prop :=
  ∀ node ∈ nodes, node.Formed .body

namespace Node

theorem FormedAll.nil : FormedAll [] :=
  fun _ mem => absurd mem List.not_mem_nil

theorem FormedAll.cons {node : Node} {nodes : List Node} (first : node.Formed .body)
    (rest : FormedAll nodes) : FormedAll (node :: nodes) :=
  List.forall_mem_cons.2 ⟨first, rest⟩

/-- A node with others between its tags and no branch behind it. -/
theorem Formed.of_children {place : Place} {node : Node} (admitted : place.Admits node)
    (sound : node.Sound) (children : FormedAll node.children) (last : node.alternate? = none) :
    node.Formed place := by
  refine .intro admitted sound children ?_
  rw [last]
  intro next mem
  cases mem

/-- A node with no others in it. -/
theorem Formed.of_leaf {place : Place} {node : Node} (admitted : place.Admits node)
    (sound : node.Sound) (leaf : node.children = []) (last : node.alternate? = none) :
    node.Formed place := by
  refine .of_children admitted sound ?_ last
  rw [leaf]
  exact .nil

/-- **Every node** that stands somewhere in formed nodes is sound. -/
theorem Occurs.sound {sought : Node} {nodes : List Node} (occurs : Occurs sought nodes)
    (formed : ∀ node ∈ nodes, ∃ place, node.Formed place) : sought.Sound := by
  have found : ∃ place, sought.Formed place := by
    refine occurs.inherits ?_ ?_ formed
    · rintro node ⟨place, admitted, sound, children, alternate⟩ child inside
      exact ⟨.body, children child inside⟩
    · rintro node ⟨place, admitted, sound, children, alternate⟩ next inside
      exact ⟨_, alternate next inside⟩
  obtain ⟨place, admitted, sound, children, alternate⟩ := found
  exact sound

end Node

/-- A document whose nodes are formed, perhaps behind the declaration of a layout. -/
inductive Document.Formed : Document → Prop where
  | plain {nodes : List Node} (formed : Node.FormedAll nodes) : Formed ⟨nodes⟩
  | layout {position : Position} {path : String} {nodes : List Node}
      (formed : Node.FormedAll nodes) : Formed ⟨.layout position path :: nodes⟩

/-- **Every node** of a formed document is sound. -/
theorem Document.Formed.sound {document : Document} (formed : document.Formed) {node : Node}
    (occurs : node.Occurs document.nodes) : node.Sound := by
  cases formed with
  | plain formed => exact occurs.sound fun inner mem => ⟨.body, formed inner mem⟩
  | layout formed =>
    refine occurs.sound fun inner mem => ?_
    rcases List.mem_cons.1 mem with rfl | mem
    · exact ⟨.head, .of_leaf trivial trivial rfl rfl⟩
    · exact ⟨.body, formed inner mem⟩

end ViewTemplate
