import ViewTemplate.Program.Lowering
import ViewTemplate.Proofs.Document.Shape

/-!
# Documents that compile

Which documents have a program, for documents that were put together in any way and
not only for those that were read.

The type of nodes lets everything stand everywhere, and compilation rejects four kinds
of misplaced nodes, one for each of its faults.  `CompileFault.Breaks` says what each
fault objects to, as a condition on a node and the place where it stands; nothing else is
asked of a document.  A document compiles exactly if no fault applies to any node that
stands in it, and an error is about a node to which its fault applies
(`Document.compiles_iff_fits`).

An element that never has content, or whose tag closes itself, is compiled without the
nodes in it, so nothing is asked of those.

The proof has one judgement for both directions (`Judges`).  A computation judges nodes
with their places if its success means that all of them fit, however deep, and its
failure that one of them does not; sequences judge what their parts judge.

## Main Definitions

* `Node.standing`, `Document.standing` — what stands directly in a node or a document, and where
* `Node.StandsAt` — a node stands at a place, at any depth
* `CompileFault.Breaks`, `Node.FitsAt` — what a fault objects to, and nodes without a fault
* `Judges` — a computation succeeds exactly on nodes that fit
* `Place.Judged` — what compilation finds out about a node at a place

-/

namespace ViewTemplate

/-! ## Nodes and their places -/

/-- The nodes between the tags of a node that are compiled with it. -/
def Node.compiledChildren : Node → List Node
  | .element _ tag children => if tag.isVoid || tag.isSelfClosing then [] else children
  | node => node.children

/-- What stands directly in a node, in the order in which it is compiled: the branch
that follows the node, and the nodes between its tags. -/
def Node.standing (node : Node) : List (Place × Node) :=
  node.alternate?.toList.map (node.alternatePlace, ·) ++ node.compiledChildren.map (.body, ·)

/-- What stands directly in a document: one node at its head, and others behind it. -/
def Document.standing (document : Document) : List (Place × Node) :=
  match document.nodes with
  | [] => []
  | first :: rest => (.head, first) :: rest.map (.body, ·)

/-- A node stands at a place among others that stand at theirs: it is one of them, or it
stands in one. -/
inductive Node.StandsAt (sought : Node) (place : Place) : List (Place × Node) → Prop where
  | here {standing : List (Place × Node)} (mem : (place, sought) ∈ standing) :
      StandsAt sought place standing
  | inside {standing : List (Place × Node)} {outer : Place} {node : Node}
      (mem : (outer, node) ∈ standing) (within : StandsAt sought place node.standing) :
      StandsAt sought place standing

namespace Node.StandsAt

variable {sought node : Node} {place outer : Place} {standing more : List (Place × Node)}

theorem not_nil : ¬ sought.StandsAt place [] := by
  rintro (mem | ⟨mem, -⟩) <;> exact absurd mem List.not_mem_nil

theorem mono (stands : sought.StandsAt place standing)
    (wider : ∀ item ∈ standing, item ∈ more) : sought.StandsAt place more := by
  cases stands with
  | here mem => exact .here (wider _ mem)
  | inside mem within => exact .inside (wider _ mem) within

theorem append_iff : sought.StandsAt place (standing ++ more) ↔
    sought.StandsAt place standing ∨ sought.StandsAt place more := by
  constructor
  · rintro (mem | ⟨mem, within⟩)
    · exact (List.mem_append.1 mem).imp .here .here
    · exact (List.mem_append.1 mem).imp (.inside · within) (.inside · within)
  · rintro (stands | stands)
    · exact stands.mono fun _ mem => List.mem_append_left _ mem
    · exact stands.mono fun _ mem => List.mem_append_right _ mem

/-- What stands among nodes is the first of them, or stands in it, or among the rest. -/
theorem cons_iff : sought.StandsAt place ((outer, node) :: standing) ↔
    (place = outer ∧ sought = node) ∨ sought.StandsAt place (node.standing ++ standing) := by
  rw [append_iff]
  constructor
  · rintro (mem | ⟨mem, within⟩)
    · rcases List.mem_cons.1 mem with same | mem
      · exact .inl (Prod.mk.inj same)
      · exact .inr (.inr (.here mem))
    · rcases List.mem_cons.1 mem with same | mem
      · cases same
        exact .inr (.inl within)
      · exact .inr (.inr (.inside mem within))
  · rintro (⟨rfl, rfl⟩ | within | stands)
    · exact .here List.mem_cons_self
    · exact .inside List.mem_cons_self within
    · exact stands.mono fun _ mem => List.mem_cons_of_mem _ mem

end Node.StandsAt

/-! ## Faults -/

/-- A node that declares a layout. -/
def Node.IsLayout : Node → Prop
  | .layout .. => True
  | _ => False

/-- A branch for all other cases. -/
def Node.IsOtherwise : Node → Prop
  | .otherwise .. => True
  | _ => False

/-- A branch of a conditional block. -/
def Node.IsBranch : Node → Prop
  | .elseIf .. | .otherwise .. => True
  | _ => False

/-- **What a fault objects to.**  A layout can only be declared at the head of a
document; branches stand behind other nodes only; what follows a conditional block is one
of its branches, and what follows a loop over a collection is the branch for all other
cases. -/
def CompileFault.Breaks : CompileFault → Place → Node → Prop
  | .misplacedLayout, place, node => node.IsLayout ∧ place ≠ .head
  | .strayBranch, place, node => node.IsBranch ∧ place ≠ .branch ∧ place ≠ .fallback
  | .conditionalAlternate, place, node => place = .branch ∧ ¬node.IsBranch
  | .foreachAlternate, place, node => place = .fallback ∧ ¬node.IsOtherwise

/-- No fault applies to a node at a place. -/
def Node.FitsAt (place : Place) (node : Node) : Prop :=
  ∀ fault : CompileFault, ¬fault.Breaks place node

/-- Whatever is no declaration of a layout can stand at the head of a document exactly
if it can stand behind the head. -/
theorem CompileFault.breaks_head_iff {fault : CompileFault} {node : Node}
    (other : ¬node.IsLayout) : fault.Breaks .head node ↔ fault.Breaks .body node := by
  cases fault <;> simp [Breaks, other]

namespace Node

variable {place : Place} {node : Node}

/-- Nodes of the common kinds can stand among others. -/
theorem fitsAt_body (layout : ¬node.IsLayout) (branch : ¬node.IsBranch) :
    node.FitsAt .body := by
  intro fault
  cases fault <;> simp [CompileFault.Breaks, layout, branch]

theorem fitsAt_branch (layout : ¬node.IsLayout) (branch : node.IsBranch) :
    node.FitsAt .branch := by
  intro fault
  cases fault <;> simp [CompileFault.Breaks, layout, branch]

theorem fitsAt_fallback (layout : ¬node.IsLayout) (otherwise : node.IsOtherwise) :
    node.FitsAt .fallback := by
  intro fault
  cases fault <;> simp [CompileFault.Breaks, layout, otherwise]

theorem fitsAt_head (branch : ¬node.IsBranch) : node.FitsAt .head := by
  intro fault
  cases fault <;> simp [CompileFault.Breaks, branch]

end Node

/-! ## Judging nodes -/

/-- **A computation judges nodes** with their places.  It succeeds only if every node
that stands among them fits its place, and its error is about one that does not: the
fault applies to that node, and the position is where that node starts. -/
structure Judges {α : Type} (computation : Except CompileError α)
    (standing : List (Place × Node)) : Prop where
  accepts : ∀ result, computation = .ok result →
    ∀ place node, Node.StandsAt node place standing → node.FitsAt place
  rejects : ∀ error, computation = .error error →
    ∃ place node, Node.StandsAt node place standing
      ∧ error.fault.Breaks place node ∧ error.position = node.position

namespace Judges

variable {α β : Type} {computation : Except CompileError α} {next : α → Except CompileError β}
  {standing more : List (Place × Node)} {place : Place} {node : Node}

theorem pure (result : α) : Judges (Pure.pure result : Except CompileError α) [] where
  accepts _ _ _ _ stands := absurd stands Node.StandsAt.not_nil
  rejects _ failed := by cases failed

/-- **Sequences** judge what their parts judge. -/
theorem bind (first : Judges computation standing) (rest : ∀ result, Judges (next result) more) :
    Judges (computation >>= next) (standing ++ more) := by
  cases middle : computation with
  | error error =>
    refine ⟨nofun, ?_⟩
    rintro _ ⟨⟩
    obtain ⟨place, node, stands, broken⟩ := first.rejects error middle
    exact ⟨place, node, Node.StandsAt.append_iff.2 (.inl stands), broken⟩
  | ok value =>
    constructor
    · intro result same place node stands
      rcases Node.StandsAt.append_iff.1 stands with stands | stands
      · exact first.accepts value middle place node stands
      · exact (rest value).accepts result same place node stands
    · intro error same
      obtain ⟨place, node, stands, broken⟩ := (rest value).rejects error same
      exact ⟨place, node, Node.StandsAt.append_iff.2 (.inr stands), broken⟩

/-- What is done to the result at the end does not matter. -/
theorem map (judged : Judges computation standing) (change : α → β) :
    Judges (computation >>= fun result => Pure.pure (change result)) standing := by
  have both := judged.bind fun result => pure (change result)
  rwa [List.append_nil] at both

/-- A node that fits is accepted if what stands in it is. -/
theorem cons (fits : node.FitsAt place) (inside : Judges computation (node.standing ++ more)) :
    Judges computation ((place, node) :: more) := by
  constructor
  · intro result same at' sought stands
    rcases Node.StandsAt.cons_iff.1 stands with ⟨rfl, rfl⟩ | stands
    · exact fits
    · exact inside.accepts result same at' sought stands
  · intro error same
    obtain ⟨at', sought, stands, broken⟩ := inside.rejects error same
    exact ⟨at', sought, Node.StandsAt.cons_iff.2 (.inr stands), broken⟩

theorem single (fits : node.FitsAt place) (inside : Judges computation node.standing) :
    Judges computation [(place, node)] :=
  cons fits (by rwa [List.append_nil])

/-- A node that fits and has nothing in it. -/
theorem leaf (fits : node.FitsAt place) (none : node.standing = []) (result : α) :
    Judges (Pure.pure result : Except CompileError α) [(place, node)] :=
  single fits (none ▸ pure result)

/-- A node to which a fault applies, which becomes the error. -/
theorem misplaced {error : CompileError} (broken : error.fault.Breaks place node)
    (start : error.position = node.position) :
    Judges (throw error : Except CompileError α) [(place, node)] := by
  refine ⟨nofun, ?_⟩
  rintro _ ⟨⟩
  exact ⟨place, node, .here (List.mem_singleton_self _), broken, start⟩

/-- The head of a document is judged like any other node, unless it declares a layout. -/
theorem ofBody (other : ¬node.IsLayout) (judged : Judges computation ((.body, node) :: more)) :
    Judges computation ((.head, node) :: more) := by
  -- Only the node itself has another place: what stands in it and behind it stays where it is.
  constructor
  · intro result same at' sought stands
    rcases Node.StandsAt.cons_iff.1 stands with ⟨rfl, rfl⟩ | stands
    · intro fault broken
      have fits := judged.accepts result same .body sought (.here List.mem_cons_self)
      exact fits fault ((CompileFault.breaks_head_iff other).1 broken)
    · exact judged.accepts result same at' sought (Node.StandsAt.cons_iff.2 (.inr stands))
  · intro error same
    obtain ⟨at', sought, stands, broken, position⟩ := judged.rejects error same
    rcases Node.StandsAt.cons_iff.1 stands with ⟨rfl, rfl⟩ | stands
    · have broken := (CompileFault.breaks_head_iff other).2 broken
      exact ⟨.head, sought, .here List.mem_cons_self, broken, position⟩
    · exact ⟨at', sought, Node.StandsAt.cons_iff.2 (.inr stands), broken, position⟩

end Judges

/-! ## Compiling nodes -/

/-- **What compilation finds out** about a node at a place, where the branches that
follow a node are compiled apart from the nodes between tags. -/
def Place.Judged : Place → Node → Prop
  | .head, node | .body, node => Judges (lowerNode node) [(.body, node)]
  | .branch, node => Judges (lowerNode.lowerAlternate (some node)) [(.branch, node)]
  | .fallback, node => Judges (lowerNode.lowerEmpty (some node)) [(.fallback, node)]

section Lists

variable {nodes : List Node}

/-- Nodes that stand among each other are judged one by one. -/
theorem lowerNodes_judges (each : ∀ node ∈ nodes, Place.body.Judged node) :
    Judges (lowerNode.lowerNodes nodes) (nodes.map (.body, ·)) := by
  induction nodes with
  | nil => exact .pure _
  | cons node rest ih =>
    obtain ⟨first, others⟩ := List.forall_mem_cons.1 each
    exact first.bind fun steps => (ih others).map _

theorem lowerAlternate_judges {alternate : Option Node}
    (next : ∀ node ∈ alternate, Place.branch.Judged node) :
    Judges (lowerNode.lowerAlternate alternate) (alternate.toList.map (.branch, ·)) := by
  cases alternate with
  | none => exact .pure _
  | some node => exact next node rfl

theorem lowerEmpty_judges {alternate : Option Node}
    (next : ∀ node ∈ alternate, Place.fallback.Judged node) :
    Judges (lowerNode.lowerEmpty alternate) (alternate.toList.map (.fallback, ·)) := by
  cases alternate with
  | none => exact .pure _
  | some node => exact next node rfl

/-- The cases of a choice are judged one behind the other. -/
theorem lowerCases_judges {cases : List (Branch Node)}
    (each : ∀ case ∈ cases, ∀ node ∈ case.children, Place.body.Judged node) :
    Judges (lowerNode.lowerCases cases) ((cases.flatMap (·.children)).map (.body, ·)) := by
  induction cases with
  | nil => exact .pure _
  | cons case rest ih =>
    obtain ⟨first, others⟩ := List.forall_mem_cons.1 each
    rw [List.flatMap_cons, List.map_append]
    exact (lowerNodes_judges first).bind fun body => (ih others).map _

theorem lowerFallback_judges {fallback : Option (Position × List Node)}
    (each : ∀ node ∈ fallback.elim [] (·.2), Place.body.Judged node) :
    Judges (lowerNode.lowerFallback fallback) ((fallback.elim [] (·.2)).map (.body, ·)) := by
  cases fallback with
  | none => exact .pure _
  | some found => exact (lowerNodes_judges each).map _

end Lists

section Nodes

variable {node : Node} (children : ∀ child ∈ node.compiledChildren, Place.body.Judged child)
  (alternate : ∀ next ∈ node.alternate?, node.alternatePlace.Judged next)

include children alternate

/-- **Bodies.**  A node among others is judged if what stands in it is. -/
theorem lowerNode_judges : Place.body.Judged node := by
  cases node with
  | elseIf | otherwise => exact .misplaced ⟨trivial, nofun, nofun⟩ rfl
  | layout => exact .misplaced ⟨trivial, nofun⟩ rfl
  | text | whitespace | comment | cdata | doctype | action | printAction | render |
    renderContent | commentSpan => exact .leaf (Node.fitsAt_body id id) rfl _
  | element position tag nodes =>
    refine .single (Node.fitsAt_body id id) ?_
    simp only [Node.compiledChildren] at children
    simp only [lowerNode, Node.standing, Node.alternate?, Node.compiledChildren,
      Option.toList_none, List.map_nil, List.nil_append]
    split at children <;> rename_i closed
    · rw [if_pos closed, if_pos closed]
      exact .pure _
    · rw [if_neg closed, if_neg closed]
      exact (lowerNodes_judges children).map _
  | scope | loop | contentFor =>
    exact .single (Node.fitsAt_body id id) ((lowerNodes_judges children).map _)
  | print position expression block =>
    cases block with
    | none => exact .leaf (Node.fitsAt_body id id) rfl _
    | some block => exact .single (Node.fitsAt_body id id) ((lowerNodes_judges children).map _)
  | conditional =>
    refine .single (Node.fitsAt_body id id) ((lowerAlternate_judges alternate).bind ?_)
    exact fun other => (lowerNodes_judges children).map _
  | foreach =>
    refine .single (Node.fitsAt_body id id) ((lowerEmpty_judges alternate).bind ?_)
    exact fun other => (lowerNodes_judges children).map _
  | switch position expression cases fallback =>
    obtain ⟨inCases, inFallback⟩ := List.forall_mem_append.1 children
    have each : ∀ case ∈ cases, ∀ node ∈ case.children, Place.body.Judged node :=
      fun case mem node inside => inCases node (List.mem_flatMap.2 ⟨case, mem, inside⟩)
    refine .single (Node.fitsAt_body id id) ?_
    simp only [Node.standing, Node.alternate?, Node.compiledChildren, Node.children,
      Option.toList_none, List.map_nil, List.nil_append, List.map_append]
    exact (lowerCases_judges each).bind fun bodies => (lowerFallback_judges inFallback).map _

/-- **Branches.**  What follows a conditional block is judged if what stands in it is. -/
theorem lowerBranch_judges : Place.branch.Judged node := by
  cases node with
  | elseIf =>
    refine .single (Node.fitsAt_branch id trivial) ((lowerAlternate_judges alternate).bind ?_)
    exact fun other => (lowerNodes_judges children).map _
  | otherwise =>
    exact .single (Node.fitsAt_branch id trivial) ((lowerNodes_judges children).map _)
  | _ => exact .misplaced ⟨rfl, id⟩ rfl

omit alternate in
/-- **Branches behind loops.**  What follows a loop over a collection is judged if what
stands in it is. -/
theorem lowerFallbackBranch_judges : Place.fallback.Judged node := by
  cases node with
  | otherwise =>
    exact .single (Node.fitsAt_fallback id trivial) ((lowerNodes_judges children).map _)
  | _ => exact .misplaced ⟨rfl, id⟩ rfl

end Nodes

/-- All nodes that are compiled with a node stand between its tags. -/
theorem Node.mem_children_of_compiled {node child : Node} (mem : child ∈ node.compiledChildren) :
    child ∈ node.children := by
  cases node with
  | element position tag nodes =>
    simp only [compiledChildren] at mem
    split at mem
    · cases mem
    · exact mem
  | _ => exact mem

/-- **Every node is judged**, wherever it stands, by induction on what stands in it. -/
theorem Node.judged (place : Place) (node : Node) : place.Judged node := by
  induction node using Node.induction generalizing place with
  | inside node children alternate =>
    have compiled : ∀ child ∈ node.compiledChildren, Place.body.Judged child :=
      fun child mem => children child (mem_children_of_compiled mem) .body
    have behind : ∀ next ∈ node.alternate?, node.alternatePlace.Judged next :=
      fun next mem => alternate next mem node.alternatePlace
    cases place with
    | head | body => exact lowerNode_judges compiled behind
    | branch => exact lowerBranch_judges compiled behind
    | fallback => exact lowerFallbackBranch_judges compiled

/-! ## Documents -/

/-- The nodes of a document are judged, with the first of them at the head. -/
theorem Document.compile_judges (document : Document) :
    Judges document.compile document.standing := by
  have rest (others : List Node) :
      Judges (lowerNode.lowerNodes others) (others.map (.body, ·)) :=
    lowerNodes_judges fun node _ => node.judged .body
  obtain ⟨_ | ⟨first, others⟩⟩ := document
  · exact (rest []).map _
  · -- A layout at the head is taken off before the other nodes are compiled.
    cases first with
    | layout => exact .cons (Node.fitsAt_head id) ((rest others).map _)
    | _ => exact .ofBody id ((rest (_ :: others)).map _)

/-- **Documents compile exactly if every node stands where it may.**  A document has a
program if and only if no fault applies to any node that stands in it, however deep, the
nodes in elements without content left aside.  An error is about a node of the document:
its fault applies to the node, and its position is where the node starts. -/
theorem Document.compiles_iff_fits (document : Document) :
    ((∃ program, document.compile = .ok program) ↔
        ∀ (place : Place) (node : Node), node.StandsAt place document.standing →
          node.FitsAt place)
      ∧ ∀ error, document.compile = .error error →
        ∃ (place : Place) (node : Node), node.StandsAt place document.standing
          ∧ error.fault.Breaks place node ∧ error.position = node.position := by
  have judged := document.compile_judges
  refine ⟨⟨?_, fun fits => ?_⟩, judged.rejects⟩
  · rintro ⟨program, compiled⟩
    exact judged.accepts program compiled
  · cases compiled : document.compile with
    | ok program => exact ⟨program, rfl⟩
    | error error =>
      obtain ⟨place, node, stands, broken, -⟩ := judged.rejects error compiled
      exact absurd broken (fits place node stands error.fault)

/-- A layout in an element without content is not looked at. -/
example : (Document.compile ⟨[.element {} ⟨"br", true, false, []⟩ [.layout {} "page"]]⟩).isOk =
    true :=
  rfl

end ViewTemplate
