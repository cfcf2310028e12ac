import ViewTemplate.Proofs.Document.Reading
import ViewTemplate.Proofs.Document.WellPlaced
import ViewTemplate.Proofs.Program.Origins

/-!
# Documents that are read compile

Compilation has an error for each node that stands where it must not.  A formed
document has no such node, so it compiles, and the only step of its program that
can declare a layout is the first one.  As documents that are read are formed, the
errors of compilation cannot come about from a source.

Two things that hold of all documents are put together here: which nodes compilation
rejects (`Document.compile_judges`), and which nodes the steps of a program come
from (`lowerNodes_all`).

## Main Definitions

* `Step.LayoutFree` — no step declares a layout, here or inside others
* `Program.LayoutFirst` — only the first step of a program can declare a layout

-/

namespace ViewTemplate

/-! ## Steps that declare a layout -/

/-- No step declares a layout, neither one of a list nor one inside it. -/
def Step.LayoutFree (steps : List Step) : Prop :=
  ∀ path, ¬Step.Occurs (.setLayout path) steps

/-- **Only the first step of a program can declare a layout.** -/
def Program.LayoutFirst (program : Program) : Prop :=
  ∃ (layout : Option String) (rest : List Step),
    program.steps = (layout.map Step.setLayout).toList ++ rest ∧ Step.LayoutFree rest

/-- No node among others makes a step that declares a layout. -/
theorem lowerNodes_layoutFree (nodes : List Node) :
    Yields (lowerNode.lowerNodes nodes) Step.LayoutFree := by
  have made : ∀ node : Node, node.Occurs nodes → ∀ step, node.Makes step →
      ∀ path, step ≠ .setLayout path := by
    rintro node - step made path rfl
    cases made
  exact (lowerNodes_all made).mono fun steps all path occurs => all _ occurs path rfl

/-- **Whatever compiles** becomes a program that can declare a layout in its first step
only. -/
theorem Document.compile_layoutFirst (document : Document) :
    Yields document.compile Program.LayoutFirst := by
  unfold compile
  split
  · rename_i path rest _
    refine .bind (lowerNodes_layoutFree rest) fun steps free => ?_
    exact .pure ⟨some path, steps, rfl, free⟩
  · refine .bind (lowerNodes_layoutFree _) fun steps free => ?_
    exact .pure ⟨none, steps, rfl, free⟩

/-! ## Formed documents -/

/-- No fault applies to a node where it is admitted. -/
theorem Place.Admits.fitsAt {place : Place} {node : Node} (admitted : place.Admits node) :
    node.FitsAt place := by
  cases place with
  | head =>
    cases node with
    | layout => exact Node.fitsAt_head id
    | _ => exact absurd admitted id
  | body =>
    cases node with
    | elseIf | otherwise | layout => exact absurd admitted id
    | _ => exact Node.fitsAt_body id id
  | branch =>
    cases node with
    | elseIf | otherwise => exact Node.fitsAt_branch id trivial
    | _ => exact absurd admitted id
  | fallback =>
    cases node with
    | otherwise => exact Node.fitsAt_fallback id trivial
    | _ => exact absurd admitted id

/-- Everything that stands in formed nodes is formed. -/
theorem Node.StandsAt.formed {sought : Node} {place : Place} {standing : List (Place × Node)}
    (stands : sought.StandsAt place standing)
    (formed : ∀ item ∈ standing, item.2.Formed item.1) : sought.Formed place := by
  induction stands with
  | here mem => exact formed _ mem
  | @inside standing outer node mem within ih =>
    obtain ⟨-, -, children, alternate⟩ := formed _ mem
    apply ih
    intro item here
    rcases List.mem_append.mp here with here | here
    · obtain ⟨next, behind, rfl⟩ := List.mem_map.mp here
      exact alternate next (Option.mem_toList.mp behind)
    · obtain ⟨child, inside, rfl⟩ := List.mem_map.mp here
      exact children child (mem_children_of_compiled inside)

/-- Everything that stands in a formed body fits. -/
theorem Node.FormedAll.fits {nodes : List Node} (formed : FormedAll nodes) {place : Place}
    {sought : Node} (stands : sought.StandsAt place (nodes.map (.body, ·))) :
    sought.FitsAt place := by
  have found : sought.Formed place := by
    refine stands.formed fun item mem => ?_
    obtain ⟨node, here, rfl⟩ := List.mem_map.mp mem
    exact formed node here
  obtain ⟨admitted, -, -, -⟩ := found
  exact admitted.fitsAt

/-- Everything that stands in a formed document fits.  At its head there may stand a
declaration, or else a node that could stand among others as well. -/
theorem Document.Formed.fits {document : Document} (formed : document.Formed) {place : Place}
    {sought : Node} (stands : sought.StandsAt place document.standing) :
    sought.FitsAt place := by
  cases formed with
  | @plain nodes formed =>
    cases nodes with
    | nil => exact absurd stands Node.StandsAt.not_nil
    | cons first rest =>
      rcases Node.StandsAt.cons_iff.mp stands with ⟨rfl, rfl⟩ | behind
      · obtain ⟨admitted, -, -, -⟩ := formed sought List.mem_cons_self
        have other : ¬sought.IsLayout := by
          cases sought with
          | layout => exact absurd admitted id
          | _ => exact id
        intro fault broken
        exact admitted.fitsAt fault ((CompileFault.breaks_head_iff other).mp broken)
      · exact formed.fits (Node.StandsAt.cons_iff.mpr (.inr behind))
  | layout formed =>
    rcases Node.StandsAt.cons_iff.mp stands with ⟨rfl, rfl⟩ | behind
    · exact Node.fitsAt_head id
    · exact formed.fits behind

/-- **Formed documents compile**, to programs that can declare a layout in their
first step only. -/
theorem Document.Formed.compiles {document : Document} (formed : document.Formed) :
    Returns document.compile Program.LayoutFirst := by
  cases compiled : document.compile with
  | ok program => exact ⟨program, rfl, document.compile_layoutFirst program compiled⟩
  | error error =>
    obtain ⟨place, node, stands, broken, -⟩ := document.compile_judges.rejects error compiled
    exact absurd broken (formed.fits stands error.fault)

/-! ## From a source to a program -/

/-- **What is read compiles.**  The document of a source has a program, in which
only the first step can declare a layout.  In the document each loop has one or
two names that differ, each print block has parameters that differ, elements
without content have no nodes in them, and a script or a style that does not close
itself has one text in it and nothing else. -/
theorem Document.parse_compiles {options : Template.LexicalOptions} {source : String}
    {document : Document} (parsed : parse options source = .ok document) :
    (∃ program, document.compile = .ok program ∧ program.LayoutFirst)
      ∧ ∀ node : Node, node.Occurs document.nodes → node.Sound := by
  have formed : document.Formed := parse_formed parsed
  exact ⟨formed.compiles, fun node occurs => formed.sound occurs⟩

/-- A source with a layout and a script has a document, with its program and sound
nodes. -/
theorem Document.parse_compiles_script :
    ∃ document, parse {} "<js @layout=\"page\"/><script>1</script>" = .ok document
      ∧ document.layout? = some "page"
      ∧ (∃ program, document.compile = .ok program ∧ program.LayoutFirst)
      ∧ ∀ node : Node, node.Occurs document.nodes → node.Sound := by
  have read : (parse {} "<js @layout=\"page\"/><script>1</script>").toOption.bind layout?
      = some "page" := by
    decide +kernel
  cases parsed : parse {} "<js @layout=\"page\"/><script>1</script>" with
  | error error =>
    rw [parsed] at read
    cases read
  | ok document =>
    rw [parsed] at read
    exact ⟨document, rfl, read, parse_compiles parsed⟩

end ViewTemplate
