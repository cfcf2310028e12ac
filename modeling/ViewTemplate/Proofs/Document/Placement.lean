import ViewTemplate.Proofs.Document.Shape
import ViewTemplate.Proofs.Template.Offsets

/-!
# Where the parts of a document stand

What it means that a document says truly where its parts stand in a text.  Each
node starts at an offset at which the text reads as a node of its kind does
(`Node.SpelledAt`), and the nodes inside it follow one another behind that offset
(`Node.OrderedAt`).

The position of a snippet is that of its own text, not that of what stands around
it.  For a value in quotes this is the place behind the opening quote: the blanks
between the quote and the snippet are part of the value, and so are those up to
the closing quote (`Quoted`).  Between delimiters the snippet holds its blanks
itself (`SpannedAt`).

Both are statements about a node alone, with the positions of the nodes in it.
That they hold of all nodes, however deep, is one inductive predicate
(`Node.Placed`).

## Main Definitions

* `Ascending` — positions of characters one behind the other
* `Quoted`, `BlockValue`, `SpannedAt` — where the text of a snippet stands
* `Node.places` — all positions that a node holds itself
* `Node.SpelledAt`, `Node.OrderedAt` — what a text reads at the offset of a node
* `Node.PlacedAt`, `Node.Placed` — a node stands where it says

-/

namespace ViewTemplate

open Template Text

/-! ## Positions in order -/

/-- What has the position of a character stands in the text. -/
theorem Marks.inside_of_mem {tabWidth : Nat} {text : List Char} {positions : List Position}
    {offsets : List Nat} (marks : List.Forall₂ (Marks tabWidth text) positions offsets) :
    ∀ offset ∈ offsets, offset < text.length := by
  induction marks with
  | nil => exact nofun
  | cons first _ ih => exact List.forall_mem_cons.2 ⟨first.inside, ih⟩

/-- Positions are those of characters one behind the other in a part of a text. -/
def Ascending (tabWidth : Nat) (text : List Char) (start stop : Nat)
    (positions : List Position) : Prop :=
  ∃ offsets : List Nat, List.Forall₂ (Marks tabWidth text) positions offsets
    ∧ offsets.Pairwise (· < ·) ∧ ∀ offset ∈ offsets, start ≤ offset ∧ offset < stop

namespace Ascending

variable {tabWidth : Nat} {text : List Char} {start middle stop : Nat}
  {positions positions' : List Position} {position : Position}

theorem nil : Ascending tabWidth text start stop [] :=
  ⟨[], .nil, .nil, nofun⟩

theorem append (first : Ascending tabWidth text start middle positions)
    (rest : Ascending tabWidth text middle stop positions') (startLe : start ≤ middle)
    (leStop : middle ≤ stop) : Ascending tabWidth text start stop (positions ++ positions') := by
  obtain ⟨offsets, marks, ascend, inside⟩ := first
  obtain ⟨offsets', marks', ascend', inside'⟩ := rest
  refine ⟨offsets ++ offsets', List.rel_append marks marks', ?_, ?_⟩
  · refine List.pairwise_append.2 ⟨ascend, ascend', fun offset mem offset' mem' => ?_⟩
    exact Nat.lt_of_lt_of_le (inside offset mem).2 (inside' offset' mem').1
  · intro offset mem
    rcases List.mem_append.1 mem with mem | mem
    · exact ⟨(inside offset mem).1, Nat.lt_of_lt_of_le (inside offset mem).2 leStop⟩
    · exact ⟨startLe.trans (inside' offset mem).1, (inside' offset mem).2⟩

theorem singleton {offset : Nat} (marks : Marks tabWidth text position offset)
    (startLe : start ≤ offset) (ltStop : offset < stop) :
    Ascending tabWidth text start stop [position] :=
  ⟨[offset], .cons marks .nil, List.pairwise_singleton _ _,
    List.forall_mem_singleton.2 ⟨startLe, ltStop⟩⟩

theorem cons (first : Marks tabWidth text position start)
    (rest : Ascending tabWidth text middle stop positions) (startLt : start < middle)
    (leStop : middle ≤ stop) : Ascending tabWidth text start stop (position :: positions) :=
  append (singleton first (Nat.le_refl start) startLt) rest (Nat.le_of_lt startLt) leStop

theorem mono {start' stop' : Nat} (h : Ascending tabWidth text start stop positions)
    (startLe : start' ≤ start) (leStop : stop ≤ stop') :
    Ascending tabWidth text start' stop' positions := by
  obtain ⟨offsets, marks, ascend, inside⟩ := h
  refine ⟨offsets, marks, ascend, fun offset mem => ?_⟩
  exact ⟨startLe.trans (inside offset mem).1, Nat.lt_of_lt_of_le (inside offset mem).2 leStop⟩

/-- What has a position stands before the end of the text in any case. -/
theorem toEnd {start' : Nat} (h : Ascending tabWidth text start stop positions)
    (startLe : start' ≤ start) : Ascending tabWidth text start' text.length positions := by
  obtain ⟨offsets, marks, ascend, inside⟩ := h
  refine ⟨offsets, marks, ascend, fun offset mem => ?_⟩
  exact ⟨startLe.trans (inside offset mem).1, Marks.inside_of_mem marks offset mem⟩

end Ascending

/-! ## Snippets -/

section Snippets

variable {α : Type} (lexicon : Lexicon) (text : List Char)

/-- Somewhere behind an offset a text opens a quote, and behind that, at the
position of a snippet, it reads perhaps blanks, the snippet, and perhaps blanks up
to the same quote. -/
def Quoted (start : Nat) (quote : Char) (handle : Captured α) : Prop :=
  ∃ opened offset before behind, start < opened ∧ opened < offset
    ∧ StandsAt text [quote] opened
    ∧ Marks lexicon.tabWidth text handle.position offset
    ∧ StandsAt text (before ++ handle.source.toList ++ behind ++ [quote]) offset
    ∧ ∀ c ∈ before ++ behind, isBlank c = true

/-- A snippet that is the value of a block, in quotes of either kind behind the
offset of the block. -/
def BlockValue (start : Nat) (handle : Captured α) : Prop :=
  Quoted lexicon text start '"' handle ∨ Quoted lexicon text start '\x27' handle

/-- At an offset, which is that of a snippet, a text reads the snippet and the
delimiter behind it. -/
def SpannedAt (offset : Nat) (handle : Captured α) : Prop :=
  Marks lexicon.tabWidth text handle.position offset
    ∧ StandsAt text (handle.source.toList ++ lexicon.expressionEnd) offset

end Snippets

/-! ## Attributes -/

/-- The expressions of an attribute, in order. -/
def AttributeForm.expressions : AttributeForm → List Expression
  | plain none => []
  | plain (some (_, parts)) => parts.filterMap fun
    | .literal _ => none
    | .expression expression => some expression
  | bound _ expression => [expression]
  | conditional _ condition => [condition]
  | append _ _ condition => [condition]

/-- All positions that an attribute holds. -/
def Attribute.places (item : Attribute) : List Position :=
  item.position :: item.form.expressions.map (·.position)

/-- The expressions of an attribute stand where they say: in a value between
delimiters, and else in the quotes of the attribute, behind its offset. -/
def AttributeForm.SpelledAt (lexicon : Lexicon) (text : List Char) (start : Nat) :
    AttributeForm → Prop
  | plain none => True
  | plain (some (_, parts)) =>
    ∀ expression, .expression expression ∈ parts →
      ∃ offset, SpannedAt lexicon text offset expression
  | bound quote expression => Quoted lexicon text start quote expression
  | conditional quote condition => Quoted lexicon text start quote condition
  | append quote _ condition => Quoted lexicon text start quote condition

/-- An attribute stands where it says, and so do its expressions. -/
def Attribute.Spelled (lexicon : Lexicon) (text : List Char) (item : Attribute) : Prop :=
  ∃ offset, Marks lexicon.tabWidth text item.position offset
    ∧ item.form.SpelledAt lexicon text offset

/-! ## Nodes -/

namespace Node

/-- All positions that a node holds itself: its own, and those of its snippets,
attributes and cases. -/
def places (node : Node) : List Position :=
  node.position :: match node with
    | element _ tag _ => tag.attributes.flatMap Attribute.places
    | print _ expression _ => [expression.position]
    | conditional _ condition _ _ => [condition.position]
    | elseIf _ condition _ _ => [condition.position]
    | switch _ expression cases fallback =>
      expression.position
        :: (cases.flatMap fun case => [case.position, case.condition.position])
        ++ fallback.toList.map (·.1)
    | foreach _ _ collection _ _ => [collection.position]
    | loop _ condition _ => [condition.position]
    | render _ _ context => context.toList.map (·.position)
    | action _ statement => [statement.position]
    | printAction _ statement => [statement.position]
    | _ => []

variable (lexicon : Lexicon) (text : List Char)

/-- What a text reads at the offset of a node, and at the positions of the
snippets in its opening tag. -/
def SpelledAt (lexicon : Lexicon) (text : List Char) (offset : Nat) : Node → Prop
  | .text _ literal => StandsAt text literal.toList offset
  | whitespace _ blanks => StandsAt text blanks.toList offset
  | comment _ content => StandsAt text ("<!--".toList ++ content.toList ++ "-->".toList) offset
  | cdata _ content =>
    StandsAt text ("<![CDATA[".toList ++ content.toList ++ "]]>".toList) offset
  | commentSpan _ content =>
    StandsAt text (lexicon.commentStart ++ content.toList ++ lexicon.expressionEnd) offset
  | action _ statement =>
    StandsAt text lexicon.expressionStart offset
      ∧ SpannedAt lexicon text (offset + lexicon.expressionStart.length) statement
  | printAction _ statement =>
    StandsAt text lexicon.printStart offset
      ∧ SpannedAt lexicon text (offset + lexicon.printStart.length) statement
  | element _ tag _ =>
    (∃ name, StandsAt text ('<' :: name) offset ∧ name = tagNameOf (text.drop (offset + 1))
      ∧ toLower (String.ofList name) = tag.name)
    ∧ ∀ item ∈ tag.attributes, item.Spelled lexicon text
  | print _ expression _ => BlockValue lexicon text offset expression
  | conditional _ condition _ _ => BlockValue lexicon text offset condition
  | elseIf _ condition _ _ => BlockValue lexicon text offset condition
  | switch _ expression _ _ => BlockValue lexicon text offset expression
  | foreach _ _ collection _ _ => BlockValue lexicon text offset collection
  | loop _ condition _ => BlockValue lexicon text offset condition
  | render _ _ context => ∀ expression ∈ context, BlockValue lexicon text offset expression
  | doctype _ | scope .. | otherwise .. | renderContent .. | contentFor .. | layout .. => True

/-- A part of a choice stands at an offset, with its nodes in order behind it. -/
structure CaseAt (start : Nat) (position : Position) (children : List Node) : Prop where
  marks : Marks lexicon.tabWidth text position start
  ascending : Ascending lexicon.tabWidth text (start + 1) text.length (children.map Node.position)

/-- The nodes in a node stand in order behind its offset, and the branch that
follows it behind them.  The cases of a choice stand in order behind its offset,
each with its value and its nodes behind it; the default case can stand among them. -/
def OrderedAt (offset : Nat) (node : Node) : Prop :=
  match node with
  | switch _ _ cases fallback =>
    Ascending lexicon.tabWidth text (offset + 1) text.length (cases.map (·.position))
      ∧ (∀ case ∈ cases, ∃ start, offset < start
        ∧ CaseAt lexicon text start case.position case.children
        ∧ BlockValue lexicon text start case.condition)
      ∧ ∀ other ∈ fallback, ∃ start, offset < start
        ∧ CaseAt lexicon text start other.1 other.2
  | node => Ascending lexicon.tabWidth text (offset + 1) text.length
      ((node.children ++ node.alternate?.toList).map Node.position)

/-- A node stands where it says. -/
structure PlacedAt (offset : Nat) (node : Node) : Prop where
  marks : Marks lexicon.tabWidth text node.position offset
  spelled : node.SpelledAt lexicon text offset
  ordered : node.OrderedAt lexicon text offset

/-- A node stands where it says, and so do all nodes in it, however deep. -/
inductive Placed : Node → Prop where
  | intro {node : Node} {offset : Nat} (placed : node.PlacedAt lexicon text offset)
      (children : ∀ child ∈ node.children, Placed child)
      (alternate : ∀ next ∈ node.alternate?, Placed next) : Placed node

variable {lexicon text}

end Node

/-! ## All positions -/

section Places

variable {α : Type} {lexicon : Lexicon} {text : List Char}

/-- A position is that of some character. -/
def Marked (lexicon : Lexicon) (text : List Char) (position : Position) : Prop :=
  ∃ offset, Marks lexicon.tabWidth text position offset

theorem Quoted.marked {start : Nat} {quote : Char} {handle : Captured α}
    (quoted : Quoted lexicon text start quote handle) : Marked lexicon text handle.position := by
  obtain ⟨_, offset, _, _, -, -, -, marks, -⟩ := quoted
  exact ⟨offset, marks⟩

theorem BlockValue.marked {start : Nat} {handle : Captured α}
    (value : BlockValue lexicon text start handle) : Marked lexicon text handle.position :=
  value.elim Quoted.marked Quoted.marked

theorem SpannedAt.marked {offset : Nat} {handle : Captured α}
    (spanned : SpannedAt lexicon text offset handle) : Marked lexicon text handle.position :=
  ⟨offset, spanned.1⟩

theorem AttributeForm.SpelledAt.marked {start : Nat} {form : AttributeForm}
    (spelled : form.SpelledAt lexicon text start) :
    ∀ expression ∈ form.expressions, Marked lexicon text expression.position := by
  cases form with
  | plain value =>
    cases value with
    | none => exact nofun
    | some value =>
      intro expression mem
      obtain ⟨part, inside, found⟩ := List.mem_filterMap.1 mem
      cases part with
      | literal => cases found
      | expression =>
        cases found
        obtain ⟨offset, spanned⟩ := spelled expression inside
        exact spanned.marked
  | bound => exact List.forall_mem_singleton.2 (Quoted.marked spelled)
  | conditional => exact List.forall_mem_singleton.2 (Quoted.marked spelled)
  | append => exact List.forall_mem_singleton.2 (Quoted.marked spelled)

theorem Attribute.Spelled.marked {item : Attribute} (spelled : item.Spelled lexicon text) :
    ∀ position ∈ item.places, Marked lexicon text position := by
  obtain ⟨offset, marks, form⟩ := spelled
  exact List.forall_mem_cons.2 ⟨⟨offset, marks⟩, List.forall_mem_map.2 form.marked⟩

/-- **All positions** that a placed node holds are those of characters. -/
theorem Node.PlacedAt.marked {node : Node} {offset : Nat}
    (placed : node.PlacedAt lexicon text offset) :
    ∀ position ∈ node.places, Marked lexicon text position := by
  obtain ⟨marks, spelled, ordered⟩ := placed
  refine List.forall_mem_cons.2 ⟨⟨offset, marks⟩, ?_⟩
  cases node with
  | element =>
    intro position mem
    obtain ⟨item, inside, place⟩ := List.mem_flatMap.1 mem
    exact (spelled.2 item inside).marked position place
  | print | conditional | elseIf | foreach | loop =>
    exact List.forall_mem_singleton.2 (BlockValue.marked spelled)
  | switch =>
    obtain ⟨-, cases, fallback⟩ := ordered
    have value : BlockValue lexicon text offset _ := spelled
    refine List.forall_mem_cons.2 ⟨value.marked, List.forall_mem_append.2 ⟨?_, ?_⟩⟩
    · intro position mem
      obtain ⟨case, inside, place⟩ := List.mem_flatMap.1 mem
      obtain ⟨start, -, here, condition⟩ := cases case inside
      have both : ∀ place ∈ [case.position, case.condition.position], Marked lexicon text place :=
        List.forall_mem_cons.2
          ⟨⟨start, here.marks⟩, List.forall_mem_singleton.2 condition.marked⟩
      exact both position place
    · refine List.forall_mem_map.2 fun other mem => ?_
      obtain ⟨start, -, here⟩ := fallback other (Option.mem_toList.1 mem)
      exact ⟨start, here.marks⟩
  | render =>
    refine List.forall_mem_map.2 fun expression mem => ?_
    exact (spelled expression (Option.mem_toList.1 mem)).marked
  | action | printAction => exact List.forall_mem_singleton.2 spelled.2.marked
  | _ => exact nofun

end Places

end ViewTemplate
