import ViewTemplate.Proofs.Document.Walking

/-!
# The positions of a document are those of its source

Each production of the grammar goes forward over the source and builds nodes that
stand where they say.  A node starts at the offset where its production does, so
the nodes of a body follow one another in the order in which they are read
(`NodeAt`, `BodyAt`).

A production takes the reader of the nodes inside as an argument, so there is one
statement for each of them, and the induction over the depth of nesting comes last
(`node_walks`).

Two places are known to be those of characters only later: the text of a script
and the snippets before a delimiter can be empty, and it is the token behind them
that shows that the source has not ended there.

## Main Definitions

* `NodeAt`, `BodyAt` — nodes that stand between two offsets
* `BranchAt`, `CasesAt` — the same for branches and for the cases of a choice
* `WalksNodes` — a reader of nodes that stand where they say

-/

namespace ViewTemplate.Document

open Template Text

variable {lexicon : Lexicon} {text : List Char} {start stop : Nat}

/-! ## Nodes between offsets -/

/-- A node that stands where it says, from one offset to another. -/
structure NodeAt (lexicon : Lexicon) (text : List Char) (start : Nat) (node : Node)
    (stop : Nat) : Prop where
  marks : Marks lexicon.tabWidth text node.position start
  placed : node.Placed lexicon text
  lt : start < stop

/-- Nodes that stand where they say and follow one another, from one offset to
another. -/
structure BodyAt (lexicon : Lexicon) (text : List Char) (start : Nat) (nodes : List Node)
    (stop : Nat) : Prop where
  ascending : Ascending lexicon.tabWidth text start stop (nodes.map Node.position)
  placed : ∀ node ∈ nodes, node.Placed lexicon text

namespace BodyAt

variable {node : Node} {nodes nodes' : List Node} {middle : Nat}

theorem nil : BodyAt lexicon text start [] stop :=
  ⟨.nil, nofun⟩

theorem cons (first : NodeAt lexicon text start node middle)
    (rest : BodyAt lexicon text middle nodes stop) (le : middle ≤ stop) :
    BodyAt lexicon text start (node :: nodes) stop where
  ascending := .cons first.marks rest.ascending first.lt le
  placed := List.forall_mem_cons.2 ⟨first.placed, rest.placed⟩

theorem singleton (only : NodeAt lexicon text start node stop) :
    BodyAt lexicon text start [node] stop :=
  .cons only .nil (Nat.le_refl stop)

theorem append (first : BodyAt lexicon text start nodes middle)
    (rest : BodyAt lexicon text middle nodes' stop) (startLe : start ≤ middle)
    (leStop : middle ≤ stop) : BodyAt lexicon text start (nodes ++ nodes') stop where
  ascending := by
    rw [List.map_append]
    exact first.ascending.append rest.ascending startLe leStop
  placed := List.forall_mem_append.2 ⟨first.placed, rest.placed⟩

theorem mono {start' stop' : Nat} (body : BodyAt lexicon text start nodes stop)
    (startLe : start' ≤ start) (leStop : stop ≤ stop') : BodyAt lexicon text start' nodes stop' :=
  ⟨body.ascending.mono startLe leStop, body.placed⟩

end BodyAt

namespace NodeAt

variable {node : Node}

/-- A node other than a choice, with the nodes in it behind its offset. -/
theorem of_body (other : ∀ position expression cases fallback,
      node ≠ .switch position expression cases fallback)
    (marks : Marks lexicon.tabWidth text node.position start)
    (spelled : node.SpelledAt lexicon text start)
    (body : BodyAt lexicon text (start + 1) (node.children ++ node.alternate?.toList) stop)
    (lt : start < stop) : NodeAt lexicon text start node stop := by
  obtain ⟨ascending, placed⟩ := body
  have order := ascending.toEnd (Nat.le_refl (start + 1))
  have ordered : node.OrderedAt lexicon text start := by
    cases node with
    | switch position expression cases fallback => exact absurd rfl (other _ _ _ _)
    | _ => exact order
  obtain ⟨children, alternate⟩ := List.forall_mem_append.1 placed
  refine ⟨marks, .intro ⟨marks, spelled, ordered⟩ children fun next mem => ?_, lt⟩
  exact alternate next (Option.mem_toList.2 mem)

/-- A node with others between its tags and no branch behind it. -/
theorem of_children (other : ∀ position expression cases fallback,
      node ≠ .switch position expression cases fallback)
    (marks : Marks lexicon.tabWidth text node.position start)
    (spelled : node.SpelledAt lexicon text start) (last : node.alternate? = none)
    (body : BodyAt lexicon text (start + 1) node.children stop) (lt : start < stop) :
    NodeAt lexicon text start node stop := by
  refine of_body other marks spelled ?_ lt
  rw [last, Option.toList_none, List.append_nil]
  exact body

end NodeAt

/-- A reader of nodes that stand where they say. -/
def WalksNodes (lexicon : Lexicon) (text : List Char) (nested : Reader Node) : Prop :=
  ∀ start, Walks lexicon text nested start (NodeAt lexicon text start)

/-! ## Bodies of blocks -/

variable {nested : Reader Node}

theorem nodesBefore_walks (inner : WalksNodes lexicon text nested) (kind : TokenKind)
    (turns : Nat) :
    Walks lexicon text (nodesBefore nested kind turns) start (BodyAt lexicon text start) := by
  induction turns generalizing start with
  | zero => exact .failHere _
  | succ turns ih =>
    refine .sees ?_
    split
    · exact .pure .nil
    · refine .bind (inner start) fun node middle _ first => ?_
      exact .bind ih fun nodes stop le rest => .pure (.cons first rest le)

theorem tagEnd_walks : Walks lexicon text tagEnd start fun _ _ => True :=
  .bind skipSpace_walks fun _ _ _ _ => .bind (expect_walks _) fun _ _ _ _ => .pure trivial

theorem selfClosingEnd_walks : Walks lexicon text selfClosingEnd start fun _ _ => True := by
  refine .bind skipSpace_walks fun _ _ _ _ => .bind (expect_walks _) fun _ _ _ _ => ?_
  exact .bind (expect_walks _) fun _ _ _ _ => .pure trivial

theorem blockBody_walks (inner : WalksNodes lexicon text nested) :
    Walks lexicon text (blockBody nested) start (BodyAt lexicon text start) := by
  refine .budget (.bind (nodesBefore_walks inner _ _) fun nodes middle _ body => ?_)
  refine .bind (expect_walks _) fun _ closed le₁ _ => ?_
  refine .bind tagEnd_walks fun _ stop le₂ _ => .pure ?_
  exact body.mono (Nat.le_refl start) (le₁.trans le₂)

theorem blockRest_walks (inner : WalksNodes lexicon text nested) :
    Walks lexicon text (blockRest nested) start (BodyAt lexicon text start) := by
  refine .bind tagEnd_walks fun _ opened le _ => ?_
  exact (blockBody_walks inner).mono fun nodes stop _ body => body.mono le (Nat.le_refl stop)

/-- A branch that stands where it says, from one offset to another. -/
structure BranchAt (lexicon : Lexicon) (text : List Char) (start : Nat) (branch : Branch Node)
    (stop : Nat) : Prop where
  marks : Marks lexicon.tabWidth text branch.position start
  condition : BlockValue lexicon text start branch.condition
  body : BodyAt lexicon text (start + 1) branch.children stop
  lt : start < stop

theorem branch_walks (inner : WalksNodes lexicon text nested) (opener : TokenKind) :
    Walks lexicon text (branch nested opener) start (BranchAt lexicon text start) := by
  refine .bind (expect_walks _) fun token opened _ ⟨takes, _⟩ => ?_
  refine .bind blockExpression_walks fun condition middle le₁ ⟨value, _⟩ => ?_
  refine .bind (blockRest_walks inner) fun children stop le₂ body => .pure ?_
  have lt := takes.lt
  exact
    { marks := takes.starts.marks
      condition := value start lt
      body := body.mono (by omega) (Nat.le_refl stop)
      lt := by omega }

/-- A node that is a text between two tokens that are always written in the same
way. -/
theorem enclosed_walks {opening closing : TokenKind} {opener closer : List Char}
    (fixedOpener : lexicon.spelling? opening = some opener)
    (fixedCloser : lexicon.spelling? closing = some closer) {build : Position → String → Node}
    (leaf : ∀ {position content stop}, Marks lexicon.tabWidth text position start →
      StandsAt text (opener ++ content.toList ++ closer) start → start < stop →
      NodeAt lexicon text start (build position content) stop) :
    Walks lexicon text (do
        let token ← expect opening
        return build token.position (← textUpTo closing))
      start (NodeAt lexicon text start) := by
  refine .bind (expect_walks _) fun token opened _ ⟨takes, same⟩ => ?_
  refine .bind (textUpTo_walks fixedCloser) fun content stop _ ⟨stands, _, lt⟩ => .pure ?_
  subst same
  have forward : start < stop := takes.lt.trans lt
  obtain ⟨opens, rfl⟩ := takes.stands fixedOpener
  have whole : StandsAt text (opener ++ content.toList ++ closer) start := by
    rw [List.append_assoc]
    exact opens.append stands
  exact leaf takes.starts.marks whole forward

theorem commentSpan_walks :
    Walks lexicon text commentSpan start (NodeAt lexicon text start) :=
  enclosed_walks rfl rfl fun marks stands lt => .of_body nofun marks stands .nil lt

/-! ## Blocks -/

theorem scopeBlock_walks (inner : WalksNodes lexicon text nested) :
    Walks lexicon text (scopeBlock nested) start (NodeAt lexicon text start) := by
  refine .bind (expect_walks _) fun token opened _ ⟨takes, _⟩ => ?_
  refine .bind (blockRest_walks inner) fun children stop le body => .pure ?_
  have lt := takes.lt
  exact .of_children nofun takes.starts.marks trivial rfl (body.mono lt (Nat.le_refl stop))
    (by omega)

theorem blockParameters_walks (quote : TokenKind) (turns : Nat) (names : List String) :
    Walks lexicon text (blockParameters quote turns names) start fun _ _ => True := by
  induction turns generalizing start names with
  | zero => exact .failHere _
  | succ turns ih =>
    refine .bind skipSpace_walks fun _ _ _ _ => .bind (eat_walks _) fun closed _ _ _ => ?_
    split
    · exact .pure trivial
    · refine .optional (fun _ _ => ?_) fun rest => ?_
      · refine .here (.bind variableName_walks fun name _ _ _ => ?_)
        split
        · exact .failAt _ _
        · exact ih _
      · refine .bind (expect_walks _) fun _ _ le₁ _ => .bind skipSpace_walks fun _ _ le₂ _ => ?_
        exact rest _ (le₁.trans le₂)

theorem parameterList_walks : Walks lexicon text parameterList start fun _ _ => True := by
  refine .bind (expect_walks _) fun _ _ _ _ => .bind skipSpace_walks fun _ _ _ _ => ?_
  refine .bind (expect_walks _) fun _ _ _ _ => .bind skipSpace_walks fun _ _ _ _ => ?_
  refine .bind expectQuote_walks fun quote _ _ _ => .budget ?_
  refine .bind (blockParameters_walks quote _ []) fun names _ _ _ => ?_
  split
  · exact .failHere _
  · exact .bind skipSpace_walks fun _ _ _ _ => .pure trivial

theorem printBlock_walks (inner : WalksNodes lexicon text nested) :
    Walks lexicon text (printBlock nested) start (NodeAt lexicon text start) := by
  refine .bind (expect_walks _) fun token opened _ ⟨takes, _⟩ => ?_
  refine .bind blockExpression_walks fun expression middle le₁ ⟨value, _⟩ => ?_
  refine .bind skipSpace_walks fun _ behind le₂ _ => .sees ?_
  have lt := takes.lt
  split
  · refine .bind parameterList_walks fun parameters listed le₃ _ => ?_
    refine .bind (expect_walks _) fun _ closed le₄ _ => ?_
    refine .bind (blockBody_walks inner) fun children stop le₅ body => .pure ?_
    exact .of_children nofun takes.starts.marks (value start lt) rfl
      (body.mono (by omega) (Nat.le_refl stop)) (by omega)
  · refine .bind (eat_walks _) fun closed _ le₃ _ => ?_
    split
    · refine .bind (expect_walks _) fun _ stop le₄ _ => .pure ?_
      exact .of_body nofun takes.starts.marks (value start lt) .nil (by omega)
    · refine .bind (expect_walks _) fun _ closed le₄ _ => ?_
      refine .bind (blockBody_walks inner) fun children stop le₅ body => .pure ?_
      exact .of_children nofun takes.starts.marks (value start lt) rfl
        (body.mono (by omega) (Nat.le_refl stop)) (by omega)

/-- The branch that follows a block, if there is one, is a body of its own. -/
theorem alternate_walks (inner : WalksNodes lexicon text nested) (admitsElseIf : Bool)
    (turns : Nat) :
    Walks lexicon text (alternate nested admitsElseIf turns) start fun next stop =>
      BodyAt lexicon text start next.toList stop := by
  induction turns generalizing start admitsElseIf with
  | zero => exact .failHere _
  | succ turns ih =>
    refine .peekKind ?_
    split
    · refine .bind take_walks fun _ middle le _ => ?_
      exact (ih admitsElseIf).mono fun next stop _ body => body.mono le (Nat.le_refl stop)
    · refine .bind commentSpan_walks fun _ middle le _ => ?_
      exact (ih admitsElseIf).mono fun next stop _ body => body.mono le (Nat.le_refl stop)
    · split
      · refine .bind (branch_walks inner _) fun found middle _ branch => ?_
        refine .bind (ih true) fun next stop le rest => .pure (.singleton ?_)
        have lt := branch.lt
        exact .of_body nofun branch.marks branch.condition
          (branch.body.append rest (by omega) le) (by omega)
      · exact .pure .nil
    · refine .bind (expect_walks _) fun token opened _ ⟨takes, _⟩ => ?_
      refine .bind (blockRest_walks inner) fun children stop le body => .pure (.singleton ?_)
      have lt := takes.lt
      exact .of_children nofun takes.starts.marks trivial rfl
        (body.mono (by omega) (Nat.le_refl stop)) (by omega)
    · exact .pure .nil

theorem conditionalBlock_walks (inner : WalksNodes lexicon text nested) :
    Walks lexicon text (conditionalBlock nested) start (NodeAt lexicon text start) := by
  refine .bind (branch_walks inner _) fun found middle _ branch => .budget ?_
  refine .bind (alternate_walks inner true _) fun next stop le rest => .pure ?_
  have lt := branch.lt
  exact .of_body nofun branch.marks branch.condition (branch.body.append rest (by omega) le)
    (by omega)

/-- The cases of a choice stand where they say, between the offset of the choice and
another offset. -/
structure CasesAt (lexicon : Lexicon) (text : List Char) (offset : Nat) (found : Cases)
    (stop : Nat) : Prop where
  ascending : Ascending lexicon.tabWidth text (offset + 1) stop (found.cases.map (·.position))
  cases : ∀ case ∈ found.cases,
    (∃ start, offset < start ∧ Node.CaseAt lexicon text start case.position case.children
      ∧ BlockValue lexicon text start case.condition)
    ∧ ∀ child ∈ case.children, child.Placed lexicon text
  fallback : ∀ other ∈ found.fallback,
    (∃ start, offset < start ∧ Node.CaseAt lexicon text start other.1 other.2)
    ∧ ∀ child ∈ other.2, child.Placed lexicon text

namespace CasesAt

variable {offset : Nat} {found : Cases}

theorem nil : CasesAt lexicon text offset {} stop :=
  ⟨.nil, nofun, nofun⟩

theorem mono {stop' : Nat} (sofar : CasesAt lexicon text offset found stop) (le : stop ≤ stop') :
    CasesAt lexicon text offset found stop' :=
  ⟨sofar.ascending.mono (Nat.le_refl _) le, sofar.cases, sofar.fallback⟩

/-- A further case stands behind the cases so far. -/
theorem snoc (sofar : CasesAt lexicon text offset found start) (behind : offset < start)
    {branch : Branch Node} (next : BranchAt lexicon text start branch stop) :
    CasesAt lexicon text offset { found with cases := found.cases ++ [branch] } stop where
  ascending := by
    rw [List.map_append]
    exact sofar.ascending.append (.singleton next.marks (Nat.le_refl start) next.lt) behind
      (Nat.le_of_lt next.lt)
  cases := by
    refine List.forall_mem_append.2 ⟨sofar.cases, List.forall_mem_singleton.2 ?_⟩
    have here : Node.CaseAt lexicon text start branch.position branch.children :=
      ⟨next.marks, next.body.ascending.toEnd (Nat.le_refl _)⟩
    exact ⟨⟨start, behind, here, next.condition⟩, next.body.placed⟩
  fallback := sofar.fallback

end CasesAt

/-- The cases found so far stay where they are, and the next one stands behind the
choice wherever the default case is. -/
theorem switchCases_walks (inner : WalksNodes lexicon text nested) (turns : Nat)
    {offset : Nat} {found : Cases} (behind : offset < start)
    (sofar : CasesAt lexicon text offset found start) :
    Walks lexicon text (switchCases nested turns found) start (CasesAt lexicon text offset) := by
  induction turns generalizing start found with
  | zero => exact .failHere _
  | succ turns ih =>
    refine .peekKind ?_
    split
    · exact .failHere _
    · exact .pure sofar
    · refine .bind take_walks fun _ middle le _ => ?_
      exact ih (Nat.lt_of_lt_of_le behind le) (sofar.mono le)
    · refine .bind commentSpan_walks fun _ middle le _ => ?_
      exact ih (Nat.lt_of_lt_of_le behind le) (sofar.mono le)
    · refine .bind (branch_walks inner _) fun case middle le next => ?_
      exact ih (Nat.lt_of_lt_of_le behind le) (sofar.snoc behind next)
    · split
      · exact .failHere _
      -- The default case is kept apart, so the order of the cases stays as it is.
      · refine .bind (expect_walks _) fun token opened le₁ ⟨takes, _⟩ => ?_
        refine .bind (blockRest_walks inner) fun children middle le₂ body => ?_
        have lt := takes.lt
        refine ih (by omega) ⟨sofar.ascending.mono (Nat.le_refl _) (by omega), sofar.cases, ?_⟩
        rintro _ ⟨⟩
        have here : Node.CaseAt lexicon text start token.position children :=
          ⟨takes.starts.marks, body.ascending.toEnd lt⟩
        exact ⟨⟨start, behind, here⟩, body.placed⟩
    · exact .failUnexpected

theorem switchBlock_walks (inner : WalksNodes lexicon text nested) :
    Walks lexicon text (switchBlock nested) start (NodeAt lexicon text start) := by
  refine .bind (expect_walks _) fun token opened _ ⟨takes, _⟩ => ?_
  refine .bind blockExpression_walks fun expression middle le₁ ⟨value, _⟩ => ?_
  refine .bind tagEnd_walks fun _ body le₂ _ => .budget ?_
  have lt := takes.lt
  have behind : start < body := by omega
  refine .bind (switchCases_walks inner _ behind .nil) fun found closing le₃ inside => ?_
  refine .bind (expect_walks _) fun _ closed le₄ _ => .bind tagEnd_walks fun _ stop le₅ _ => ?_
  refine .pure ⟨takes.starts.marks, ?_, by omega⟩
  obtain ⟨ascending, cases, fallback⟩ := inside
  refine .intro ⟨takes.starts.marks, value start lt, ?_⟩ ?_ nofun
  · exact ⟨ascending.toEnd (Nat.le_refl _), fun case mem => (cases case mem).1,
      fun other mem => (fallback other mem).1⟩
  · refine List.forall_mem_append.2 ⟨fun child mem => ?_, ?_⟩
    · obtain ⟨case, inside, within⟩ := List.mem_flatMap.1 mem
      exact (cases case inside).2 child within
    · cases other : found.fallback with
      | none => exact nofun
      | some other' => exact (fallback other' other).2

theorem loopNames_walks (turns : Nat) (names : List String) :
    Walks lexicon text (loopNames turns names) start fun _ _ => True := by
  induction turns generalizing start names with
  | zero => exact .failHere _
  | succ turns ih =>
    refine .optional (fun _ _ => ?_) fun rest => ?_
    · refine .bind skipSpace_walks fun _ _ _ _ => .here ?_
      refine .bind variableName_walks fun name _ _ _ => ?_
      split
      · exact .failAt _ _
      · split
        · exact .failAt _ _
        · refine .bind skipSpace_walks fun _ _ _ _ => .sees ?_
          split
          · exact ih _
          · exact .pure trivial
    · exact .bind (expect_walks _) fun _ _ le _ => rest _ le

theorem loopWord_walks : Walks lexicon text loopWord start fun _ _ => True := by
  refine .bind take_walks fun _ _ _ _ => ?_
  split
  · exact .pure trivial
  · exact .failAt _ _

/-- The collection of a loop starts behind its word and ends at the quote that was
opened before the names. -/
theorem foreachBlock_walks (inner : WalksNodes lexicon text nested) :
    Walks lexicon text (foreachBlock nested) start (NodeAt lexicon text start) := by
  refine .bind (expect_walks _) fun token o₁ _ ⟨takes, _⟩ => ?_
  refine .bind skipSpace_walks fun _ o₂ le₂ _ => .bind (expect_walks _) fun _ o₃ le₃ _ => ?_
  refine .bind skipSpace_walks fun _ o₄ le₄ _ => ?_
  refine .bind expectQuote_walks fun quote o₅ le₅ ⟨isQuote, opens, _⟩ => .budget ?_
  refine .bind (loopNames_walks _ []) fun names o₆ le₆ _ => ?_
  refine .bind loopWord_walks fun _ o₇ le₇ _ => .bind skipSpace_walks fun _ o₈ le₈ _ => .here ?_
  refine .bind (textUpTo_walks (spelling?_of_isQuote isQuote)) fun value o₉ le₉ found => ?_
  obtain ⟨stands, inside, _⟩ := found
  refine .bind captured_walks fun collection _ _ ⟨⟨source, place⟩, same⟩ => ?_
  subst same
  refine .bind (blockRest_walks inner) fun children o₁₀ le₁₀ body => .budget ?_
  refine .bind (alternate_walks inner false _) fun next stop le rest => .pure ?_
  -- The quote that was opened before the names closes the collection.
  have value : QuotedValue.StandsIn lexicon text o₁
      ⟨value, positionAt lexicon.tabWidth text o₈, quoteChar quote⟩ :=
    ⟨⟨o₄, o₈, by omega, by omega, opens, ⟨inside, rfl⟩, stands⟩, quoteChar_eq quote⟩
  have lt := takes.lt
  exact .of_body nofun takes.starts.marks (value.blockValue lt source place)
    ((body.mono (by omega) (Nat.le_refl _)).append rest (by omega) le) (by omega)

theorem loopBlock_walks (inner : WalksNodes lexicon text nested) :
    Walks lexicon text (loopBlock nested) start (NodeAt lexicon text start) := by
  refine .bind (branch_walks inner _) fun found stop _ branch => .pure ?_
  exact .of_children nofun branch.marks branch.condition rfl branch.body branch.lt

theorem renderBlock_walks : Walks lexicon text renderBlock start (NodeAt lexicon text start) := by
  refine .bind (expect_walks _) fun token opened _ ⟨takes, _⟩ => ?_
  refine .bind (blockName_walks _) fun path named le₁ _ => .bind skipSpace_walks fun _ _ le₂ _ => ?_
  refine .bind (eat_walks _) fun hasContext _ le₃ _ => ?_
  have lt := takes.lt
  split
  · refine .bind blockExpression_walks fun context _ le₄ ⟨value, _⟩ => ?_
    refine .bind selfClosingEnd_walks fun _ stop le₅ _ => .pure ?_
    refine .of_body nofun takes.starts.marks ?_ .nil (by omega)
    rintro _ ⟨⟩
    exact value start (by omega)
  · refine .bind selfClosingEnd_walks fun _ stop le₄ _ => .pure ?_
    exact .of_body nofun takes.starts.marks nofun .nil (by omega)

theorem renderContentBlock_walks :
    Walks lexicon text renderContentBlock start (NodeAt lexicon text start) := by
  refine .bind (expect_walks _) fun token opened _ ⟨takes, _⟩ => ?_
  refine .bind skipSpace_walks fun _ middle le₁ _ => .sees ?_
  have lt := takes.lt
  split
  · have named : Walks lexicon text (some <$> blockName "slot name") middle fun _ _ => True :=
      .bind (blockName_walks _) fun _ _ _ _ => .pure trivial
    refine .bind named fun slot _ le₂ _ => .bind selfClosingEnd_walks fun _ stop le₃ _ => .pure ?_
    exact .of_body nofun takes.starts.marks trivial .nil (by omega)
  · refine .given (.bind selfClosingEnd_walks fun _ stop le₂ _ => .pure ?_)
    exact .of_body nofun takes.starts.marks trivial .nil (by omega)

theorem contentForBlock_walks (inner : WalksNodes lexicon text nested) :
    Walks lexicon text (contentForBlock nested) start (NodeAt lexicon text start) := by
  refine .bind (expect_walks _) fun token opened _ ⟨takes, _⟩ => ?_
  refine .bind (blockName_walks _) fun slot middle le₁ _ => ?_
  refine .bind (blockRest_walks inner) fun children stop le₂ body => .pure ?_
  have lt := takes.lt
  exact .of_children nofun takes.starts.marks trivial rfl
    (body.mono (by omega) (Nat.le_refl stop)) (by omega)

theorem layoutBlock_walks : Walks lexicon text layoutBlock start (NodeAt lexicon text start) := by
  refine .bind (expect_walks _) fun token opened _ ⟨takes, _⟩ => ?_
  refine .bind (blockName_walks _) fun path middle le₁ _ => ?_
  refine .bind selfClosingEnd_walks fun _ stop le₂ _ => .pure ?_
  have lt := takes.lt
  exact .of_body nofun takes.starts.marks trivial .nil (by omega)

/-! ## Embedded snippets -/

theorem actionSpan_walks : Walks lexicon text actionSpan start (NodeAt lexicon text start) := by
  refine .bind (expect_walks _) fun token opened _ ⟨takes, same⟩ => ?_
  refine .bind spanText_walks fun span _ _ ⟨place, inside, lt, stands⟩ => ?_
  refine .bind captured_walks fun action stop _ ⟨captured, le⟩ => .pure ?_
  obtain ⟨opens, rfl⟩ := takes.stands (by rw [same]; rfl)
  have spanned := spannedAt_of_captured place inside stands captured
  exact .of_body nofun takes.starts.marks ⟨opens, spanned⟩ .nil (by omega)

theorem printSpan_walks : Walks lexicon text printSpan start (NodeAt lexicon text start) := by
  refine .bind (expect_walks _) fun token opened _ ⟨takes, same⟩ => ?_
  refine .bind spanText_walks fun span _ _ ⟨place, inside, lt, stands⟩ => ?_
  refine .bind captured_walks fun action stop _ ⟨captured, le⟩ => ?_
  obtain ⟨opens, rfl⟩ := takes.stands (by rw [same]; rfl)
  have spanned := spannedAt_of_captured place inside stands captured
  split
  · exact .failAt _ _
  · exact .pure (.of_body nofun takes.starts.marks ⟨opens, spanned⟩ .nil (by omega))

/-! ## Markup -/

theorem commentMarkup_walks :
    Walks lexicon text commentMarkup start (NodeAt lexicon text start) :=
  enclosed_walks rfl rfl fun marks stands lt => .of_body nofun marks stands .nil lt

theorem cdataMarkup_walks : Walks lexicon text cdataMarkup start (NodeAt lexicon text start) :=
  enclosed_walks rfl rfl fun marks stands lt => .of_body nofun marks stands .nil lt

theorem doctypeMarkup_walks :
    Walks lexicon text doctypeMarkup start (NodeAt lexicon text start) := by
  refine .bind (expect_walks _) fun token opened _ ⟨takes, _⟩ => ?_
  refine .bind (expect_walks _) fun _ _ le₁ _ => .bind (expect_walks _) fun word _ le₂ _ => ?_
  have lt := takes.lt
  split
  · refine .bind tagEnd_walks fun _ stop le₃ _ => .pure ?_
    exact .of_body nofun takes.starts.marks trivial .nil (by omega)
  · exact .failAt _ _

/-! ## Attributes -/

/-- The name of an attribute is not empty, so there is a character where it starts. -/
theorem attributeName_walks :
    Walks lexicon text attributeName start fun _ _ => start < text.length := by
  refine .here (.bind (textWhile_walks _) fun name stop _ spans => ?_)
  split
  · refine .peekKind ?_
    split
    · exact .failHere _
    · exact .failAt _ _
  · rename_i nonempty
    refine .pure (spans.stands.inside fun empty => nonempty ?_)
    rw [String.isEmpty_iff, ← String.toList_eq_nil_iff]
    exact empty

/-- The parts of a value that are expressions stand before the delimiter that ends
them. -/
theorem attributeParts_walks (quote : TokenKind) (turns : Nat) :
    Walks lexicon text (attributeParts quote turns) start fun parts _ =>
      ∀ expression, .expression expression ∈ parts →
        ∃ offset, SpannedAt lexicon text offset expression := by
  induction turns generalizing start with
  | zero => exact .failHere _
  | succ turns ih =>
    refine .peekKind ?_
    split
    · exact .failHere _
    · split
      · exact .pure nofun
      · split
        · refine .bind take_walks fun _ opened _ _ => ?_
          refine .bind spanText_walks fun span _ _ ⟨place, inside, _, stands⟩ => ?_
          refine .bind captured_walks fun expression _ _ ⟨captured, _⟩ => ?_
          refine .bind ih fun parts _ _ rest => .pure fun sought mem => ?_
          rcases List.mem_cons.1 mem with first | mem
          · cases first
            exact ⟨opened, spannedAt_of_captured place inside stands captured⟩
          · exact rest sought mem
        · split
          · exact .bind commentSpan_walks fun _ _ _ _ => ih
          · split
            · exact .failHere _
            · split
              · exact .failUnexpected
              · refine .bind (textWhile_walks _) fun literal _ _ _ => ?_
                refine .bind ih fun parts _ _ rest => .pure fun sought mem => ?_
                rcases List.mem_cons.1 mem with first | mem
                · cases first
                · exact rest sought mem

theorem plainAttribute_walks :
    Walks lexicon text (plainAttribute (positionAt lexicon.tabWidth text start)) start
      fun item _ => item.Spelled lexicon text := by
  refine .bind attributeName_walks fun name _ _ inside => ?_
  refine .bind skipSpace_walks fun _ _ _ _ => .bind (eat_walks _) fun hasValue _ _ _ => ?_
  split
  · refine .bind skipSpace_walks fun _ _ _ _ => ?_
    refine .bind expectQuote_walks fun quote _ _ _ => .budget ?_
    refine .bind (attributeParts_walks quote _) fun parts _ _ spelled => ?_
    exact .bind (expect_walks _) fun _ _ _ _ => .pure ⟨start, ⟨inside, rfl⟩, spelled⟩
  · exact .pure ⟨start, ⟨inside, rfl⟩, trivial⟩

theorem boundValue_walks :
    Walks lexicon text boundValue start fun value _ =>
      ∀ offset < start, Quoted lexicon text offset value.1 value.2 := by
  refine .bind (expect_walks _) fun _ _ le _ => ?_
  refine .bind quotedValue_walks fun value _ _ ⟨stands, _⟩ => ?_
  refine .bind captured_walks fun expression _ _ ⟨⟨source, place⟩, _⟩ => .pure ?_
  have whole : value.text.toList = [] ++ expression.source.toList ++ [] := by
    rw [source, List.nil_append, List.append_nil]
  exact fun offset behind => stands.quoted (Nat.lt_of_lt_of_le behind le) whole nofun place

/-- An attribute in brackets, which starts at the opening one. -/
theorem bracketAttribute_walks {position : Position} {offset : Nat}
    (marks : Marks lexicon.tabWidth text position offset) (behind : offset < start) :
    Walks lexicon text (bracketAttribute position) start fun item _ =>
      item.Spelled lexicon text := by
  refine .bind (eat_walks _) fun isConditional _ le₁ _ => ?_
  split
  · refine .bind attributeName_walks fun name _ le₂ _ => ?_
    refine .bind boundValue_walks fun value _ _ quoted => .pure ?_
    exact ⟨offset, marks, quoted offset (by omega)⟩
  · refine .bind attributeName_walks fun name _ le₂ _ => ?_
    refine .bind (eat_walks _) fun appends _ le₃ _ => ?_
    split
    · refine .here (.bind (textWhile_walks _) fun suffix _ le₄ _ => ?_)
      split
      · exact .failAt _ _
      · refine .bind boundValue_walks fun value _ _ quoted => .pure ?_
        exact ⟨offset, marks, quoted offset (by omega)⟩
    · refine .bind boundValue_walks fun value _ _ quoted => .pure ?_
      exact ⟨offset, marks, quoted offset (by omega)⟩

theorem anyAttribute_walks :
    Walks lexicon text anyAttribute start fun item _ => item.Spelled lexicon text := by
  refine .here (.bind (eat_walks _) fun bracket opened _ ⟨inside, same⟩ => ?_)
  split
  · rename_i eaten
    obtain ⟨inside, behind⟩ := inside eaten
    exact bracketAttribute_walks ⟨inside, rfl⟩ behind
  · rename_i other
    rw [same (Bool.not_eq_true _ ▸ other)]
    exact plainAttribute_walks

theorem attributeList_walks (turns : Nat) :
    Walks lexicon text (attributeList turns) start fun attributes _ =>
      ∀ item ∈ attributes, item.Spelled lexicon text := by
  induction turns generalizing start with
  | zero => exact .failHere _
  | succ turns ih =>
    refine .sees (.sees ?_)
    split
    · exact .pure nofun
    · refine .bind anyAttribute_walks fun item _ _ first => ?_
      refine .bind skipSpace_walks fun _ _ _ _ => .bind ih fun attributes _ _ rest => .pure ?_
      exact List.forall_mem_cons.2 ⟨first, rest⟩

/-! ## Elements -/

/-- The text of a script or a style can be empty; it is a node at its offset if the
source goes on behind it. -/
theorem rawText_walks (tagName : String) :
    Walks lexicon text (rawText tagName) start fun node stop =>
      stop < text.length → NodeAt lexicon text start node (stop + 1) := by
  refine .here (.bind (textWhile_walks _) fun raw stop le spans => .pure fun inside => ?_)
  have marks : Marks lexicon.tabWidth text (positionAt lexicon.tabWidth text start) start :=
    ⟨Nat.lt_of_le_of_lt le inside, rfl⟩
  exact .of_body nofun marks spans.stands .nil (by omega)

theorem closingTag_walks (tagName : String) :
    Walks lexicon text (closingTag tagName) start fun _ stop =>
      start < text.length ∧ start < stop := by
  refine .bind (expect_walks _) fun token middle _ ⟨takes, _⟩ => ?_
  refine .bind tagEnd_walks fun _ stop le _ => ?_
  dsimp only
  split
  · exact .pure ⟨takes.inside, Nat.lt_of_lt_of_le takes.lt le⟩
  · exact .failAt _ _

theorem elementContent_walks (inner : WalksNodes lexicon text nested) (tagName : String) :
    Walks lexicon text (elementContent nested tagName) start fun children stop =>
      stop < text.length → BodyAt lexicon text start children (stop + 1) := by
  rw [elementContent]
  split
  · refine .bind (rawText_walks tagName) fun node stop _ raw => .pure fun inside => ?_
    exact .singleton (raw inside)
  · refine .budget ((nodesBefore_walks inner _ _).mono fun children stop _ body _ => ?_)
    exact body.mono (Nat.le_refl start) (Nat.le_succ stop)

theorem element_walks (inner : WalksNodes lexicon text nested) :
    Walks lexicon text (element nested) start (NodeAt lexicon text start) := by
  refine .bind (expect_walks _) fun token opened _ ⟨takes, same⟩ => ?_
  refine .bind skipSpace_walks fun _ o₁ le₁ _ => .budget ?_
  refine .bind (attributeList_walks _) fun attributes o₂ le₂ spelled => ?_
  refine .bind (eat_walks _) fun isSelfClosing o₃ le₃ _ => ?_
  refine .bind (expect_walks _) fun _ o₄ le₄ _ => ?_
  have lt := takes.lt
  obtain ⟨name, tagName⟩ := takes.starts.element same
  have stands : StandsAt text ('<' :: tagNameOf (text.drop (start + 1))) start :=
    name ▸ takes.starts.stands
  rw [tagName]
  dsimp only [Option.getD_some]
  split
  · exact .pure (.of_body nofun takes.starts.marks ⟨⟨_, stands, rfl, rfl⟩, spelled⟩ .nil (by omega))
  -- The closing tag shows that the source goes on behind the content.
  · refine .bind (elementContent_walks inner _) fun children o₅ le₅ content => ?_
    refine .bind (closingTag_walks _) fun _ stop le₆ ⟨inside, behind⟩ => .pure ?_
    exact .of_children nofun takes.starts.marks ⟨⟨_, stands, rfl, rfl⟩, spelled⟩ rfl
      ((content inside).mono (by omega) behind) (by omega)

/-! ## Text -/

/-- A run of text that starts with a token that belongs to it. -/
theorem textRun_walks {token : Token}
    (found : (cursorAt lexicon text start).token? lexicon = some token)
    (belongs : endsText token.kind = false) :
    Walks lexicon text textRun start (NodeAt lexicon text start) := by
  have first : (!endsText token.kind) = true := by
    rw [belongs]
    rfl
  refine .here (.bind (textWhile_progress found first) fun run stop _ ⟨spans, inside, lt⟩ => ?_)
  have marks : Marks lexicon.tabWidth text (positionAt lexicon.tabWidth text start) start :=
    ⟨inside, rfl⟩
  exact .pure (.of_body nofun marks spans.stands .nil lt)

theorem spaceRun_walks : Walks lexicon text spaceRun start (NodeAt lexicon text start) := by
  refine .bind take_walks fun token stop _ takes => .pure ?_
  exact .of_body nofun takes.starts.marks takes.starts.stands .nil takes.lt

/-- Where the next token ends no run of text, there is one, perhaps of an unknown
block. -/
theorem textOrUnknown_walks {kind : TokenKind}
    (found : Walks.kindAt lexicon text start = some kind) (belongs : endsText kind = false) :
    Walks lexicon text textOrUnknown start (NodeAt lexicon text start) := by
  obtain ⟨token, next, rfl⟩ := Option.map_eq_some_iff.1 found
  refine .settings (.peek ?_)
  split
  · split
    · exact .failAt _ _
    · exact textRun_walks next belongs
  · exact textRun_walks next belongs

/-! ## Nodes and documents -/

theorem nodeWith_walks (inner : WalksNodes lexicon text nested) :
    WalksNodes lexicon text (nodeWith nested) := by
  refine fun start => .peekKind ?_
  cases found : Walks.kindAt lexicon text start with
  | none => exact .failHere _
  | some kind =>
    cases kind with
    | scope => exact scopeBlock_walks inner
    | print => exact printBlock_walks inner
    | ifBlock => exact conditionalBlock_walks inner
    | switch => exact switchBlock_walks inner
    | foreach => exact foreachBlock_walks inner
    | whileBlock => exact loopBlock_walks inner
    | render => exact renderBlock_walks
    | renderContent => exact renderContentBlock_walks
    | contentFor => exact contentForBlock_walks inner
    | layout => exact .failHere _
    | expressionStart => exact actionSpan_walks
    | printExpressionStart => exact printSpan_walks
    | commentExpressionStart => exact commentSpan_walks
    | commentStart => exact commentMarkup_walks
    | cdataStart => exact cdataMarkup_walks
    | doctype => exact doctypeMarkup_walks
    | elementStart => exact element_walks inner
    | whitespace => exact spaceRun_walks
    | elseIf | elseBlock | case | defaultCase | blockClosingStart | expressionEnd |
      elementClosingStart => exact .failUnexpected
    | _ => exact textOrUnknown_walks found rfl

/-- **Nodes.**  A node that is read stands where it says, by induction on the depth
to which others can be nested in it. -/
theorem node_walks (depth : Nat) : WalksNodes lexicon text (node depth) := by
  induction depth with
  | zero => exact fun _ => .failHere _
  | succ depth ih => exact nodeWith_walks ih

end ViewTemplate.Document
