import ViewTemplate.Proofs.Document.Positions
import ViewTemplate.Proofs.Document.Reading

/-!
# Literal texts in documents

What a source holds where a document has a literal text.  Outside of scripts and styles a
text is a run of whole tokens: it begins with the first token of a node, and it goes on up
to a token that ends texts, or to the end of the source (`TextAt`).

Only one reader returns such texts, and all others hand on those of the nodes inside.  So
the statement about each production is that the texts in its node are literal if those in
the nodes inside are (`TextsAt`), and the induction over the depth of nesting comes last.

## Main Definitions

* `TokensAt` — tokens stand one behind the other, from one offset to another
* `TextAt` — a text is a run of tokens that is as long as it can be
* `Node.OccursAsMarkup` — a node occurs among others, outside of scripts and styles
* `TextsAt` — the texts among nodes stand where they say

## Main Results

* `parse_texts` — every text of a document is literal in its source

-/

namespace ViewTemplate

open Template Text

/-! ## Nodes outside of scripts and styles -/

/-- Whether the content of a node is raw text. -/
def Node.holdsRaw : Node → Bool
  | .element _ tag _ => Document.rawTextElements.contains tag.name
  | _ => false

/-- **A node occurs among others**, but not in the raw text of an element. -/
inductive Node.OccursAsMarkup (sought : Node) : List Node → Prop where
  | here {nodes : List Node} (mem : sought ∈ nodes) : OccursAsMarkup sought nodes
  | child {nodes : List Node} {node : Node} (mem : node ∈ nodes) (read : node.holdsRaw = false)
      (occurs : OccursAsMarkup sought node.children) : OccursAsMarkup sought nodes
  | alternate {nodes : List Node} {node : Node} (mem : node ∈ nodes)
      (occurs : OccursAsMarkup sought node.alternate?.toList) : OccursAsMarkup sought nodes

theorem Node.not_occursAsMarkup_nil {sought : Node} : ¬ sought.OccursAsMarkup [] := by
  rintro (mem | ⟨mem, -, -⟩ | ⟨mem, -⟩) <;> exact absurd mem List.not_mem_nil

theorem Node.occursAsMarkup_singleton {sought node : Node} :
    sought.OccursAsMarkup [node] ↔
      sought = node ∨ (node.holdsRaw = false ∧ sought.OccursAsMarkup node.children)
        ∨ sought.OccursAsMarkup node.alternate?.toList := by
  constructor
  · rintro (mem | ⟨mem, read, occurs⟩ | ⟨mem, occurs⟩)
    · exact .inl (List.mem_singleton.1 mem)
    · obtain rfl := List.mem_singleton.1 mem
      exact .inr (.inl ⟨read, occurs⟩)
    · obtain rfl := List.mem_singleton.1 mem
      exact .inr (.inr occurs)
  · rintro (rfl | ⟨read, occurs⟩ | occurs)
    · exact .here (List.mem_singleton_self _)
    · exact .child (List.mem_singleton_self _) read occurs
    · exact .alternate (List.mem_singleton_self _) occurs

namespace Document

variable {lexicon : Lexicon} {text : List Char} {start middle stop : Nat}

/-! ## Runs of tokens -/

/-- **Tokens stand one behind the other**, from one offset to another. -/
inductive TokensAt (lexicon : Lexicon) (text : List Char) : Nat → List Token → Nat → Prop where
  | nil (start : Nat) : TokensAt lexicon text start [] start
  | cons {start middle stop : Nat} {token : Token} {tokens : List Token}
      (takes : Takes lexicon text token start middle)
      (others : TokensAt lexicon text middle tokens stop) :
      TokensAt lexicon text start (token :: tokens) stop

/-- A run of tokens is made of those that belong to it, up to one that does not. -/
structure RunAt (lexicon : Lexicon) (text : List Char) (belongs : Token → Bool) (start : Nat)
    (tokens : List Token) (stop : Nat) : Prop where
  follow : TokensAt lexicon text start tokens stop
  belong : ∀ token ∈ tokens, belongs token = true
  ends : ∀ token, (cursorAt lexicon text stop).token? lexicon = some token →
    belongs token = false

theorem textsWhile_run (belongs : Token → Bool) (turns : Nat) :
    Walks lexicon text (textsWhile belongs turns) start fun pieces stop =>
      ∃ tokens, RunAt lexicon text belongs start tokens stop ∧ pieces = tokens.map (·.text) := by
  induction turns generalizing start with
  | zero => exact .failHere _
  | succ turns ih =>
    refine .peek ?_
    cases found : (cursorAt lexicon text start).token? lexicon with
    | none => exact .pure ⟨[], ⟨.nil start, nofun, by simp [found]⟩, rfl⟩
    | some token =>
      dsimp only
      split
      · rename_i first
        refine .bind take_walks fun taken middle _ takes => ?_
        have same : taken = token := Option.some.inj (takes.found.symm.trans found)
        subst same
        refine .bind ih fun pieces stop _ ⟨tokens, run, texts⟩ => .pure ?_
        refine ⟨taken :: tokens, ⟨.cons takes run.follow, ?_, run.ends⟩, by rw [texts]; rfl⟩
        exact List.forall_mem_cons.2 ⟨first, run.belong⟩
      · rename_i other
        refine .pure ⟨[], ⟨.nil start, nofun, fun next same => ?_⟩, rfl⟩
        obtain rfl := Option.some.inj (found.symm.trans same)
        exact Bool.not_eq_true _ ▸ other

theorem textWhile_run (belongs : Token → Bool) :
    Walks lexicon text (textWhile belongs) start fun value stop =>
      ∃ tokens, RunAt lexicon text belongs start tokens stop
        ∧ value = String.join (tokens.map (·.text)) := by
  refine .budget (.bind (textsWhile_run belongs _) fun pieces stop _ ⟨tokens, run, texts⟩ => ?_)
  exact .pure ⟨tokens, run, by rw [texts]⟩

/-- **A literal text**: it stands at its position as a run of tokens that end no text, up to
one that does, and the first one is no unknown block. -/
def TextAt (lexicon : Lexicon) (text : List Char) (position : Position) (content : String) :
    Prop :=
  ∃ offset tokens stop, Marks lexicon.tabWidth text position offset
    ∧ RunAt lexicon text (fun token => !endsText token.kind) offset tokens stop
    ∧ content = String.join (tokens.map (·.text))
    ∧ ∃ first others, tokens = first :: others ∧ isUnknownBlock lexicon first = false

/-! ## Nodes with literal texts -/

/-- **The texts in nodes are literal**, but for those of scripts and styles. -/
def TextsAt (lexicon : Lexicon) (text : List Char) (nodes : List Node) : Prop :=
  ∀ position content, (Node.text position content).OccursAsMarkup nodes →
    TextAt lexicon text position content

namespace TextsAt

variable {node : Node} {nodes nodes' : List Node}

theorem of_forall (each : ∀ node ∈ nodes, TextsAt lexicon text [node]) :
    TextsAt lexicon text nodes := by
  rintro position content (mem | ⟨mem, read, occurs⟩ | ⟨mem, occurs⟩)
  · exact each _ mem position content (.here (List.mem_singleton_self _))
  · exact each _ mem position content (.child (List.mem_singleton_self _) read occurs)
  · exact each _ mem position content (.alternate (List.mem_singleton_self _) occurs)

theorem of_mem (literal : TextsAt lexicon text nodes) (mem : node ∈ nodes) :
    TextsAt lexicon text [node] := by
  rintro position content (among | ⟨among, read, occurs⟩ | ⟨among, occurs⟩)
  · exact literal position content (.here (List.mem_singleton.1 among ▸ mem))
  · exact literal position content (.child (List.mem_singleton.1 among ▸ mem) read occurs)
  · exact literal position content (.alternate (List.mem_singleton.1 among ▸ mem) occurs)

theorem nil : TextsAt lexicon text [] :=
  .of_forall nofun

theorem cons (first : TextsAt lexicon text [node]) (others : TextsAt lexicon text nodes) :
    TextsAt lexicon text (node :: nodes) :=
  .of_forall (List.forall_mem_cons.2 ⟨first, fun _ => others.of_mem⟩)

theorem append (first : TextsAt lexicon text nodes) (second : TextsAt lexicon text nodes') :
    TextsAt lexicon text (nodes ++ nodes') :=
  .of_forall (List.forall_mem_append.2 ⟨fun _ => first.of_mem, fun _ => second.of_mem⟩)

/-- A node that is no text itself has those of the nodes inside and of the branch behind
it. -/
theorem of_parts (other : ∀ position content, node ≠ .text position content)
    (inside : node.holdsRaw = false → TextsAt lexicon text node.children)
    (behind : TextsAt lexicon text node.alternate?.toList) : TextsAt lexicon text [node] := by
  intro position content occurs
  obtain same | ⟨read, occurs⟩ | occurs := Node.occursAsMarkup_singleton.1 occurs
  · exact absurd same.symm (other position content)
  · exact inside read position content occurs
  · exact behind position content occurs

end TextsAt

/-- A reader of nodes with literal texts. -/
def ReadsTexts (lexicon : Lexicon) (text : List Char) (nested : Reader Node) : Prop :=
  ∀ start, Walks lexicon text nested start fun node _ => TextsAt lexicon text [node]

/-! ## Bodies of blocks -/

variable {nested : Reader Node}

theorem nodesBefore_texts (inner : ReadsTexts lexicon text nested) (kind : TokenKind)
    (turns : Nat) :
    Walks lexicon text (nodesBefore nested kind turns) start fun nodes _ =>
      TextsAt lexicon text nodes := by
  induction turns generalizing start with
  | zero => exact .failHere _
  | succ turns ih =>
    refine .sees ?_
    split
    · exact .pure .nil
    · refine .bind (inner start) fun node _ _ first => ?_
      exact .bind ih fun nodes _ _ others => .pure (.cons first others)

theorem blockBody_texts (inner : ReadsTexts lexicon text nested) :
    Walks lexicon text (blockBody nested) start fun nodes _ => TextsAt lexicon text nodes := by
  refine .budget (.bind (nodesBefore_texts inner _ _) fun nodes _ _ literal => ?_)
  exact .bind (expect_walks _) fun _ _ _ _ => .bind tagEnd_walks fun _ _ _ _ => .pure literal

theorem blockRest_texts (inner : ReadsTexts lexicon text nested) :
    Walks lexicon text (blockRest nested) start fun nodes _ => TextsAt lexicon text nodes :=
  .bind tagEnd_walks fun _ _ _ _ => blockBody_texts inner

theorem branch_texts (inner : ReadsTexts lexicon text nested) (opener : TokenKind) :
    Walks lexicon text (branch nested opener) start fun found _ =>
      TextsAt lexicon text found.children := by
  refine .bind (expect_walks _) fun _ _ _ _ => .bind blockExpression_walks fun _ _ _ _ => ?_
  exact .bind (blockRest_texts inner) fun children _ _ literal => .pure literal

/-! ## Blocks -/

theorem scopeBlock_texts (inner : ReadsTexts lexicon text nested) :
    ReadsTexts lexicon text (scopeBlock nested) := by
  refine fun start => .bind (expect_walks _) fun _ _ _ _ => ?_
  refine .bind (blockRest_texts inner) fun children _ _ literal => .pure ?_
  exact .of_parts nofun (fun _ => literal) .nil

theorem printBlock_texts (inner : ReadsTexts lexicon text nested) :
    ReadsTexts lexicon text (printBlock nested) := by
  refine fun start => .bind (expect_walks _) fun _ _ _ _ => ?_
  refine .bind blockExpression_walks fun _ _ _ _ => .bind skipSpace_walks fun _ _ _ _ => .sees ?_
  split
  · refine .bind parameterList_walks fun _ _ _ _ => .bind (expect_walks _) fun _ _ _ _ => ?_
    refine .bind (blockBody_texts inner) fun children _ _ literal => .pure ?_
    exact .of_parts nofun (fun _ => literal) .nil
  · refine .bind (eat_walks _) fun closed _ _ _ => ?_
    split
    · refine .bind (expect_walks _) fun _ _ _ _ => .pure ?_
      exact .of_parts nofun (fun _ => .nil) .nil
    · refine .bind (expect_walks _) fun _ _ _ _ => ?_
      refine .bind (blockBody_texts inner) fun children _ _ literal => .pure ?_
      exact .of_parts nofun (fun _ => literal) .nil

theorem alternate_texts (inner : ReadsTexts lexicon text nested) (admitsElseIf : Bool)
    (turns : Nat) :
    Walks lexicon text (alternate nested admitsElseIf turns) start fun next _ =>
      TextsAt lexicon text next.toList := by
  induction turns generalizing start admitsElseIf with
  | zero => exact .failHere _
  | succ turns ih =>
    refine .peekKind ?_
    split
    · exact .bind take_walks fun _ _ _ _ => ih admitsElseIf
    · exact .bind commentSpan_walks fun _ _ _ _ => ih admitsElseIf
    · split
      · refine .bind (branch_texts inner _) fun found _ _ literal => ?_
        refine .bind (ih true) fun next _ _ others => .pure ?_
        exact .of_parts nofun (fun _ => literal) others
      · exact .pure .nil
    · refine .bind (expect_walks _) fun _ _ _ _ => ?_
      refine .bind (blockRest_texts inner) fun children _ _ literal => .pure ?_
      exact .of_parts nofun (fun _ => literal) .nil
    · exact .pure .nil

theorem conditionalBlock_texts (inner : ReadsTexts lexicon text nested) :
    ReadsTexts lexicon text (conditionalBlock nested) := by
  refine fun start => .bind (branch_texts inner _) fun found _ _ literal => .budget ?_
  refine .bind (alternate_texts inner true _) fun next _ _ others => .pure ?_
  exact .of_parts nofun (fun _ => literal) others

/-- The texts in the cases of a choice are literal. -/
structure Cases.TextsAt (lexicon : Lexicon) (text : List Char) (found : Cases) : Prop where
  cases : ∀ case ∈ found.cases, Document.TextsAt lexicon text case.children
  fallback : ∀ other ∈ found.fallback, Document.TextsAt lexicon text other.2

theorem switchCases_texts (inner : ReadsTexts lexicon text nested) (turns : Nat)
    {found : Cases} (sofar : found.TextsAt lexicon text) :
    Walks lexicon text (switchCases nested turns found) start fun all _ =>
      all.TextsAt lexicon text := by
  induction turns generalizing start found with
  | zero => exact .failHere _
  | succ turns ih =>
    refine .peekKind ?_
    split
    · exact .failHere _
    · exact .pure sofar
    · exact .bind take_walks fun _ _ _ _ => ih sofar
    · exact .bind commentSpan_walks fun _ _ _ _ => ih sofar
    · refine .bind (branch_texts inner _) fun case _ _ literal => ih ⟨?_, sofar.fallback⟩
      exact List.forall_mem_append.2 ⟨sofar.cases, List.forall_mem_singleton.2 literal⟩
    · split
      · exact .failHere _
      · refine .bind (expect_walks _) fun _ _ _ _ => ?_
        refine .bind (blockRest_texts inner) fun children _ _ literal => ih ⟨sofar.cases, ?_⟩
        rintro _ ⟨⟩
        exact literal
    · exact .failUnexpected

theorem switchBlock_texts (inner : ReadsTexts lexicon text nested) :
    ReadsTexts lexicon text (switchBlock nested) := by
  refine fun start => .bind (expect_walks _) fun _ _ _ _ => ?_
  refine .bind blockExpression_walks fun _ _ _ _ => .bind tagEnd_walks fun _ _ _ _ => .budget ?_
  refine .bind (switchCases_texts inner _ ⟨nofun, nofun⟩) fun found _ _ literal => ?_
  refine .bind (expect_walks _) fun _ _ _ _ => .bind tagEnd_walks fun _ _ _ _ => .pure ?_
  refine .of_parts nofun (fun _ => .append (.of_forall fun node mem => ?_) ?_) .nil
  · obtain ⟨case, among, mem⟩ := List.mem_flatMap.1 mem
    exact (literal.cases case among).of_mem mem
  · cases last : found.fallback with
    | none => exact .nil
    | some other => exact literal.fallback other last

theorem foreachBlock_texts (inner : ReadsTexts lexicon text nested) :
    ReadsTexts lexicon text (foreachBlock nested) := by
  refine fun start => .bind (expect_walks _) fun _ _ _ _ => .bind skipSpace_walks fun _ _ _ _ => ?_
  refine .bind (expect_walks _) fun _ _ _ _ => .bind skipSpace_walks fun _ _ _ _ => ?_
  refine .bind expectQuote_walks fun quote _ _ ⟨isQuote, _⟩ => .budget ?_
  refine .bind (loopNames_walks _ []) fun _ _ _ _ => .bind loopWord_walks fun _ _ _ _ => ?_
  refine .bind skipSpace_walks fun _ _ _ _ => .here ?_
  refine .bind (textUpTo_walks (spelling?_of_isQuote isQuote)) fun _ _ _ _ => ?_
  refine .bind captured_walks fun _ _ _ _ => ?_
  refine .bind (blockRest_texts inner) fun children _ _ literal => .budget ?_
  refine .bind (alternate_texts inner false _) fun next _ _ others => .pure ?_
  exact .of_parts nofun (fun _ => literal) others

theorem loopBlock_texts (inner : ReadsTexts lexicon text nested) :
    ReadsTexts lexicon text (loopBlock nested) := by
  refine fun start => .bind (branch_texts inner _) fun found _ _ literal => .pure ?_
  exact .of_parts nofun (fun _ => literal) .nil

theorem contentForBlock_texts (inner : ReadsTexts lexicon text nested) :
    ReadsTexts lexicon text (contentForBlock nested) := by
  refine fun start => .bind (expect_walks _) fun _ _ _ _ => .bind (blockName_walks _) ?_
  refine fun _ _ _ _ => .bind (blockRest_texts inner) fun children _ _ literal => .pure ?_
  exact .of_parts nofun (fun _ => literal) .nil

/-! ## Elements -/

/-- The content of an element, unless that is raw text. -/
theorem elementContent_texts (inner : ReadsTexts lexicon text nested) (tagName : String) :
    Walks lexicon text (elementContent nested tagName) start fun children _ =>
      rawTextElements.contains tagName = false → TextsAt lexicon text children := by
  rw [elementContent]
  split
  · rename_i raw
    refine .bind (rawText_walks tagName) fun node _ _ _ => .pure fun other => ?_
    rw [raw] at other
    cases other
  · exact .budget ((nodesBefore_texts inner _ _).mono fun _ _ _ literal _ => literal)

theorem element_texts (inner : ReadsTexts lexicon text nested) :
    ReadsTexts lexicon text (element nested) := by
  refine fun start => .bind (expect_walks _) fun token _ _ _ => ?_
  refine .bind skipSpace_walks fun _ _ _ _ => .budget ?_
  refine .bind (attributeList_walks _) fun _ _ _ _ => .bind (eat_walks _) fun _ _ _ _ => ?_
  refine .bind (expect_walks _) fun _ _ _ _ => ?_
  dsimp only
  split
  · exact .pure (.of_parts nofun (fun _ => .nil) .nil)
  · refine .bind (elementContent_texts inner _) fun children _ _ literal => ?_
    refine .bind (closingTag_walks _) fun _ _ _ _ => .pure ?_
    exact .of_parts nofun literal .nil

/-! ## Nodes without others -/

/-- Whether a node is of a kind that is no text and has no other nodes. -/
def isLeaf : Node → Bool
  | .whitespace .. | .comment .. | .cdata .. | .doctype .. | .render .. | .renderContent ..
  | .action .. | .printAction .. | .commentSpan .. | .layout .. => true
  | _ => false

/-- What a reader returns has a property from wherever it is read. -/
theorem Walks.andReads {α : Type} {reader : Reader α} {property : α → Nat → Prop}
    {always : α → Prop} (walks : Walks lexicon text reader start property)
    (reads : Reads reader always) :
    Walks lexicon text reader start fun value stop => property value stop ∧ always value := by
  intro delimiters result returned
  obtain ⟨stop, forward, same, h⟩ := walks delimiters result returned
  exact ⟨stop, forward, same, h, reads lexicon _ result returned⟩

/-- A leaf has no texts. -/
theorem TextsAt.of_leaf {node : Node} (leaf : isLeaf node = true) :
    TextsAt lexicon text [node] := by
  cases node with
  | whitespace | comment | cdata | doctype | render | renderContent | action | printAction
    | commentSpan | layout => exact .of_parts nofun (fun _ => .nil) .nil
  | _ => cases leaf

theorem readsTexts_of_leaf {reader : Reader Node}
    (walks : ∀ start, Walks lexicon text reader start (NodeAt lexicon text start))
    (leaf : Reads reader fun node => isLeaf node = true) : ReadsTexts lexicon text reader :=
  fun start => ((walks start).andReads leaf).mono fun _ _ _ found => .of_leaf found.2

theorem renderBlock_leaf : Reads renderBlock fun node => isLeaf node = true := by
  refine .after fun _ => .after fun _ => .after fun _ => .after fun context => ?_
  split
  · exact .after fun _ => .after fun _ => .pure rfl
  · exact .after fun _ => .pure rfl

theorem renderContentBlock_leaf : Reads renderContentBlock fun node => isLeaf node = true := by
  refine .after fun _ => .after fun _ => .after fun named => ?_
  split
  · exact .after fun _ => .after fun _ => .pure rfl
  · exact .given (.after fun _ => .pure rfl)

theorem printSpan_leaf : Reads printSpan fun node => isLeaf node = true := by
  refine .after fun _ => .after fun _ => .after fun action => ?_
  split
  · exact .failAt _ _
  · exact .pure rfl

theorem doctypeMarkup_leaf : Reads doctypeMarkup fun node => isLeaf node = true := by
  refine .after fun _ => .after fun _ => .after fun word => ?_
  split
  · exact .after fun _ => .pure rfl
  · exact .failAt _ _

/-! ## Texts -/

/-- A run of text is literal where it begins with a token that belongs to it and opens no
unknown block. -/
theorem textRun_texts {first : Token}
    (found : (cursorAt lexicon text start).token? lexicon = some first)
    (belongs : endsText first.kind = false) (known : isUnknownBlock lexicon first = false) :
    Walks lexicon text textRun start fun node _ => TextsAt lexicon text [node] := by
  refine .here (.bind (textWhile_run _) fun value stop _ ⟨tokens, run, joined⟩ => .pure ?_)
  have inside : start < text.length := lt_length_of_token?_eq_some found
  have begins : ∃ others, tokens = first :: others := by
    obtain ⟨follow, -, ends⟩ := run
    cases follow with
    | nil =>
      have other := ends first found
      rw [belongs] at other
      cases other
    | cons takes others =>
      exact ⟨_, by rw [Option.some.inj (takes.found.symm.trans found)]⟩
  obtain ⟨others, same⟩ := begins
  intro position content occurs
  obtain only | ⟨-, none⟩ | none := Node.occursAsMarkup_singleton.1 occurs
  · cases only
    exact ⟨start, tokens, stop, ⟨inside, rfl⟩, run, joined, first, others, same, known⟩
  · exact absurd none Node.not_occursAsMarkup_nil
  · exact absurd none Node.not_occursAsMarkup_nil

theorem textOrUnknown_texts {kind : TokenKind}
    (found : Walks.kindAt lexicon text start = some kind) (belongs : endsText kind = false) :
    Walks lexicon text textOrUnknown start fun node _ => TextsAt lexicon text [node] := by
  obtain ⟨token, next, rfl⟩ := Option.map_eq_some_iff.1 found
  refine .settings (.peek ?_)
  rw [next]
  dsimp only
  split
  · exact .failAt _ _
  · rename_i known
    exact textRun_texts next belongs (Bool.not_eq_true _ ▸ known)

/-! ## Nodes and documents -/

theorem nodeWith_texts (inner : ReadsTexts lexicon text nested) :
    ReadsTexts lexicon text (nodeWith nested) := by
  refine fun start => .peekKind ?_
  cases found : Walks.kindAt lexicon text start with
  | none => exact .failHere _
  | some kind =>
    cases kind with
    | scope => exact scopeBlock_texts inner start
    | print => exact printBlock_texts inner start
    | ifBlock => exact conditionalBlock_texts inner start
    | switch => exact switchBlock_texts inner start
    | foreach => exact foreachBlock_texts inner start
    | whileBlock => exact loopBlock_texts inner start
    | contentFor => exact contentForBlock_texts inner start
    | elementStart => exact element_texts inner start
    | render => exact readsTexts_of_leaf (fun _ => renderBlock_walks) renderBlock_leaf start
    | renderContent =>
      exact readsTexts_of_leaf (fun _ => renderContentBlock_walks) renderContentBlock_leaf start
    | expressionStart =>
      exact readsTexts_of_leaf (fun _ => actionSpan_walks)
        (.after fun _ => .after fun _ => .after fun _ => .pure rfl) start
    | printExpressionStart =>
      exact readsTexts_of_leaf (fun _ => printSpan_walks) printSpan_leaf start
    | commentExpressionStart =>
      exact readsTexts_of_leaf (fun _ => commentSpan_walks)
        (.after fun _ => .after fun _ => .pure rfl) start
    | commentStart =>
      exact readsTexts_of_leaf (fun _ => commentMarkup_walks)
        (.after fun _ => .after fun _ => .pure rfl) start
    | cdataStart =>
      exact readsTexts_of_leaf (fun _ => cdataMarkup_walks)
        (.after fun _ => .after fun _ => .pure rfl) start
    | doctype => exact readsTexts_of_leaf (fun _ => doctypeMarkup_walks) doctypeMarkup_leaf start
    | whitespace =>
      exact readsTexts_of_leaf (fun _ => spaceRun_walks) (.after fun _ => .pure rfl) start
    | layout => exact .failHere _
    | elseIf | elseBlock | case | defaultCase | blockClosingStart | expressionEnd |
      elementClosingStart => exact .failUnexpected
    | _ => exact textOrUnknown_texts found rfl

/-- **Nodes.**  The texts in a node that is read are literal, by induction on the depth to
which others can be nested in it. -/
theorem node_texts (depth : Nat) : ReadsTexts lexicon text (node depth) := by
  induction depth with
  | zero => exact fun _ => .failHere _
  | succ depth ih => exact nodeWith_texts ih

theorem nodesToEnd_texts (inner : ReadsTexts lexicon text nested) (turns : Nat) :
    Walks lexicon text (nodesToEnd nested turns) start fun nodes _ =>
      TextsAt lexicon text nodes := by
  induction turns generalizing start with
  | zero => exact .failHere _
  | succ turns ih =>
    refine .peekKind ?_
    split
    · exact .pure .nil
    · refine .bind (inner start) fun node _ _ first => ?_
      exact .bind ih fun nodes _ _ others => .pure (.cons first others)

theorem document_texts :
    Walks lexicon text document start fun document _ => TextsAt lexicon text document.nodes := by
  refine .sees ?_
  split
  · have declared : ReadsTexts lexicon text layoutBlock :=
      readsTexts_of_leaf (fun _ => layoutBlock_walks)
        (.after fun _ => .after fun _ => .after fun _ => .pure rfl)
    refine .bind (declared start) fun layout _ _ first => .given (.budget (.budget ?_))
    refine .bind (nodesToEnd_texts (node_texts _) _) fun nodes _ _ others => .pure ?_
    exact .cons first others
  · refine .given (.budget (.budget ?_))
    exact .bind (nodesToEnd_texts (node_texts _) _) fun nodes _ _ literal => .pure literal

/-- **Every text of a document is literal** in the source that was parsed, unless it is the
text of a script or a style. -/
theorem parse_texts {options : LexicalOptions} {source : String}
    {document : ViewTemplate.Document} (parsed : parse options source = .ok document) :
    TextsAt options.lexicon (replaceAll source.toList ['\r', '\n'] ['\n']) document.nodes := by
  obtain ⟨_, literal⟩ := document_texts.of_parse parsed
  exact literal

end Document

end ViewTemplate
