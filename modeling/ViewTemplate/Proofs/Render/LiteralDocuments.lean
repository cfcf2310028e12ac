import ViewTemplate.Proofs.Document.LiteralTexts
import ViewTemplate.Proofs.Render.StageTargets

/-!
# Documents that are rendered as they are written

Text, white space, comments and sections of character data are written to the output as
they stand in the source.  A document that holds nothing else is rendered to its source.

Each of these nodes takes exactly its own text from the source (`LiteralAt`), markers
included: text and white space are made of the tokens that were taken, and a comment or a
section stands between two tokens that are always written in the same way.  Of the other
nodes nothing has to be known but that they are others.  As the nodes of a document follow
one another up to the end of the source, their texts joined are the source, and the steps
that they are compiled to write just these texts.

## Main Definitions

* `Node.literal?` — the text that a node without content is written as
* `LiteralAt` — the text of a literal node stands between two offsets

## Main Results

* `parse_literal` — the texts of literal nodes, joined, are the source
* `renderString_literal` — a document of literal nodes is rendered to its source

-/

namespace ViewTemplate

open Template Text

/-- The text that a node stands for if it is written to the output as it is. -/
def Node.literal? : Node → Option String
  | text _ content => some content
  | whitespace _ content => some content
  | comment _ content => some ("<!--" ++ content ++ "-->")
  | cdata _ content => some ("<![CDATA[" ++ content ++ "]]>")
  | _ => none

/-! ## Reading -/

namespace Document

variable {lexicon : Lexicon} {text : List Char} {start stop : Nat} {nested : Reader Node}

/-- The text of a literal node stands from one offset to another. -/
def LiteralAt (text : List Char) (start : Nat) (node : Node) (stop : Nat) : Prop :=
  ∀ written ∈ node.literal?, Spans text written start stop

/-- A reader whose nodes are not literal. -/
theorem Walks.notLiteral {reader : Reader Node} {property : Node → Nat → Prop}
    (walks : Walks lexicon text reader start property)
    (other : Reads reader fun node => node.literal? = none) :
    Walks lexicon text reader start (LiteralAt text start) := by
  refine (walks.andReads other).mono fun node stop _ ⟨_, otherwise⟩ written literal => ?_
  rw [otherwise] at literal
  cases literal

/-- A text up to a token that is always written in the same way, with that token. -/
theorem textUpTo_spans {kind : TokenKind} {closer : String}
    (fixed : lexicon.spelling? kind = some closer.toList) :
    Walks lexicon text (textUpTo kind) start fun content stop =>
      Spans text (content ++ closer) start stop := by
  refine .bind (textWhile_walks _) fun content middle _ spans => ?_
  refine .bind (expect_walks kind) fun token stop _ ⟨takes, same⟩ => .pure ?_
  subst same
  obtain ⟨stands, length⟩ := takes.stands fixed
  exact spans.cons ⟨stands, length⟩

/-- A node that is a text between two tokens which are always written in the same way. -/
theorem enclosed_literal {opening closing : TokenKind} {opener closer : String}
    (fixedOpener : lexicon.spelling? opening = some opener.toList)
    (fixedCloser : lexicon.spelling? closing = some closer.toList)
    {build : Position → String → Node}
    (literal : ∀ position content,
      (build position content).literal? = some (opener ++ content ++ closer)) :
    Walks lexicon text (do
        let token ← expect opening
        return build token.position (← textUpTo closing))
      start (LiteralAt text start) := by
  refine .bind (expect_walks _) fun token opened _ ⟨takes, same⟩ => ?_
  refine .bind (textUpTo_spans fixedCloser) fun content stop _ spans => .pure ?_
  intro written found
  subst same
  obtain ⟨stands, length⟩ := takes.stands fixedOpener
  rw [literal] at found
  cases found
  rw [String.append_assoc]
  exact .cons ⟨stands, length⟩ spans

theorem textRun_literal : Walks lexicon text textRun start (LiteralAt text start) := by
  refine .here (.bind (textWhile_walks _) fun run stop _ spans => .pure ?_)
  rintro written ⟨⟩
  exact spans

theorem textOrUnknown_literal :
    Walks lexicon text textOrUnknown start (LiteralAt text start) := by
  refine .settings (.peek ?_)
  split
  · split
    · exact .failAt _ _
    · exact textRun_literal
  · exact textRun_literal

theorem spaceRun_literal : Walks lexicon text spaceRun start (LiteralAt text start) := by
  refine .bind take_walks fun token stop _ takes => .pure ?_
  rintro written ⟨⟩
  exact ⟨takes.starts.stands, takes.stop⟩

/-- A node whose reader was found by the kind of the next token. -/
theorem nodeWith_literal (inner : WalksNodes lexicon text nested) :
    Walks lexicon text (nodeWith nested) start (LiteralAt text start) := by
  refine .peekKind ?_
  cases Walks.kindAt lexicon text start with
  | none => exact .failHere _
  | some kind =>
    cases kind with
    | scope =>
      exact (scopeBlock_walks inner).notLiteral (.after fun _ => .after fun _ => .pure rfl)
    | print =>
      refine (printBlock_walks inner).notLiteral (.after fun _ => .after fun _ => ?_)
      refine .after fun _ => .after fun _ => ?_
      split
      · exact .after fun _ => .after fun _ => .after fun _ => .pure rfl
      · refine .after fun _ => ?_
        split
        · exact .after fun _ => .pure rfl
        · exact .after fun _ => .after fun _ => .pure rfl
    | ifBlock =>
      refine (conditionalBlock_walks inner).notLiteral (.after fun _ => .after fun _ => ?_)
      exact .after fun _ => .pure rfl
    | switch =>
      refine (switchBlock_walks inner).notLiteral (.after fun _ => .after fun _ => ?_)
      refine .after fun _ => .after fun _ => .after fun _ => ?_
      exact .after fun _ => .after fun _ => .pure rfl
    | foreach =>
      refine (foreachBlock_walks inner).notLiteral (.after fun _ => .after fun _ => ?_)
      refine .after fun _ => .after fun _ => .after fun _ => .after fun _ => ?_
      refine .after fun _ => .after fun _ => .after fun _ => .after fun _ => ?_
      refine .after fun _ => .after fun _ => .after fun _ => .after fun _ => ?_
      exact .after fun _ => .pure rfl
    | whileBlock => exact (loopBlock_walks inner).notLiteral (.after fun _ => .pure rfl)
    | render =>
      refine renderBlock_walks.notLiteral (.after fun _ => .after fun _ => .after fun _ => ?_)
      refine .after fun _ => ?_
      split
      · exact .after fun _ => .after fun _ => .pure rfl
      · exact .after fun _ => .pure rfl
    | renderContent =>
      refine renderContentBlock_walks.notLiteral (.after fun _ => .after fun _ => ?_)
      refine .after fun _ => ?_
      split
      · exact .after fun _ => .after fun _ => .pure rfl
      · exact .given (.after fun _ => .pure rfl)
    | contentFor =>
      refine (contentForBlock_walks inner).notLiteral (.after fun _ => .after fun _ => ?_)
      exact .after fun _ => .pure rfl
    | layout => exact .failHere _
    | expressionStart =>
      refine actionSpan_walks.notLiteral (.after fun _ => .after fun _ => ?_)
      exact .after fun _ => .pure rfl
    | printExpressionStart =>
      refine printSpan_walks.notLiteral (.after fun _ => .after fun _ => .after fun _ => ?_)
      split
      · exact .failAt _ _
      · exact .pure rfl
    | commentExpressionStart =>
      exact commentSpan_walks.notLiteral (.after fun _ => .after fun _ => .pure rfl)
    | commentStart => exact enclosed_literal rfl rfl fun _ _ => rfl
    | cdataStart => exact enclosed_literal rfl rfl fun _ _ => rfl
    | doctype =>
      refine doctypeMarkup_walks.notLiteral (.after fun _ => .after fun _ => .after fun _ => ?_)
      split
      · exact .after fun _ => .pure rfl
      · exact .failAt _ _
    | elementStart =>
      refine (element_walks inner).notLiteral (.after fun _ => .after fun _ => .after fun _ => ?_)
      refine .after fun _ => .after fun _ => .after fun _ => ?_
      split
      · exact .pure rfl
      · exact .after fun _ => .after fun _ => .pure rfl
    | whitespace => exact spaceRun_literal
    | elseIf | elseBlock | case | defaultCase | blockClosingStart | expressionEnd |
      elementClosingStart => exact .failUnexpected
    | _ => exact textOrUnknown_literal

theorem node_literal (depth : Nat) :
    Walks lexicon text (node depth) start (LiteralAt text start) := by
  cases depth with
  | zero => exact .failHere _
  | succ depth => exact nodeWith_literal (node_walks depth)

/-- Nodes up to the end of a text stand between two offsets if all of them are literal,
and the second one is the end. -/
theorem nodesToEnd_literal (inner : ∀ start,
      Walks lexicon text nested start (LiteralAt text start)) (turns : Nat) :
    Walks lexicon text (nodesToEnd nested turns) start fun nodes stop =>
      text.length ≤ stop ∧ ∀ pieces : List String, nodes.map Node.literal? = pieces.map some →
        Spans text (String.join pieces) start stop := by
  induction turns generalizing start with
  | zero => exact .failHere _
  | succ turns ih =>
    refine .peekKind ?_
    split
    · rename_i last
      refine .pure ⟨?_, fun pieces same => ?_⟩
      · have none := Option.map_eq_none_iff.1 (Option.isNone_iff_eq_none.1 last)
        exact length_le_of_token?_eq_none none
      · rw [List.map_eq_nil_iff.1 same.symm]
        exact .nil
    · refine .bind (inner start) fun node middle _ first => ?_
      refine .bind ih fun nodes stop _ ⟨last, rest⟩ => .pure ⟨last, fun pieces same => ?_⟩
      cases pieces with
      | nil => cases same
      | cons piece pieces =>
        obtain ⟨literal, same⟩ := List.cons.inj same
        rw [String.join_cons]
        exact (first piece literal).cons (rest pieces same)

/-- The texts of a document whose nodes are all literal, joined, are the text that it was
read from. -/
theorem document_literal :
    Walks lexicon text document 0 fun document _ =>
      ∀ pieces : List String, document.nodes.map Node.literal? = pieces.map some →
        (String.join pieces).toList = text := by
  refine .sees ?_
  split
  · have other : Reads layoutBlock fun node => node.literal? = none :=
      .after fun _ => .after fun _ => .after fun _ => .pure rfl
    refine .bind (layoutBlock_walks.andReads other) fun layout _ _ ⟨_, otherwise⟩ => ?_
    refine .given (.budget (.budget ?_))
    refine .bind (nodesToEnd_literal (fun _ => node_literal _) _) ?_
    refine fun nodes _ _ _ => .pure fun pieces same => ?_
    cases pieces with
    | nil => cases same
    | cons piece pieces =>
      have literal : layout.literal? = some piece := (List.cons.inj same).1
      rw [otherwise] at literal
      cases literal
  · refine .given (.budget (.budget ?_))
    refine .bind (nodesToEnd_literal (fun _ => node_literal _) _) ?_
    refine fun nodes stop _ ⟨last, spans⟩ => .pure fun pieces same => ?_
    obtain ⟨stands, length⟩ := spans pieces same
    rw [Nat.zero_add] at length
    exact stands.eq_of_length_le (length ▸ last)

/-- **Literal nodes tile the source.**  The texts of a document whose nodes are all literal,
joined, are its source, in which a carriage return before a line feed does not count. -/
theorem parse_literal {options : LexicalOptions} {source : String}
    {document : ViewTemplate.Document} (parsed : parse options source = .ok document)
    {pieces : List String} (literal : document.nodes.map Node.literal? = pieces.map some) :
    String.join pieces = String.ofList (replaceAll source.toList ['\r', '\n'] ['\n']) := by
  obtain ⟨_, joined⟩ := document_literal.of_parse parsed
  rw [← joined pieces literal, String.ofList_toList]

end Document

/-! ## Rendering -/

variable (environment : Environment)

/-- The texts of nodes that are all literal. -/
theorem pieces_of_literal {nodes : List Node} (literal : ∀ node ∈ nodes, node.literal?.isSome) :
    ∃ pieces : List String, nodes.map Node.literal? = pieces.map some := by
  refine ⟨nodes.filterMap Node.literal?, ?_⟩
  have all : ∀ written ∈ nodes.map Node.literal?, written.isSome = true :=
    List.forall_mem_map.2 literal
  rw [List.map_filterMap_some_eq_filter_map_isSome, List.filter_eq_self.2 all]

/-- A literal node is compiled to a step that writes its text. -/
theorem lowerNode_literal {node : Node} {written : String}
    (literal : node.literal? = some written) :
    ∃ step, lowerNode node = .ok [step] ∧ ∀ calls origin state,
      (executeStep environment calls origin step).run.run state
        = (.ok (), state.write written) := by
  cases node with
  | text position content | whitespace position content =>
    cases literal
    exact ⟨.text written, rfl, fun _ _ _ => rfl⟩
  | comment position content =>
    cases literal
    exact ⟨.comment content, rfl, fun _ _ _ => rfl⟩
  | cdata position content =>
    cases literal
    exact ⟨.cdata content, rfl, fun _ _ _ => rfl⟩
  | _ => cases literal

/-- Literal nodes are compiled to steps that write their texts one behind the other. -/
theorem lowerNodes_literal {nodes : List Node} {pieces : List String}
    (literal : nodes.map Node.literal? = pieces.map some) :
    ∃ steps, lowerNode.lowerNodes nodes = .ok steps ∧ ∀ calls origin state,
      (executeSteps environment calls origin steps).run.run state
        = (.ok (), state.write (String.join pieces)) := by
  induction nodes generalizing pieces with
  | nil =>
    rw [List.map_eq_nil_iff.1 literal.symm]
    refine ⟨[], rfl, fun calls origin state => ?_⟩
    rw [state.write_join_nil]
    rfl
  | cons node nodes ih =>
    cases pieces with
    | nil => cases literal
    | cons piece pieces =>
      obtain ⟨first, rest⟩ := List.cons.inj literal
      obtain ⟨step, lowered, writes⟩ := lowerNode_literal environment first
      obtain ⟨steps, lowered', writes'⟩ := ih rest
      refine ⟨step :: steps, ?_, fun calls origin state => ?_⟩
      · rw [lowerNode.lowerNodes, lowered, lowered']
        rfl
      · rw [executeSteps_cons, run_bind, writes, state.write_join_cons]
        exact writes' calls origin (state.write piece)

/-- The program of a document of literal nodes writes their texts. -/
theorem compile_literal {document : Document} {pieces : List String}
    (literal : document.nodes.map Node.literal? = pieces.map some) :
    ∃ steps, document.compile = .ok ⟨steps⟩ ∧ ∀ origin state,
      (environment.execute origin steps).run.run state
        = (.ok (), state.write (String.join pieces)) := by
  obtain ⟨nodes⟩ := document
  obtain ⟨steps, lowered, writes⟩ := lowerNodes_literal environment literal
  refine ⟨steps, ?_, fun origin state => writes _ origin state⟩
  rw [Document.compile]
  split
  · rename_i position path rest first
    cases pieces with
    | nil =>
      rw [first] at literal
      cases literal
    | cons piece pieces =>
      rw [first] at literal
      cases (List.cons.inj literal).1
  · rw [lowered]
    rfl

/-- **Literal documents are rendered to themselves.**  If every node of a source is text,
white space, a comment or a section of character data, then with any context and whatever
was rendered before, the source is rendered as it is written, in which a carriage return
before a line feed does not count. -/
theorem renderString_literal {source : String} {document : Document}
    (parsed : Document.parse environment.options.lexical source = .ok document)
    (literal : ∀ node ∈ document.nodes, node.literal?.isSome)
    (noLayout : environment.options.defaultLayout = none) (context : Value) (store : ViewStore) :
    ((environment.renderString source context).run.run store).1
      = .ok (String.ofList (replaceAll source.toList ['\r', '\n'] ['\n'])) := by
  obtain ⟨pieces, texts⟩ := pieces_of_literal literal
  obtain ⟨steps, compiles, writes⟩ := compile_literal environment texts
  rw [← Document.parse_literal parsed texts]
  have compiled : environment.compileSource Environment.sourceName source = .ok ⟨steps⟩ := by
    rw [Environment.compileSource, parsed]
    show (document.compile).mapError _ = _
    rw [compiles]
    rfl
  exact renderString_eq_ok compiled writes noLayout context store

/-- A comment before a line end of two characters, and character data with a bracket in it. -/
theorem renderString_literal_line_end :
    let environment : Environment :=
      { options := {}, source := .memory [], functions := fun _ _ => .ok .null }
    let source := "<!-- a -->\r\n <![CDATA[b < c]]> d"
    (∃ document, Document.parse {} source = .ok document ∧
        ∀ node ∈ document.nodes, node.literal?.isSome) ∧
      ((environment.renderString source .undefined).run.run {}).1
        = .ok "<!-- a -->\n <![CDATA[b < c]]> d" := by
  intro environment source
  have read : ((Document.parse {} source).toOption.map fun document =>
      document.nodes.all (·.literal?.isSome)) = some true := by
    decide +kernel
  cases parsed : Document.parse {} source with
  | error error =>
    rw [parsed] at read
    cases read
  | ok document =>
    rw [parsed] at read
    have literal := List.all_eq_true.1 (Option.some.inj read)
    have rendered := renderString_literal environment parsed literal rfl .undefined {}
    refine ⟨⟨document, rfl, literal⟩, rendered.trans (congrArg Except.ok ?_)⟩
    decide

end ViewTemplate
