import ViewTemplate.Proofs.Document.Positions

/-!
# Places where nodes are expected

Where in a source the next thing to be read is a node.  The places are given step by step,
from the start of the source: behind a node there is such a place, and so there is behind
an opening tag.  Between the branches of a block and between the cases of a choice there
is none, but the steps lead through them to the nodes inside (`Expects`).

Nothing is ever read twice and no fault is caught.  So what is found at a place decides
about the source: a part of a document that is expected somewhere fails with the fault of
what is read there, and from step to step that goes back to the document (`Expects.fails`).

## Main Definitions

* `Runs`, `FailsWith` — what a reader does at an offset of a text
* `ComesTo` — a reader fails with whatever another one fails with further on
* `Moves`, `OpensBody` — steps beside each other and into a body
* `Expects` — what is expected at an offset

## Main Results

* `Expects.fails` — the fault of an expected part is that of the document

-/

namespace ViewTemplate.Document

open Template Text

variable {α β γ : Type} {lexicon : Lexicon} {text : List Char} {start middle stop : Nat}

/-! ## Runs and failures -/

/-- A reader runs from one offset of a text to another and returns a value. -/
def Runs (lexicon : Lexicon) (text : List Char) (reader : Reader α) (start : Nat) (value : α)
    (stop : Nat) : Prop :=
  (reader.run lexicon).run (cursorAt lexicon text start)
    = .ok (value, cursorAt lexicon text stop)

/-- A reader fails at an offset of a text. -/
def FailsWith (lexicon : Lexicon) (text : List Char) (reader : Reader α) (start : Nat)
    (error : ParseError) : Prop :=
  (reader.run lexicon).run (cursorAt lexicon text start) = .error error

/-- **A reader comes to another one**: it fails with whatever that one fails with at its
offset. -/
def ComesTo (lexicon : Lexicon) (text : List Char) (reader : Reader α) (start : Nat)
    (later : Reader β) (stop : Nat) : Prop :=
  ∀ error, FailsWith lexicon text later stop error → FailsWith lexicon text reader start error

namespace ComesTo

variable {reader : Reader α} {later : Reader β}

theorem refl (reader : Reader α) : ComesTo lexicon text reader start reader start :=
  fun _ failed => failed

theorem trans {between : Reader γ} (h : ComesTo lexicon text reader start between middle)
    (h' : ComesTo lexicon text between middle later stop) :
    ComesTo lexicon text reader start later stop :=
  fun error failed => h error (h' error failed)

/-- What the first part comes to, a sequence comes to. -/
theorem first {next : α → Reader γ} (h : ComesTo lexicon text reader start later stop) :
    ComesTo lexicon text (reader >>= next) start later stop := by
  intro error failed
  show ((reader.run lexicon).run (cursorAt lexicon text start)).bind _ = _
  rw [h error failed]
  rfl

/-- A part that runs is passed. -/
theorem after {value : α} {next : α → Reader γ} (runs : Runs lexicon text reader start value middle)
    (h : ComesTo lexicon text (next value) middle later stop) :
    ComesTo lexicon text (reader >>= next) start later stop := by
  intro error failed
  show ((reader.run lexicon).run (cursorAt lexicon text start)).bind _ = _
  rw [runs]
  exact h error failed

theorem peek {next : Option Token → Reader γ}
    (h : ComesTo lexicon text (next ((cursorAt lexicon text start).token? lexicon)) start later
      stop) : ComesTo lexicon text (Document.peek >>= next) start later stop :=
  h

theorem peekKind {next : Option TokenKind → Reader γ}
    (h : ComesTo lexicon text (next (Walks.kindAt lexicon text start)) start later stop) :
    ComesTo lexicon text (Document.peekKind >>= next) start later stop :=
  h

theorem sees {kind : TokenKind} {next : Bool → Reader γ}
    (h : ComesTo lexicon text (next (decide (Walks.kindAt lexicon text start = some kind))) start
      later stop) : ComesTo lexicon text (Document.sees kind >>= next) start later stop :=
  h

theorem budget {next : Nat → Reader γ}
    (h : ComesTo lexicon text (next ((text.drop start).length + 1)) start later stop) :
    ComesTo lexicon text (Document.budget >>= next) start later stop :=
  h

theorem settings {next : Lexicon → Reader γ}
    (h : ComesTo lexicon text (next lexicon) start later stop) :
    ComesTo lexicon text (read >>= next) start later stop :=
  h

end ComesTo

/-- A run goes as far as it is known to. -/
theorem Runs.forward {reader : Reader α} {value : α} {property : α → Nat → Prop}
    (runs : Runs lexicon text reader start value stop) (delimiters : lexicon.HasDelimiters)
    (walks : Walks lexicon text reader start property) :
    ∃ stop', start ≤ stop' ∧ text.length - stop' = text.length - stop ∧ property value stop' := by
  obtain ⟨stop', forward, same, h⟩ := walks delimiters _ runs
  refine ⟨stop', forward, ?_, h⟩
  have left : (text.drop stop).length = (text.drop stop').length :=
    congrArg (fun cursor => cursor.rest.length) same
  rw [List.length_drop, List.length_drop] at left
  exact left.symm

/-- The first part of a sequence that runs has run. -/
theorem Runs.begun {reader : Reader α} {next : α → Reader β} {value : β}
    (runs : Runs lexicon text (reader >>= next) start value stop) :
    ∃ result, (reader.run lexicon).run (cursorAt lexicon text start) = .ok result := by
  have whole : ((reader.run lexicon).run (cursorAt lexicon text start)).bind
      (fun result => ((next result.1).run lexicon).run result.2)
        = .ok (value, cursorAt lexicon text stop) := runs
  cases ran : (reader.run lexicon).run (cursorAt lexicon text start) with
  | error error =>
    rw [ran] at whole
    cases whole
  | ok result => exact ⟨result, rfl⟩

/-- A run that begins with a token of a kind begins where one stands. -/
theorem Runs.kindAt {kind : TokenKind} {next : Token → Reader α} {value : α}
    (runs : Runs lexicon text (expect kind >>= next) start value stop)
    (delimiters : lexicon.HasDelimiters) : Walks.kindAt lexicon text start = some kind := by
  obtain ⟨result, ran⟩ := runs.begun
  obtain ⟨_, -, -, takes, same⟩ := expect_walks kind delimiters result ran
  rw [Walks.kindAt, takes.found, Option.map_some, same]

/-! ## Opening tags -/

variable {nested : Reader Node}

/-- The opening tag of a block without a value. -/
def plainOpening (kind : TokenKind) : Reader Token := do
  let token ← expect kind
  tagEnd
  return token

/-- The opening tag of a block with an expression as its value. -/
def conditionOpening (kind : TokenKind) : Reader (Token × Expression) := do
  let token ← expect kind
  let condition ← blockExpression
  tagEnd
  return (token, condition)

/-- The opening tag of a block with content for a slot. -/
def slotOpening : Reader (Token × String) := do
  let token ← expect .contentFor
  let slot ← blockName "slot name"
  tagEnd
  return (token, slot)

/-- The opening tag of a print block, with its parameters unless it closes itself. -/
def printOpening : Reader (Token × Expression × Option (List String)) := do
  let token ← expect .print
  let expression ← blockExpression
  skipSpace
  if ← sees .blockAttribute then
    let parameters ← parameterList
    let _ ← expect .rightAngleBrace
    return (token, expression, some parameters)
  else if ← eat .forwardSlash then
    let _ ← expect .rightAngleBrace
    return (token, expression, none)
  else
    let _ ← expect .rightAngleBrace
    return (token, expression, some [])

/-- The opening tag of a loop over a collection. -/
def loopOpening : Reader (Token × List String × Expression) := do
  let token ← expect .foreach
  skipSpace
  let _ ← expect .equals
  skipSpace
  let quote ← expectQuote
  let names ← loopNames (← budget) []
  loopWord
  skipSpace
  let position ← here
  let text ← textUpTo quote
  let collection ← captured (captureExpression (Text.trim text) position)
  tagEnd
  return (token, names, collection)

/-- The opening tag of an element. -/
def elementOpening : Reader (Token × Tag) := do
  let token ← expect .elementStart
  let tagName := token.tagName.getD ""
  skipSpace
  let attributes ← attributeList (← budget)
  let isSelfClosing ← eat .forwardSlash
  let _ ← expect .rightAngleBrace
  return (token, ⟨tagName, isVoidElement tagName, isSelfClosing, attributes⟩)

theorem plainBlock_eq (kind : TokenKind) (next : Token → List Node → Reader γ) :
    (expect kind >>= fun token => blockRest nested >>= next token)
      = plainOpening kind >>= fun token => blockBody nested >>= next token := by
  simp only [plainOpening, blockRest, bind_assoc, pure_bind]

theorem branch_eq (kind : TokenKind) : branch nested kind = do
    let (token, condition) ← conditionOpening kind
    return ⟨token.position, condition, ← blockBody nested⟩ := by
  simp only [branch, conditionOpening, blockRest, bind_assoc, pure_bind]

theorem contentForBlock_eq : contentForBlock nested = do
    let (token, slot) ← slotOpening
    return .contentFor token.position slot (← blockBody nested) := by
  simp only [contentForBlock, slotOpening, blockRest, bind_assoc, pure_bind]

theorem foreachBlock_eq : foreachBlock nested = do
    let (token, names, collection) ← loopOpening
    let children ← blockBody nested
    return .foreach token.position names collection children
      (← alternate nested false (← budget)) := by
  simp only [foreachBlock, loopOpening, blockRest, bind_assoc, pure_bind]

theorem conditionalBlock_eq : conditionalBlock nested = do
    let (token, condition) ← conditionOpening .ifBlock
    let children ← blockBody nested
    return .conditional token.position condition children
      (← alternate nested true (← budget)) := by
  simp only [conditionalBlock, branch_eq, bind_assoc, pure_bind]

theorem loopBlock_eq : loopBlock nested = do
    let (token, condition) ← conditionOpening .whileBlock
    return .loop token.position condition (← blockBody nested) := by
  simp only [loopBlock, branch_eq, bind_assoc, pure_bind]

theorem switchBlock_eq : switchBlock nested = do
    let (token, expression) ← conditionOpening .switch
    let found ← switchCases nested (← budget) {}
    let _ ← expect .blockClosingStart
    tagEnd
    return .switch token.position expression found.cases found.fallback := by
  simp only [switchBlock, conditionOpening, bind_assoc, pure_bind]

theorem printBlock_eq : printBlock nested = do
    let (token, expression, parameters) ← printOpening
    match parameters with
    | none => return .print token.position expression none
    | some names => return .print token.position expression (some (names, ← blockBody nested)) := by
  simp only [printBlock, printOpening, bind_assoc]
  refine bind_congr fun token => bind_congr fun expression => bind_congr fun _ =>
    bind_congr fun listed => ?_
  cases listed with
  | true => simp only [if_true, bind_assoc, pure_bind]
  | false =>
    simp only [Bool.false_eq_true, if_false, bind_assoc]
    refine bind_congr fun closed => ?_
    cases closed <;> simp only [Bool.false_eq_true, if_false, if_true, bind_assoc, pure_bind]

theorem element_eq : element nested = do
    let (token, tag) ← elementOpening
    if tag.isVoid || tag.isSelfClosing then
      return .element token.position tag []
    else
      let children ← elementContent nested tag.name
      closingTag tag.name
      return .element token.position tag children := by
  simp only [element, elementOpening, bind_assoc, pure_bind]

/-! ## Parts of documents -/

/-- What ends nodes that stand side by side. -/
inductive Closing where
  | source
  | block
  | element

/-- Nodes side by side, up to their end. -/
def nodesUpTo (nested : Reader Node) (turns : Nat) : Closing → Reader (List Node)
  | .source => nodesToEnd nested turns
  | .block => nodesBefore nested .blockClosingStart turns
  | .element => nodesBefore nested .elementClosingStart turns

/-- A part of a document of which more can be read. -/
inductive Part where
  /-- Nodes that stand side by side. -/
  | nodes (closing : Closing)
  /-- The branches of a block. -/
  | branches (admitsElseIf : Bool)
  /-- The cases of a choice. -/
  | cases (hasDefault : Bool)

/-- White space or an embedded comment stands between branches or cases. -/
inductive Interlude (lexicon : Lexicon) (text : List Char) (start stop : Nat) : Prop where
  | space {token : Token} (found : Walks.kindAt lexicon text start = some .whitespace)
      (runs : Runs lexicon text take start token stop)
  | comment {node : Node} (runs : Runs lexicon text commentSpan start node stop)

/-- **Steps on one level.**  A piece of a part is read, and what is expected behind it
belongs to the same block or is a later part of the block that was begun. -/
inductive Moves (lexicon : Lexicon) (text : List Char) (nested : Reader Node) :
    Part → Nat → Part → Nat → Prop where
  | node {closing : Closing} {start stop : Nat} {node : Node}
      (runs : Runs lexicon text (nodeWith nested) start node stop) :
      Moves lexicon text nested (.nodes closing) start (.nodes closing) stop
  | conditional {closing : Closing} {start stop : Nat} {found : Branch Node}
      (runs : Runs lexicon text (branch nested .ifBlock) start found stop) :
      Moves lexicon text nested (.nodes closing) start (.branches true) stop
  | foreach {closing : Closing} {start middle stop : Nat}
      {opened : Token × List String × Expression} {children : List Node}
      (opens : Runs lexicon text loopOpening start opened middle)
      (runs : Runs lexicon text (blockBody nested) middle children stop) :
      Moves lexicon text nested (.nodes closing) start (.branches false) stop
  | switch {closing : Closing} {start stop : Nat} {opened : Token × Expression}
      (runs : Runs lexicon text (conditionOpening .switch) start opened stop) :
      Moves lexicon text nested (.nodes closing) start (.cases false) stop
  | betweenBranches {admitsElseIf : Bool} {start stop : Nat}
      (between : Interlude lexicon text start stop) :
      Moves lexicon text nested (.branches admitsElseIf) start (.branches admitsElseIf) stop
  | elseIf {start stop : Nat} {found : Branch Node}
      (runs : Runs lexicon text (branch nested .elseIf) start found stop) :
      Moves lexicon text nested (.branches true) start (.branches true) stop
  | betweenCases {hasDefault : Bool} {start stop : Nat} (between : Interlude lexicon text start stop) :
      Moves lexicon text nested (.cases hasDefault) start (.cases hasDefault) stop
  | case {hasDefault : Bool} {start stop : Nat} {found : Branch Node}
      (runs : Runs lexicon text (branch nested .case) start found stop) :
      Moves lexicon text nested (.cases hasDefault) start (.cases hasDefault) stop
  | defaultCase {start middle stop : Nat} {opened : Token} {children : List Node}
      (opens : Runs lexicon text (plainOpening .defaultCase) start opened middle)
      (runs : Runs lexicon text (blockBody nested) middle children stop) :
      Moves lexicon text nested (.cases false) start (.cases true) stop

/-- **Steps into a body.**  An opening tag is read, and nodes are expected behind it. -/
inductive OpensBody (lexicon : Lexicon) (text : List Char) : Part → Nat → Closing → Nat → Prop where
  | scope {closing : Closing} {start stop : Nat} {opened : Token}
      (runs : Runs lexicon text (plainOpening .scope) start opened stop) :
      OpensBody lexicon text (.nodes closing) start .block stop
  | print {closing : Closing} {start stop : Nat} {token : Token} {expression : Expression}
      {parameters : List String}
      (runs : Runs lexicon text printOpening start (token, expression, some parameters) stop) :
      OpensBody lexicon text (.nodes closing) start .block stop
  | conditional {closing : Closing} {start stop : Nat} {opened : Token × Expression}
      (runs : Runs lexicon text (conditionOpening .ifBlock) start opened stop) :
      OpensBody lexicon text (.nodes closing) start .block stop
  | loop {closing : Closing} {start stop : Nat} {opened : Token × Expression}
      (runs : Runs lexicon text (conditionOpening .whileBlock) start opened stop) :
      OpensBody lexicon text (.nodes closing) start .block stop
  | foreach {closing : Closing} {start stop : Nat} {opened : Token × List String × Expression}
      (runs : Runs lexicon text loopOpening start opened stop) :
      OpensBody lexicon text (.nodes closing) start .block stop
  | contentFor {closing : Closing} {start stop : Nat} {opened : Token × String}
      (runs : Runs lexicon text slotOpening start opened stop) :
      OpensBody lexicon text (.nodes closing) start .block stop
  | element {closing : Closing} {start stop : Nat} {token : Token} {tag : Tag}
      (runs : Runs lexicon text elementOpening start (token, tag) stop)
      (closes : (tag.isVoid || tag.isSelfClosing) = false)
      (read : rawTextElements.contains tag.name = false) :
      OpensBody lexicon text (.nodes closing) start .element stop
  | elseIf {start stop : Nat} {opened : Token × Expression}
      (runs : Runs lexicon text (conditionOpening .elseIf) start opened stop) :
      OpensBody lexicon text (.branches true) start .block stop
  | elseBlock {admitsElseIf : Bool} {start stop : Nat} {opened : Token}
      (runs : Runs lexicon text (plainOpening .elseBlock) start opened stop) :
      OpensBody lexicon text (.branches admitsElseIf) start .block stop
  | case {hasDefault : Bool} {start stop : Nat} {opened : Token × Expression}
      (runs : Runs lexicon text (conditionOpening .case) start opened stop) :
      OpensBody lexicon text (.cases hasDefault) start .block stop
  | defaultCase {start stop : Nat} {opened : Token}
      (runs : Runs lexicon text (plainOpening .defaultCase) start opened stop) :
      OpensBody lexicon text (.cases false) start .block stop

/-- **What is expected at an offset**: a part of the document, where other nodes can be
nested in its nodes up to a given depth. -/
inductive Expects (lexicon : Lexicon) (text : List Char) : Nat → Part → Nat → Prop where
  | start (other : Walks.kindAt lexicon text 0 ≠ some .layout) :
      Expects lexicon text text.length (.nodes .source) 0
  | layout {stop : Nat} {node : Node} (runs : Runs lexicon text layoutBlock 0 node stop) :
      Expects lexicon text (text.length - stop) (.nodes .source) stop
  | moves {depth start stop : Nat} {part next : Part}
      (place : Expects lexicon text depth part start)
      (moves : Moves lexicon text (node depth) part start next stop) :
      Expects lexicon text depth next stop
  | opens {depth start stop : Nat} {part : Part} {closing : Closing}
      (place : Expects lexicon text (depth + 1) part start)
      (opens : OpensBody lexicon text part start closing stop) :
      Expects lexicon text depth (.nodes closing) stop

/-! ## What a part fails with -/

/-- A part fails, where its nodes are read by `nodeWith nested`, and so are those inside
the bodies of its blocks by `nested`. -/
def Part.Fails (lexicon : Lexicon) (text : List Char) (nested : Reader Node) (turns start : Nat)
    (error : ParseError) : Part → Prop
  | .nodes closing => FailsWith lexicon text (nodesUpTo (nodeWith nested) turns closing) start error
  | .branches admitsElseIf =>
    FailsWith lexicon text (alternate nested admitsElseIf turns) start error
  | .cases hasDefault => ∀ found : Cases, found.fallback.isSome = hasDefault →
    FailsWith lexicon text (switchCases nested turns found) start error

theorem blockBody_comesTo :
    ComesTo lexicon text (blockBody nested) start
      (nodesUpTo nested ((text.drop start).length + 1) .block) start :=
  .budget (.first (.refl _))

/-- Nodes are not read at a closing tag. -/
def closes : TokenKind → Bool
  | .blockClosingStart | .elementClosingStart => true
  | _ => false

/-- Where a token stands that closes nothing, the next of the nodes is read. -/
theorem nodesUpTo_comesTo {kind : TokenKind} {turns : Nat} {closing : Closing} {later : Reader β}
    (found : Walks.kindAt lexicon text start = some kind) (other : closes kind = false)
    (h : ComesTo lexicon text (do
        let node ← nested
        return node :: (← nodesUpTo nested turns closing)) start later stop) :
    ComesTo lexicon text (nodesUpTo nested (turns + 1) closing) start later stop := by
  cases closing with
  | source =>
    refine .peekKind ?_
    rw [found]
    exact h
  | block | element =>
    refine .sees ?_
    rw [found, if_neg (by rintro same; cases of_decide_eq_true same; cases other)]
    exact h

/-- An unexpected token is always a fault. -/
theorem failUnexpected_fails :
    ∃ error, FailsWith lexicon text (failUnexpected : Reader α) start error := by
  cases found : (cursorAt lexicon text start).token? lexicon with
  | none =>
    have comes : ComesTo lexicon text (failUnexpected : Reader α) start
        (failHere .endOfSource : Reader α) start := .peek (by rw [found]; exact .refl _)
    exact ⟨_, comes _ rfl⟩
  | some token =>
    have comes : ComesTo lexicon text (failUnexpected : Reader α) start
        (failAt token.position (.unexpected (describe token)) : Reader α) start :=
      .peek (by rw [found]; exact .refl _)
    exact ⟨_, comes _ rfl⟩

/-- Where a node is read a token stands that closes nothing. -/
theorem Runs.opened {node : Node} (runs : Runs lexicon text (nodeWith nested) start node stop) :
    ∃ kind, Walks.kindAt lexicon text start = some kind ∧ closes kind = false := by
  cases found : Walks.kindAt lexicon text start with
  | none =>
    have comes : ComesTo lexicon text (nodeWith nested) start
        (failHere .endOfSource : Reader Node) start := by
      refine .peekKind ?_
      rw [found]
      exact .refl _
    cases runs.symm.trans (comes _ rfl)
  | some kind =>
    refine ⟨kind, rfl, Bool.eq_false_iff.2 fun closing => ?_⟩
    have comes : ComesTo lexicon text (nodeWith nested) start
        (failUnexpected : Reader Node) start := by
      refine .peekKind ?_
      rw [found]
      cases kind with
      | blockClosingStart | elementClosingStart => exact .refl _
      | _ => cases closing
    obtain ⟨error, failed⟩ := @failUnexpected_fails Node lexicon text start
    cases runs.symm.trans (comes error failed)

/-! ## Steps -/

/-- The number of turns behind an offset is enough for what is left of the text. -/
theorem length_lt_budget (stop : Nat) : text.length - stop < (text.drop stop).length + 1 := by
  rw [List.length_drop]
  exact Nat.lt_succ_self _

theorem branch_comesTo {kind : TokenKind} {opened : Token × Expression}
    (runs : Runs lexicon text (conditionOpening kind) start opened stop) :
    ComesTo lexicon text (branch nested kind) start
      (nodesUpTo nested ((text.drop stop).length + 1) .block) stop := by
  rw [branch_eq]
  exact .after runs (.first blockBody_comesTo)

/-- A block without a value comes to its nodes. -/
theorem plainBlock_comesTo {kind : TokenKind} {opened : Token} {next : Token → List Node → Reader γ}
    (runs : Runs lexicon text (plainOpening kind) start opened stop) :
    ComesTo lexicon text (expect kind >>= fun token => blockRest nested >>= next token) start
      (nodesUpTo nested ((text.drop stop).length + 1) .block) stop := by
  rw [plainBlock_eq]
  exact .after runs (.first blockBody_comesTo)

/-- The production of a token that opens a block with nodes inside. -/
def blockOf (nested : Reader Node) : TokenKind → Option (Reader Node)
  | .scope => some (scopeBlock nested)
  | .print => some (printBlock nested)
  | .ifBlock => some (conditionalBlock nested)
  | .switch => some (switchBlock nested)
  | .foreach => some (foreachBlock nested)
  | .whileBlock => some (loopBlock nested)
  | .contentFor => some (contentForBlock nested)
  | .elementStart => some (element nested)
  | _ => none

/-- Where such a token stands, what its production comes to decides about the nodes. -/
theorem block_comesTo {kind : TokenKind} {turns : Nat} {closing : Closing}
    {production : Reader Node} {later : Reader β}
    (found : Walks.kindAt lexicon text start = some kind)
    (opens : blockOf nested kind = some production)
    (comes : ComesTo lexicon text production start later stop) :
    ComesTo lexicon text (nodesUpTo (nodeWith nested) (turns + 1) closing) start later stop := by
  have chosen : closes kind = false ∧ ComesTo lexicon text (nodeWith nested) start production
      start := by
    cases kind <;> cases opens
    all_goals
      refine ⟨rfl, .peekKind ?_⟩
      rw [found]
      exact .refl _
  exact nodesUpTo_comesTo found chosen.1 (.first (chosen.2.trans comes))

/-- **A step into a body** hands the faults on. -/
theorem OpensBody.fails {part : Part} {closing : Closing} {turns : Nat}
    (delimiters : lexicon.HasDelimiters) (opens : OpensBody lexicon text part start closing stop)
    (error : ParseError)
    (failed : FailsWith lexicon text
      (nodesUpTo nested ((text.drop stop).length + 1) closing) stop error) :
    part.Fails lexicon text nested (turns + 1) start error := by
  cases opens with
  | scope runs =>
    have found := runs.kindAt delimiters
    exact block_comesTo found rfl (plainBlock_comesTo runs) error failed
  | print runs =>
    have found := runs.kindAt delimiters
    refine block_comesTo found rfl ?_ error failed
    rw [printBlock_eq]
    exact .after runs (.first blockBody_comesTo)
  | conditional runs =>
    have found := runs.kindAt delimiters
    refine block_comesTo found rfl ?_ error failed
    rw [conditionalBlock_eq]
    exact .after runs (.first blockBody_comesTo)
  | loop runs =>
    have found := runs.kindAt delimiters
    refine block_comesTo found rfl ?_ error failed
    rw [loopBlock_eq]
    exact .after runs (.first blockBody_comesTo)
  | foreach runs =>
    have found := runs.kindAt delimiters
    refine block_comesTo found rfl ?_ error failed
    rw [foreachBlock_eq]
    exact .after runs (.first blockBody_comesTo)
  | contentFor runs =>
    have found := runs.kindAt delimiters
    refine block_comesTo found rfl ?_ error failed
    rw [contentForBlock_eq]
    exact .after runs (.first blockBody_comesTo)
  | element runs other read =>
    have found := runs.kindAt delimiters
    refine block_comesTo found rfl ?_ error failed
    rw [element_eq]
    refine .after runs ?_
    dsimp only
    rw [if_neg (by rw [other]; decide), elementContent, if_neg (by rw [read]; decide)]
    exact .first (.budget (.refl _))
  | elseIf runs =>
    have found := runs.kindAt delimiters
    have comes : ComesTo lexicon text (alternate nested true (turns + 1)) start
        (branch nested .elseIf) start := by
      refine .peekKind ?_
      rw [found]
      exact .first (.refl _)
    exact comes.trans (branch_comesTo runs) error failed
  | @elseBlock admitsElseIf _ _ _ runs =>
    have found := runs.kindAt delimiters
    have comes : ComesTo lexicon text (alternate nested admitsElseIf (turns + 1)) start
        (nodesUpTo nested ((text.drop stop).length + 1) .block) stop := by
      refine .peekKind ?_
      rw [found]
      exact plainBlock_comesTo runs
    exact comes error failed
  | case runs =>
    have found := runs.kindAt delimiters
    intro cases _
    have comes : ComesTo lexicon text (switchCases nested (turns + 1) cases) start
        (branch nested .case) start := by
      refine .peekKind ?_
      rw [found]
      exact .first (.refl _)
    exact comes.trans (branch_comesTo runs) error failed
  | defaultCase runs =>
    have found := runs.kindAt delimiters
    intro cases first
    have comes : ComesTo lexicon text (switchCases nested (turns + 1) cases) start
        (nodesUpTo nested ((text.drop stop).length + 1) .block) stop := by
      refine .peekKind ?_
      rw [found]
      dsimp only
      rw [if_neg (by rw [first]; decide)]
      exact plainBlock_comesTo runs
    exact comes error failed

/-- A run that takes something leaves less of the text. -/
theorem Runs.lessLeft {reader : Reader α} {value : α} {property : α → Nat → Prop}
    {kind : TokenKind} (runs : Runs lexicon text reader start value stop)
    (delimiters : lexicon.HasDelimiters) (walks : Walks lexicon text reader start property)
    (found : Walks.kindAt lexicon text start = some kind)
    (takes : ∀ value stop, property value stop → start < stop) :
    text.length - stop < text.length - start := by
  obtain ⟨stop', -, same, h⟩ := runs.forward delimiters walks
  obtain ⟨token, stands, -⟩ := Option.map_eq_some_iff.1 found
  have inside : start < text.length := lt_length_of_token?_eq_some stands
  have lt : start < stop' := takes value stop' h
  omega

theorem plainOpening_walks (kind : TokenKind) :
    Walks lexicon text (plainOpening kind) start fun _ stop => start < stop := by
  refine .bind (expect_walks kind) fun token _ _ ⟨takes, _⟩ => ?_
  exact .bind tagEnd_walks fun _ _ forward _ => .pure (Nat.lt_of_lt_of_le takes.lt forward)

/-- What stands between branches or cases is dropped. -/
theorem Interlude.dropped (delimiters : lexicon.HasDelimiters) (nested : Reader Node)
    (turns : Nat) (between : Interlude lexicon text start stop) :
    text.length - stop < text.length - start
      ∧ (∀ admitsElseIf, ComesTo lexicon text (alternate nested admitsElseIf (turns + 1)) start
          (alternate nested admitsElseIf turns) stop)
      ∧ ∀ found, ComesTo lexicon text (switchCases nested (turns + 1) found) start
          (switchCases nested turns found) stop := by
  cases between with
  | space found runs =>
    refine ⟨runs.lessLeft delimiters take_walks found fun _ _ takes => takes.lt,
      fun _ => .peekKind ?_, fun _ => .peekKind ?_⟩
    all_goals
      rw [found]
      exact .after runs (.refl _)
  | comment runs =>
    have found := runs.kindAt delimiters
    refine ⟨runs.lessLeft delimiters commentSpan_walks found fun _ _ comment => comment.lt,
      fun _ => .peekKind ?_, fun _ => .peekKind ?_⟩
    all_goals
      rw [found]
      exact .after runs (.refl _)

/-- **A step on one level** hands the faults on, and leaves less of the text for the turns
that remain. -/
theorem Moves.fails {part next : Part} {turns : Nat} (delimiters : lexicon.HasDelimiters)
    (inner : WalksNodes lexicon text nested)
    (moves : Moves lexicon text nested part start next stop)
    (enough : text.length - start < turns) :
    ∃ turns', text.length - stop < turns' ∧ ∀ error,
      next.Fails lexicon text nested turns' stop error →
      part.Fails lexicon text nested turns start error := by
  obtain ⟨turns, rfl⟩ := Nat.exists_eq_succ_of_ne_zero (Nat.ne_of_gt (Nat.zero_lt_of_lt enough))
  cases moves with
  | node runs =>
    obtain ⟨kind, found, other⟩ := runs.opened
    have left := runs.lessLeft delimiters (nodeWith_walks inner start) found
      fun _ _ node => node.lt
    refine ⟨turns, by omega, fun error => ?_⟩
    exact nodesUpTo_comesTo found other (.after runs (.first (.refl _))) error
  | conditional runs =>
    have found := runs.kindAt delimiters
    refine ⟨_, length_lt_budget stop, fun error => ?_⟩
    exact block_comesTo found rfl (.after runs (.budget (.first (.refl _)))) error
  | foreach opens runs =>
    have found := opens.kindAt delimiters
    refine ⟨_, length_lt_budget stop, fun error => ?_⟩
    refine block_comesTo found rfl ?_ error
    rw [foreachBlock_eq]
    exact .after opens (.after runs (.budget (.first (.refl _))))
  | switch runs =>
    have found := runs.kindAt delimiters
    refine ⟨_, length_lt_budget stop, fun error failed => ?_⟩
    refine block_comesTo found rfl ?_ error (failed {} rfl)
    rw [switchBlock_eq]
    exact .after runs (.budget (.first (.refl _)))
  | betweenBranches between =>
    obtain ⟨left, comes, -⟩ := between.dropped delimiters nested turns
    exact ⟨turns, by omega, comes _⟩
  | elseIf runs =>
    have found := runs.kindAt delimiters
    have left := runs.lessLeft delimiters (branch_walks inner _) found
      fun _ _ branch => branch.lt
    have comes : ComesTo lexicon text (alternate nested true (turns + 1)) start
        (alternate nested true turns) stop := by
      refine .peekKind ?_
      rw [found]
      exact .after runs (.first (.refl _))
    exact ⟨turns, by omega, comes⟩
  | betweenCases between =>
    obtain ⟨left, -, comes⟩ := between.dropped delimiters nested turns
    exact ⟨turns, by omega, fun error failed found same => comes found error (failed found same)⟩
  | @case _ _ _ case runs =>
    have found := runs.kindAt delimiters
    have left := runs.lessLeft delimiters (branch_walks inner _) found
      fun _ _ branch => branch.lt
    refine ⟨turns, by omega, fun error failed cases same => ?_⟩
    have comes : ComesTo lexicon text (switchCases nested (turns + 1) cases) start
        (switchCases nested turns { cases with cases := cases.cases ++ [case] }) stop := by
      refine .peekKind ?_
      rw [found]
      exact .after runs (.refl _)
    exact comes error (failed _ same)
  | @defaultCase _ middle _ opened children opens runs =>
    have found := opens.kindAt delimiters
    have left := opens.lessLeft delimiters (plainOpening_walks _) found fun _ _ lt => lt
    obtain ⟨stop', forward, same, -⟩ := runs.forward delimiters (blockBody_walks inner)
    refine ⟨turns, by omega, fun error failed cases first => ?_⟩
    have comes : ComesTo lexicon text (switchCases nested (turns + 1) cases) start
        (switchCases nested turns
          { cases with fallback := some (opened.position, children) }) stop := by
      refine .peekKind ?_
      rw [found]
      dsimp only
      rw [if_neg (by rw [first]; decide), plainBlock_eq]
      exact .after opens (.after runs (.refl _))
    exact comes error (failed _ rfl)

/-- **What is expected decides about the document.** -/
theorem Expects.fails {depth : Nat} {part : Part} (delimiters : lexicon.HasDelimiters)
    (place : Expects lexicon text depth part start) :
    ∃ turns, text.length - start < turns ∧ ∀ error,
      part.Fails lexicon text (node depth) turns start error →
      FailsWith lexicon text document 0 error := by
  induction place with
  | start other =>
    refine ⟨_, length_lt_budget 0, fun error => ?_⟩
    have comes : ComesTo lexicon text document 0
        (nodesToEnd (node (text.length + 1)) (text.length + 1)) 0 := by
      refine .sees ?_
      rw [if_neg (by rwa [decide_eq_true_iff]), pure_bind]
      exact .budget (.budget (.first (.refl _)))
    exact comes error
  | @layout stop _ runs =>
    have found := runs.kindAt delimiters
    refine ⟨_, length_lt_budget stop, fun error => ?_⟩
    have comes : ComesTo lexicon text document 0
        (nodesToEnd (node (text.length - stop + 1)) (text.length - stop + 1)) stop := by
      refine .sees ?_
      rw [if_pos (by rwa [decide_eq_true_iff]), ← List.length_drop]
      refine .after runs ?_
      rw [pure_bind]
      exact .budget (.budget (.first (.refl _)))
    rw [List.length_drop]
    exact comes error
  | moves _ step ih =>
    obtain ⟨turns, enough, fails⟩ := ih
    obtain ⟨turns', enough', hands⟩ := step.fails delimiters (node_walks _) enough
    exact ⟨turns', enough', fun error failed => fails error (hands error failed)⟩
  | opens _ step ih =>
    obtain ⟨turns, enough, fails⟩ := ih
    obtain ⟨turns, rfl⟩ := Nat.exists_eq_succ_of_ne_zero (Nat.ne_of_gt (Nat.zero_lt_of_lt enough))
    exact ⟨_, length_lt_budget _, fun error failed =>
      fails error (step.fails delimiters error failed)⟩

end ViewTemplate.Document
