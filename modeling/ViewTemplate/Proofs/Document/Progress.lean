import ViewTemplate.Proofs.Document.Faults
import ViewTemplate.Proofs.Document.Positions

/-!
# The parser of documents ends

No budget of the parser runs out.  A node that is read takes at least one character, so
wherever a production reads a node inside it there is less text left, and a depth above the
length of the text is enough (`node_fails`).  Every loop is a turn that is repeated, and a
turn with which the loop goes on takes a character (`LoopsAdvance`).

What a production returns is known already (`Walks`), so only its failures are followed
here, in the order of the grammar.  Of the reader of the nodes inside two things are needed:
what it returns wherever it is read, and how it fails from some offset on (`NestedFares`),
as a production reads nodes only behind its opener.

## Main Definitions

* `NestedFares` — a reader of nodes from an offset on
* `Advances` — a loop that takes a character in each turn but the last
* `LoopsAdvance` — the loops of the grammar do so

## Main Results

* `document_fails` — whole documents

-/

namespace ViewTemplate.Document

open Template Text

variable {α β : Type} {lexicon : Lexicon} {text : List Char} {start stop first : Nat}
  {nested : Reader Node}

/-- A reader of nodes that stand where they say, and that fails in the known ways from an
offset on. -/
structure NestedFares (lexicon : Lexicon) (text : List Char) (nested : Reader Node)
    (first : Nat) : Prop where
  walks : WalksNodes lexicon text nested
  fails : ∀ start, first ≤ start → Fails lexicon text nested start

theorem NestedFares.fares (inner : NestedFares lexicon text nested first)
    (late : first ≤ start) :
    Fares lexicon text nested start (NodeAt lexicon text start) :=
  ⟨inner.walks start, inner.fails start late⟩

theorem NodeAt.less {node : Node} (at_ : NodeAt lexicon text start node stop) :
    text.length - stop < text.length - start := by
  have lt := at_.lt
  have inside := at_.marks.inside
  omega

/-! ## Turns -/

theorem failAt_bind (position : Position) (fault : ParseFault) (next : α → Reader β) :
    (failAt position fault >>= next) = failAt position fault :=
  rfl

theorem failHere_bind (fault : ParseFault) (next : α → Reader β) :
    (failHere fault >>= next) = failHere fault :=
  rfl

theorem failUnexpected_bind (next : α → Reader β) :
    (failUnexpected >>= next) = failUnexpected := by
  rw [failUnexpected, bind_assoc]
  refine bind_congr fun found => ?_
  cases found with
  | none => rfl
  | some token => rfl

/-- A turn of a list reads an item, unless the list has ended. -/
def listTurn (ended : Reader Bool) (item : Reader α) : Reader (LoopTurn Unit (List α)) := do
  if ← ended then
    return .ends []
  else
    let first ← item
    return .goesOn () (first :: ·)

theorem listTurn_fares {ended : Reader Bool} {item : Reader α}
    (looks : Fares lexicon text ended start fun _ stop => stop = start)
    (reads : Fares lexicon text item start fun _ stop =>
      text.length - stop < text.length - start) :
    Fares lexicon text (listTurn ended item) start fun decided stop =>
      decided.Holds (text.length - stop < text.length - start) True := by
  refine .bind looks ?_
  rintro isEnd _ - rfl
  split
  · exact .pure trivial
  · exact .bind reads fun _ _ _ less => .pure less

theorem sees_fares (kind : TokenKind) :
    Fares lexicon text (sees kind) start fun _ stop => stop = start :=
  ⟨fun _ => .pure ⟨start, Nat.le_refl start, rfl, rfl⟩, fun _ _ => nofun⟩

/-! ## Bodies of blocks -/

theorem nodesBefore_eq (nested : Reader Node) (kind : TokenKind) :
    (fun turns (_ : Unit) => nodesBefore nested kind turns)
      = loopOf (failHere .exhausted) fun _ => listTurn (sees kind) nested := by
  refine eq_loopOf (fun _ => rfl) fun turns _ => ?_
  simp only [nodesBefore, listTurn, bind_assoc, ite_bind, pure_bind]

theorem nodesBefore_fails (inner : NestedFares lexicon text nested first) (kind : TokenKind)
    {turns : Nat} (late : first ≤ start) (enough : text.length - start < turns) :
    Fails lexicon text (nodesBefore nested kind turns) start := by
  refine .loop (nodesBefore_eq nested kind) (fun _ start late => ?_) () late enough
  exact listTurn_fares (sees_fares kind) ((inner.fares late).mono fun _ _ _ node => node.less)

theorem tagEnd_fares : Fares lexicon text tagEnd start fun _ _ => True :=
  .bind skipSpace_fares fun _ _ _ _ => .bind (expect_fares _) fun _ _ _ _ => .pure trivial

theorem selfClosingEnd_fails : Fails lexicon text selfClosingEnd start := by
  refine .bind skipSpace_fares fun _ _ _ _ => .bind (expect_fares _) fun _ _ _ _ => ?_
  exact .bind (expect_fares _) fun _ _ _ _ => .pure

theorem blockBody_fails (inner : NestedFares lexicon text nested first) (late : first ≤ start) :
    Fails lexicon text (blockBody nested) start := by
  refine .budget (.bind ⟨nodesBefore_walks inner.walks _ _,
    nodesBefore_fails inner _ late (Nat.lt_succ_self _)⟩ fun _ _ _ _ => ?_)
  exact .bind (expect_fares _) fun _ _ _ _ => .bind tagEnd_fares fun _ _ _ _ => .pure

theorem blockRest_fails (inner : NestedFares lexicon text nested first) (late : first ≤ start) :
    Fails lexicon text (blockRest nested) start :=
  .bind tagEnd_fares fun _ _ le _ => blockBody_fails inner (late.trans le)

theorem blockRest_fares (inner : NestedFares lexicon text nested first) (late : first ≤ start) :
    Fares lexicon text (blockRest nested) start (BodyAt lexicon text start) :=
  ⟨blockRest_walks inner.walks, blockRest_fails inner late⟩

/-- Behind an opener a value can open. -/
theorem Takes.opened {token : Token} {opener : TokenKind}
    (takes : Takes lexicon text token start stop) (kind : token.kind = opener) :
    Opened lexicon text opener stop :=
  ⟨token, start, stop, takes, kind, .refl text stop⟩

theorem branch_fares (inner : NestedFares lexicon text nested first) (late : first ≤ start + 1)
    {opener : TokenKind} (known : opensValue opener = true) (plain : opener ≠ .rightSquareBrace) :
    Fares lexicon text (branch nested opener) start (BranchAt lexicon text start) := by
  refine ⟨branch_walks inner.walks opener, ?_⟩
  refine .bind (expect_fares _) fun token opened _ ⟨takes, kind⟩ => ?_
  have lt := takes.lt
  refine .bind ⟨blockExpression_walks, blockExpression_fails (takes.opened kind) known plain⟩ ?_
  exact fun _ middle le _ => .bind (blockRest_fares inner (by omega)) fun _ _ _ _ => .pure

theorem BranchAt.less {found : Branch Node} (branch : BranchAt lexicon text start found stop) :
    text.length - stop < text.length - start := by
  have lt := branch.lt
  have inside := branch.marks.inside
  omega

/-- A text between two tokens that are always written in the same way. -/
theorem enclosed_fails {opening closing : TokenKind} {closer : List Char}
    (fixed : lexicon.spelling? closing = some closer) {build : Position → String → Node} :
    Fails lexicon text (do
        let token ← expect opening
        return build token.position (← textUpTo closing)) start :=
  .bind (expect_fares _) fun _ _ _ _ => .bind (textUpTo_fares fixed) fun _ _ _ _ => .pure

theorem commentSpan_fares :
    Fares lexicon text commentSpan start (NodeAt lexicon text start) :=
  ⟨commentSpan_walks, enclosed_fails rfl⟩

/-! ## Blocks -/

theorem scopeBlock_fails (inner : NestedFares lexicon text nested first)
    (late : first ≤ start + 1) : Fails lexicon text (scopeBlock nested) start := by
  refine .bind (expect_fares _) fun token opened _ ⟨takes, _⟩ => ?_
  have lt := takes.lt
  exact .change (blockRest_fails inner (by omega))

/-- A turn of the parameters of a block reads a name, unless the list is closed. -/
def parameterTurn (quote : TokenKind) (names : List String) :
    Reader (LoopTurn (List String) (List String)) := do
  skipSpace
  if ← eat quote then
    return .ends names
  else
    if !names.isEmpty then
      let _ ← expect .comma
      skipSpace
    let position ← here
    let name ← variableName
    if names.contains name then
      failAt position (.duplicateArgument name)
    else
      return .goesOn (names ++ [name]) id

theorem blockParameters_eq (quote : TokenKind) :
    blockParameters quote = loopOf (failHere .exhausted) (parameterTurn quote) := by
  refine eq_loopOf (fun _ => rfl) fun turns names => ?_
  simp only [blockParameters, parameterTurn, bind_assoc, ite_bind, pure_bind, failAt_bind, id,
    bind_pure]

theorem parameterTurn_fares (quote : TokenKind) (names : List String) :
    Fares lexicon text (parameterTurn quote names) start fun decided stop =>
      decided.Holds (text.length - stop < text.length - start) True := by
  refine .bind skipSpace_fares fun _ o₁ le₁ _ => .bind (eat_fares _) fun closed o₂ le₂ _ => ?_
  split
  · exact .pure trivial
  · refine .optional (fun o₃ le₃ => ?_) fun rest => ?_
    · refine .here (.bind variableName_fares fun name stop le₄ less => ?_)
      split
      · exact .failAt rfl (.plain trivial)
      · exact .pure (Nat.lt_of_lt_of_le less (Nat.sub_le_sub_left (by omega) _))
    · refine .bind (expect_fares _) fun _ o₃ le₃ _ => .bind skipSpace_fares fun _ o₄ le₄ _ => ?_
      exact rest o₄ (by omega)

theorem blockParameters_fails (quote : TokenKind) {turns : Nat}
    (enough : text.length - start < turns) (names : List String) :
    Fails lexicon text (blockParameters quote turns names) start :=
  .loop (blockParameters_eq quote) (fun _ _ _ => parameterTurn_fares quote _) names
    (Nat.le_refl start) enough

theorem parameterList_fails : Fails lexicon text parameterList start := by
  refine .bind (expect_fares _) fun _ _ _ _ => .bind skipSpace_fares fun _ _ _ _ => ?_
  refine .bind (expect_fares _) fun _ _ _ _ => .bind skipSpace_fares fun _ _ _ _ => ?_
  refine .bind expectQuote_fares fun quote _ _ _ => .budget ?_
  refine .bind ⟨blockParameters_walks quote _ [],
    blockParameters_fails quote (Nat.lt_succ_self _) []⟩ fun names _ _ _ => ?_
  split
  · exact .failHere (.plain trivial)
  · exact .bind skipSpace_fares fun _ _ _ _ => .pure

theorem printBlock_fails (inner : NestedFares lexicon text nested first)
    (late : first ≤ start + 1) : Fails lexicon text (printBlock nested) start := by
  refine .bind (expect_fares _) fun token o₁ _ ⟨takes, kind⟩ => ?_
  have lt := takes.lt
  refine .bind ⟨blockExpression_walks, blockExpression_fails (takes.opened kind) rfl nofun⟩ ?_
  refine fun expression o₂ le₂ _ => .bind skipSpace_fares fun _ o₃ le₃ _ => .sees ?_
  split
  · refine .bind ⟨parameterList_walks, parameterList_fails⟩ fun parameters o₄ le₄ _ => ?_
    exact .bind (expect_fares _) fun _ o₅ le₅ _ => .change (blockBody_fails inner (by omega))
  · refine .bind (eat_fares _) fun closed o₄ le₄ _ => ?_
    split
    · exact .bind (expect_fares _) fun _ _ _ _ => .pure
    · exact .bind (expect_fares _) fun _ o₅ le₅ _ => .change (blockBody_fails inner (by omega))

/-- A turn behind a block passes white space or a comment, or reads an else-if branch. -/
def alternateTurn (nested : Reader Node) (admitsElseIf : Bool) :
    Reader (LoopTurn Bool (Option Node)) := do
  match ← peekKind with
  | some .whitespace =>
    let _ ← take
    return .goesOn admitsElseIf id
  | some .commentExpressionStart =>
    let _ ← commentSpan
    return .goesOn admitsElseIf id
  | some .elseIf =>
    if admitsElseIf then
      let ⟨position, condition, children⟩ ← branch nested .elseIf
      return .goesOn true fun next => some (.elseIf position condition children next)
    else
      return .ends none
  | some .elseBlock =>
    let token ← expect .elseBlock
    return .ends (some (.otherwise token.position (← blockRest nested)))
  | _ => return .ends none

theorem alternate_eq (nested : Reader Node) :
    (fun turns admitsElseIf => alternate nested admitsElseIf turns)
      = loopOf (failHere .exhausted) (alternateTurn nested) := by
  refine eq_loopOf (fun _ => rfl) fun turns admitsElseIf => ?_
  rw [alternate, alternateTurn, bind_assoc]
  refine bind_congr fun kind => ?_
  split <;> simp only [bind_assoc, ite_bind, pure_bind, id, bind_pure]

theorem alternateTurn_fares (inner : NestedFares lexicon text nested first)
    (late : first ≤ start) (admitsElseIf : Bool) :
    Fares lexicon text (alternateTurn nested admitsElseIf) start fun decided stop =>
      decided.Holds (text.length - stop < text.length - start) True := by
  refine .peekKind ?_
  split
  · exact .bind take_fares fun _ _ _ takes => .pure takes.less
  · exact .bind commentSpan_fares fun _ _ _ node => .pure node.less
  · split
    · exact .bind (branch_fares inner (by omega) rfl nofun) fun _ _ _ branch => .pure branch.less
    · exact .pure trivial
  · refine .bind (expect_fares _) fun token opened le _ => ?_
    exact .bind (blockRest_fares inner (by omega)) fun _ _ _ _ => .pure trivial
  · exact .pure trivial

theorem alternate_fails (inner : NestedFares lexicon text nested first) (late : first ≤ start)
    (admitsElseIf : Bool) :
    Fails lexicon text (alternate nested admitsElseIf (text.length - start + 1)) start :=
  .loop (alternate_eq nested) (fun _ _ late => alternateTurn_fares inner late _) admitsElseIf
    late (Nat.lt_succ_self _)

theorem conditionalBlock_fails (inner : NestedFares lexicon text nested first)
    (late : first ≤ start + 1) : Fails lexicon text (conditionalBlock nested) start := by
  refine .bind (branch_fares inner late rfl nofun) fun found middle _ branch => .budget ?_
  have lt := branch.lt
  exact .change (alternate_fails inner (by omega) true)

/-- A turn of a choice passes white space or a comment, or reads a case. -/
def caseTurn (nested : Reader Node) (found : Cases) : Reader (LoopTurn Cases Cases) := do
  match ← peekKind with
  | none => failHere .endOfSource
  | some .blockClosingStart => return .ends found
  | some .whitespace =>
    let _ ← take
    return .goesOn found id
  | some .commentExpressionStart =>
    let _ ← commentSpan
    return .goesOn found id
  | some .case =>
    let case ← branch nested .case
    return .goesOn { found with cases := found.cases ++ [case] } id
  | some .defaultCase =>
    if found.fallback.isSome then
      failHere .secondDefault
    else
      let token ← expect .defaultCase
      let children ← blockRest nested
      return .goesOn { found with fallback := some (token.position, children) } id
  | some _ => failUnexpected

theorem switchCases_eq (nested : Reader Node) :
    switchCases nested = loopOf (failHere .exhausted) (caseTurn nested) := by
  refine eq_loopOf (fun _ => rfl) fun turns found => ?_
  rw [switchCases, caseTurn, bind_assoc]
  refine bind_congr fun kind => ?_
  split <;> simp only [bind_assoc, ite_bind, pure_bind, failHere_bind, failUnexpected_bind, id,
    bind_pure]

theorem caseTurn_fares (inner : NestedFares lexicon text nested first) (late : first ≤ start)
    (found : Cases) :
    Fares lexicon text (caseTurn nested found) start fun decided stop =>
      decided.Holds (text.length - stop < text.length - start) True := by
  refine .peekKind ?_
  split
  · rename_i none
    exact .failHere (.ended (length_le_of_token?_eq_none (Option.map_eq_none_iff.1 none)))
  · exact .pure trivial
  · exact .bind take_fares fun _ _ _ takes => .pure takes.less
  · exact .bind commentSpan_fares fun _ _ _ node => .pure node.less
  · exact .bind (branch_fares inner (by omega) rfl nofun) fun _ _ _ branch => .pure branch.less
  · split
    · exact .failHere (.plain trivial)
    · refine .bind (expect_fares _) fun token opened le ⟨takes, _⟩ => ?_
      have less := takes.less
      exact .bind (blockRest_fares inner (by omega)) fun _ stop le' _ => .pure (by
        have fewer : text.length - stop ≤ text.length - opened := Nat.sub_le_sub_left le' _
        exact Nat.lt_of_le_of_lt fewer less)
  · exact .failUnexpected

theorem switchBlock_fails (inner : NestedFares lexicon text nested first)
    (late : first ≤ start + 1) : Fails lexicon text (switchBlock nested) start := by
  refine .bind (expect_fares _) fun token o₁ _ ⟨takes, kind⟩ => ?_
  have lt := takes.lt
  refine .bind ⟨blockExpression_walks, blockExpression_fails (takes.opened kind) rfl nofun⟩ ?_
  refine fun expression o₂ le₂ _ => .bind tagEnd_fares fun _ o₃ le₃ _ => .budget ?_
  have cases : Fails lexicon text (switchCases nested (text.length - o₃ + 1) {}) o₃ :=
    .loop (switchCases_eq nested) (fun _ _ late => caseTurn_fares inner late _) {} (by omega)
      (Nat.lt_succ_self _)
  have behind : start < o₃ := by omega
  -- The cases stand behind the opener, so nodes inside them may be read.
  refine .bind ⟨switchCases_walks inner.walks _ behind .nil, cases⟩ ?_
  refine fun found o₄ _ _ => .bind (expect_fares _) fun _ _ _ _ => ?_
  exact .bind tagEnd_fares fun _ _ _ _ => .pure

/-- A turn of the names of a loop reads a name, and goes on before a comma. -/
def loopNameTurn (names : List String) : Reader (LoopTurn (List String) (List String)) := do
  if !names.isEmpty then
    let _ ← expect .comma
  skipSpace
  let position ← here
  let name ← variableName
  if names.contains name then
    failAt position (.duplicateIdentifier name)
  else if names.length = 2 then
    failAt position .tooManyIdentifiers
  else
    skipSpace
    if ← sees .comma then
      return .goesOn (names ++ [name]) id
    else
      return .ends (names ++ [name])

theorem loopNames_eq : loopNames = loopOf (failHere .exhausted) loopNameTurn := by
  refine eq_loopOf (fun _ => rfl) fun turns names => ?_
  simp only [loopNames, loopNameTurn, bind_assoc, ite_bind, pure_bind, failAt_bind, id, bind_pure]

theorem loopNameTurn_fares (names : List String) :
    Fares lexicon text (loopNameTurn names) start fun decided stop =>
      decided.Holds (text.length - stop < text.length - start) True := by
  refine .optional (fun o₁ le₁ => ?_) fun rest => ?_
  · refine .bind skipSpace_fares fun _ o₂ le₂ _ => .here ?_
    refine .bind variableName_fares fun name o₃ _ less => ?_
    split
    · exact .failAt rfl (.plain trivial)
    · split
      · exact .failAt rfl (.plain trivial)
      · refine .bind skipSpace_fares fun _ o₄ le₄ _ => .sees ?_
        split
        · refine .pure ?_
          show text.length - o₄ < text.length - start
          omega
        · exact .pure trivial
  · exact .bind (expect_fares _) fun _ _ le _ => rest _ le

theorem loopNames_fails {turns : Nat} (enough : text.length - start < turns)
    (names : List String) : Fails lexicon text (loopNames turns names) start :=
  .loop loopNames_eq (fun _ _ _ => loopNameTurn_fares _) names (Nat.le_refl start) enough

theorem loopWord_fares :
    Fares lexicon text loopWord start fun _ stop =>
      ∃ word, Takes lexicon text word start stop
        ∧ (word.kind = .inKeyword ∨ word.kind = .ofKeyword) := by
  refine .bind take_fares fun word stop _ takes => ?_
  split
  · rename_i isWord
    exact .pure ⟨word, takes, isWord⟩
  · exact .failAt takes.position (.plain trivial)

/-- The collection of a loop is where it starts to be read: behind the word and the white
space that was skipped. -/
theorem foreachBlock_fails (inner : NestedFares lexicon text nested first)
    (late : first ≤ start + 1) : Fails lexicon text (foreachBlock nested) start := by
  refine .bind (expect_fares _) fun token o₁ _ ⟨takes, kind⟩ => ?_
  have lt := takes.lt
  refine .bind skipSpace_fares fun _ o₂ le₂ gap => ?_
  refine .bind (expect_fares _) fun equals o₃ le₃ ⟨takesEquals, isEquals⟩ => ?_
  refine .bind skipSpace_fares fun _ o₄ le₄ gap' => ?_
  refine .bind expectQuote_fares fun quote o₅ le₅ ⟨isQuote, mark, takesMark, isMark⟩ => .budget ?_
  have opens : ValueOpens lexicon text .foreach quote o₅ :=
    ⟨isQuote, equals, mark, o₂, o₃, o₄, (takes.opened kind).gap gap.toGap, takesEquals, isEquals,
      gap'.toGap, takesMark, isMark⟩
  refine .bind ⟨loopNames_walks _ [], loopNames_fails (Nat.lt_succ_self _) []⟩ ?_
  refine fun names o₆ le₆ _ => .bind loopWord_fares fun _ o₇ le₇ ⟨word, takesWord, isWord⟩ => ?_
  refine .bind skipSpace_fares fun _ o₈ le₈ skips => .here ?_
  refine .bind (textUpTo_fares (spelling?_of_isQuote isQuote)) fun raw o₉ le₉ ⟨stands, _, _⟩ => ?_
  refine .bind (captured_fares rfl fun fault failed =>
    .collection opens le₆ takesWord isWord skips stands failed) ?_
  rintro collection _ - ⟨-, rfl⟩
  refine .bind (blockRest_fares inner (by omega)) fun children o₁₀ le₁₀ _ => .budget ?_
  exact .change (alternate_fails inner (by omega) false)

theorem loopBlock_fails (inner : NestedFares lexicon text nested first)
    (late : first ≤ start + 1) : Fails lexicon text (loopBlock nested) start :=
  .bind (branch_fares inner late rfl nofun) fun _ _ _ _ => .pure

theorem renderBlock_fails : Fails lexicon text renderBlock start := by
  refine .bind (expect_fares _) fun token opened _ ⟨takes, kind⟩ => ?_
  refine .bind ⟨blockName_walks _, blockName_fails (takes.opened kind) rfl _⟩ fun path _ _ _ => ?_
  refine .bind skipSpace_fares fun _ _ _ _ => .bind (eat_fares _) fun hasContext _ _ found => ?_
  split
  · rename_i eaten
    obtain ⟨token, takes, kind⟩ := found.1 eaten
    refine .bind ⟨blockExpression_walks, blockExpression_fails (takes.opened kind) rfl nofun⟩ ?_
    exact fun _ _ _ _ => .bind ⟨selfClosingEnd_walks, selfClosingEnd_fails⟩ fun _ _ _ _ => .pure
  · exact .bind ⟨selfClosingEnd_walks, selfClosingEnd_fails⟩ fun _ _ _ _ => .pure

/-- White space before the equals sign is skipped twice, the second time in vain. -/
theorem renderContentBlock_fails : Fails lexicon text renderContentBlock start := by
  refine .bind (expect_fares _) fun token opened _ ⟨takes, kind⟩ => ?_
  refine .bind skipSpace_fares fun _ middle _ gap => .sees ?_
  have opens := (takes.opened kind).gap gap.toGap
  split
  · have named : Fails lexicon text (some <$> blockName "slot name") middle :=
      .change (blockName_fails opens rfl _)
    have walks : Walks lexicon text (some <$> blockName "slot name") middle fun _ _ => True :=
      .bind (blockName_walks _) fun _ _ _ _ => .pure trivial
    exact .bind ⟨walks, named⟩ fun _ _ _ _ =>
      .bind ⟨selfClosingEnd_walks, selfClosingEnd_fails⟩ fun _ _ _ _ => .pure
  · exact .given (.bind ⟨selfClosingEnd_walks, selfClosingEnd_fails⟩ fun _ _ _ _ => .pure)

theorem contentForBlock_fails (inner : NestedFares lexicon text nested first)
    (late : first ≤ start + 1) : Fails lexicon text (contentForBlock nested) start := by
  refine .bind (expect_fares _) fun token opened _ ⟨takes, kind⟩ => ?_
  have lt := takes.lt
  refine .bind ⟨blockName_walks _, blockName_fails (takes.opened kind) rfl _⟩ fun slot _ le _ => ?_
  exact .change (blockRest_fails inner (by omega))

theorem layoutBlock_fails : Fails lexicon text layoutBlock start := by
  refine .bind (expect_fares _) fun token opened _ ⟨takes, kind⟩ => ?_
  refine .bind ⟨blockName_walks _, blockName_fails (takes.opened kind) rfl _⟩ fun path _ _ _ => ?_
  exact .bind ⟨selfClosingEnd_walks, selfClosingEnd_fails⟩ fun _ _ _ _ => .pure

/-! ## Embedded snippets -/

theorem actionSpan_fails : Fails lexicon text actionSpan start := by
  refine .bind (expect_fares _) fun token opened _ ⟨takes, kind⟩ => ?_
  refine .bind spanText_fares fun span _ _ ⟨place, _, _, stands⟩ => .change ?_
  exact (captured_fares place fun fault failed =>
    .statement takes (.inl kind) stands failed).fails

theorem printSpan_fails : Fails lexicon text printSpan start := by
  refine .bind (expect_fares _) fun token opened _ ⟨takes, kind⟩ => ?_
  refine .bind spanText_fares fun span _ _ ⟨place, _, _, stands⟩ => ?_
  refine .bind (captured_fares place fun fault failed =>
    .statement takes (.inr kind) stands failed) fun action _ _ ⟨⟨_, _, reads⟩, _⟩ => ?_
  split
  · rename_i isDeclaration
    exact .failAt place (.snippet (.declaration takes kind stands reads isDeclaration))
  · exact .pure

/-! ## Markup -/

theorem doctypeMarkup_fails : Fails lexicon text doctypeMarkup start := by
  refine .bind (expect_fares _) fun _ _ _ _ => .bind (expect_fares _) fun _ _ _ _ => ?_
  refine .bind (expect_fares _) fun word _ _ ⟨takes, _⟩ => ?_
  split
  · exact .bind tagEnd_fares fun _ _ _ _ => .pure
  · exact .failAt takes.position (.plain trivial)

/-! ## Attributes -/

/-- The name of an attribute holds a character. -/
theorem attributeName_fares :
    Fares lexicon text attributeName start fun _ stop =>
      text.length - stop < text.length - start := by
  refine .here (.bind (textWhile_fares _) fun name stop _ spans => ?_)
  split
  · refine .peekKind ?_
    split
    · rename_i none
      exact .failHere (.ended (length_le_of_token?_eq_none (Option.map_eq_none_iff.1 none)))
    · exact .failAt rfl (.plain trivial)
  · rename_i nonempty
    have some : name.toList ≠ [] := fun empty =>
      nonempty (String.isEmpty_iff.2 (String.toList_eq_nil_iff.1 empty))
    have inside := spans.stands.inside some
    have longer := List.length_pos_iff.2 some
    have stops := spans.stop
    exact .pure (by omega)

/-- A turn of an attribute's value reads a part, or passes a comment. -/
def partTurn (quote : TokenKind) : Reader (LoopTurn Unit (List AttributePart)) := do
  match ← peekKind with
  | none => failHere .endOfSource
  | some kind =>
    if kind = quote then
      return .ends []
    else if kind = .printExpressionStart then
      let _ ← take
      let (text, position) ← spanText
      let expression ← captured (captureExpression text position)
      return .goesOn () (.expression expression :: ·)
    else if kind = .commentExpressionStart then
      let _ ← commentSpan
      return .goesOn () id
    else if kind = .expressionStart then
      failHere .statementInAttribute
    else if kind = .expressionEnd then
      failUnexpected
    else
      let text ← textWhile fun token => token.kind != quote && !isDelimiter token.kind
      return .goesOn () (.literal text :: ·)

theorem attributeParts_eq (quote : TokenKind) :
    (fun turns (_ : Unit) => attributeParts quote turns)
      = loopOf (failHere .exhausted) fun _ => partTurn quote := by
  refine eq_loopOf (fun _ => rfl) fun turns _ => ?_
  rw [attributeParts, partTurn, bind_assoc]
  refine bind_congr fun kind => ?_
  split <;> simp only [bind_assoc, ite_bind, pure_bind, failHere_bind, failUnexpected_bind, id,
    bind_pure]

/-- What is neither the closing quote nor a delimiter is text, so there is some. -/
theorem partTurn_fares (quote : TokenKind) :
    Fares lexicon text (partTurn quote) start fun decided stop =>
      decided.Holds (text.length - stop < text.length - start) True := by
  refine .peekKind ?_
  cases seen : Walks.kindAt lexicon text start with
  | none =>
    exact .failHere (.ended (length_le_of_token?_eq_none (Option.map_eq_none_iff.1 seen)))
  | some kind =>
    dsimp only
    split
    · exact .pure trivial
    split
    · rename_i opener
      refine .bind take_fares fun token o₁ _ takes => ?_
      have less := takes.less
      refine .bind spanText_fares fun span o₂ le₂ ⟨place, _, _, stands⟩ => ?_
      refine .bind (captured_fares place fun fault failed =>
        .expression takes (opener ▸ takes.kind seen) stands failed) ?_
      rintro expression _ - ⟨-, rfl⟩
      exact .pure (Nat.lt_of_le_of_lt (Nat.sub_le_sub_left le₂ _) less)
    split
    · exact .bind commentSpan_fares fun _ _ _ node => .pure node.less
    split
    · exact .failHere (.plain trivial)
    split
    · exact .failUnexpected
    · obtain ⟨token, found, rfl⟩ := Option.map_eq_some_iff.1 seen
      have belongs : (token.kind != quote && !isDelimiter token.kind) = true := by
        cases kind : token.kind <;> simp_all [isDelimiter]
      have run : Fares lexicon text (textWhile fun token =>
          token.kind != quote && !isDelimiter token.kind) start fun _ stop =>
            text.length - stop < text.length - start :=
        ⟨(textWhile_progress found belongs).mono fun _ _ _ ⟨_, inside, lt⟩ => by omega,
          (textWhile_fares _).fails⟩
      exact .bind run fun _ _ _ less => .pure less

theorem attributeParts_fails (quote : TokenKind) {turns : Nat}
    (enough : text.length - start < turns) :
    Fails lexicon text (attributeParts quote turns) start :=
  .loop (attributeParts_eq quote) (fun _ _ _ => partTurn_fares quote) () (Nat.le_refl start) enough

theorem plainAttribute_fares (position : Position) :
    Fares lexicon text (plainAttribute position) start fun _ stop =>
      text.length - stop < text.length - start := by
  refine .bind attributeName_fares fun name o₁ _ less => ?_
  refine .bind skipSpace_fares fun _ o₂ le₂ _ => .bind (eat_fares _) fun hasValue o₃ le₃ _ => ?_
  split
  · refine .bind skipSpace_fares fun _ o₄ le₄ _ => ?_
    refine .bind expectQuote_fares fun quote o₅ le₅ _ => .budget ?_
    refine .bind ⟨attributeParts_walks quote _, attributeParts_fails quote (Nat.lt_succ_self _)⟩ ?_
    exact fun parts o₆ le₆ _ => .bind (expect_fares _) fun _ o₇ le₇ _ => .pure (by omega)
  · exact .pure (by omega)

theorem boundValue_fares : Fares lexicon text boundValue start fun _ _ => True := by
  refine .bind (expect_fares _) fun token opened _ ⟨takes, kind⟩ => ?_
  refine .bind (quotedValue_fares (takes.opened kind) rfl) fun value middle _ read => ?_
  obtain ⟨quote, offset, opens, place, stands, first⟩ := read
  refine .bind (captured_fares place fun fault failed =>
    .value rfl opens stands first failed) fun _ _ _ _ => .pure trivial

theorem bracketAttribute_fares (position : Position) :
    Fares lexicon text (bracketAttribute position) start fun _ _ => True := by
  refine .bind (eat_fares _) fun isConditional _ _ _ => ?_
  split
  · refine .bind attributeName_fares fun name _ _ _ => ?_
    exact .bind boundValue_fares fun _ _ _ _ => .pure trivial
  · refine .bind attributeName_fares fun name _ _ _ => .bind (eat_fares _) fun appends _ _ _ => ?_
    split
    · refine .here (.bind (textWhile_fares _) fun suffix _ _ _ => ?_)
      split
      · exact .failAt rfl (.plain trivial)
      · exact .bind boundValue_fares fun _ _ _ _ => .pure trivial
    · exact .bind boundValue_fares fun _ _ _ _ => .pure trivial

/-- An attribute holds a character: its opening bracket, or one of its name. -/
theorem anyAttribute_fares :
    Fares lexicon text anyAttribute start fun _ stop =>
      text.length - stop < text.length - start := by
  refine .here (.bind (eat_fares _) fun bracket opened _ ⟨taken, missing⟩ => ?_)
  split
  · rename_i eaten
    obtain ⟨token, takes, _⟩ := taken eaten
    have less := takes.less
    exact (bracketAttribute_fares _).mono fun _ _ le _ => by omega
  · rename_i other
    rw [missing (Bool.not_eq_true _ ▸ other)]
    exact plainAttribute_fares _

/-- Whether the attributes of a tag have ended. -/
def attributesEnd : Reader Bool := do
  return (← sees .forwardSlash) || (← sees .rightAngleBrace)

/-- An attribute and the white space behind it. -/
def spacedAttribute : Reader Attribute := do
  let first ← anyAttribute
  skipSpace
  return first

theorem attributeList_eq :
    (fun turns (_ : Unit) => attributeList turns)
      = loopOf (failHere .exhausted) fun _ => listTurn attributesEnd spacedAttribute := by
  refine eq_loopOf (fun _ => rfl) fun turns _ => ?_
  simp only [attributeList, listTurn, attributesEnd, spacedAttribute, bind_assoc, ite_bind,
    pure_bind]

theorem attributeTurn_fares :
    Fares lexicon text (listTurn attributesEnd spacedAttribute) start fun decided stop =>
      decided.Holds (text.length - stop < text.length - start) True := by
  refine listTurn_fares ?_ ?_
  · exact .sees (.sees (.pure rfl))
  · refine .bind anyAttribute_fares fun item middle _ less => ?_
    exact .bind skipSpace_fares fun _ stop le _ => .pure (by omega)

theorem attributeList_fails {turns : Nat} (enough : text.length - start < turns) :
    Fails lexicon text (attributeList turns) start :=
  .loop attributeList_eq (fun _ _ _ => attributeTurn_fares) () (Nat.le_refl start) enough

/-! ## Elements -/

theorem closingTag_fails (tagName : String) : Fails lexicon text (closingTag tagName) start := by
  refine .bind (expect_fares _) fun token _ _ ⟨takes, _⟩ => .bind tagEnd_fares fun _ _ _ _ => ?_
  dsimp only
  split
  · exact .pure
  · exact .failAt takes.position (.plain trivial)

theorem elementContent_fails (inner : NestedFares lexicon text nested first)
    (late : first ≤ start) (tagName : String) :
    Fails lexicon text (elementContent nested tagName) start := by
  rw [elementContent]
  split
  · exact .change (.here (.change (textWhile_fares _).fails))
  · exact .budget (nodesBefore_fails inner _ late (Nat.lt_succ_self _))

theorem element_fails (inner : NestedFares lexicon text nested first)
    (late : first ≤ start + 1) : Fails lexicon text (element nested) start := by
  refine .bind (expect_fares _) fun token o₁ _ ⟨takes, _⟩ => ?_
  have lt := takes.lt
  refine .bind skipSpace_fares fun _ o₂ le₂ _ => .budget ?_
  refine .bind ⟨attributeList_walks _, attributeList_fails (Nat.lt_succ_self _)⟩ ?_
  refine fun attributes o₃ le₃ _ => .bind (eat_fares _) fun isSelfClosing o₄ le₄ _ => ?_
  refine .bind (expect_fares _) fun _ o₅ le₅ _ => ?_
  dsimp only
  split
  · exact .pure
  · refine .bind ⟨elementContent_walks inner.walks _, elementContent_fails inner (by omega) _⟩ ?_
    exact fun children o₆ le₆ _ => .change (closingTag_fails _)

/-! ## Text -/

theorem textRun_fails : Fails lexicon text textRun start :=
  .here (.change (textWhile_fares _).fails)

theorem spaceRun_fails : Fails lexicon text spaceRun start :=
  .bind take_fares fun _ _ _ _ => .pure

theorem textOrUnknown_fails : Fails lexicon text textOrUnknown start := by
  refine .settings (.peek ?_)
  cases found : (cursorAt lexicon text start).token? lexicon with
  | none => exact textRun_fails
  | some token =>
    dsimp only
    split
    · exact .failAt (position_of_token? found) (.plain trivial)
    · exact textRun_fails

/-! ## Nodes and documents -/

/-- A node fails in the known ways if the nodes inside it do, behind its first character.
What the two tables of tokens do not name is text, which holds a character. -/
theorem nodeWith_fails (inner : start < text.length → NestedFares lexicon text nested (start + 1)) :
    Fails lexicon text (nodeWith nested) start := by
  refine .peekKind ?_
  cases found : Walks.kindAt lexicon text start with
  | none =>
    exact .failHere (.ended (length_le_of_token?_eq_none (Option.map_eq_none_iff.1 found)))
  | some kind =>
    obtain ⟨token, here, _⟩ := Option.map_eq_some_iff.1 found
    have inner := inner (lt_length_of_token?_eq_some here)
    have late : start + 1 ≤ start + 1 := Nat.le_refl _
    cases kind with
    | scope => exact scopeBlock_fails inner late
    | print => exact printBlock_fails inner late
    | ifBlock => exact conditionalBlock_fails inner late
    | switch => exact switchBlock_fails inner late
    | foreach => exact foreachBlock_fails inner late
    | whileBlock => exact loopBlock_fails inner late
    | render => exact renderBlock_fails
    | renderContent => exact renderContentBlock_fails
    | contentFor => exact contentForBlock_fails inner late
    | layout => exact .failHere (.plain trivial)
    | expressionStart => exact actionSpan_fails
    | printExpressionStart => exact printSpan_fails
    | commentExpressionStart => exact commentSpan_fares.fails
    | commentStart => exact enclosed_fails rfl
    | cdataStart => exact enclosed_fails rfl
    | doctype => exact doctypeMarkup_fails
    | elementStart => exact element_fails inner late
    | whitespace => exact spaceRun_fails
    | elseIf | elseBlock | case | defaultCase | blockClosingStart | expressionEnd |
      elementClosingStart => exact .failUnexpected
    -- What is left is text, or refused by a table of its own.
    | _ => exact textOrUnknown_fails

/-- **Nodes.**  A depth above the length of the text that is left is enough: by induction on
the depth, as less text is left where the nodes inside start. -/
theorem node_fails (depth : Nat) (enough : text.length - start < depth) :
    Fails lexicon text (node depth) start := by
  induction depth generalizing start with
  | zero => exact absurd enough (Nat.not_lt_zero _)
  | succ depth ih =>
    refine nodeWith_fails fun inside => ⟨node_walks depth, fun later behind => ih ?_⟩
    omega

theorem node_nestedFares {depth : Nat} (enough : text.length - first < depth) :
    NestedFares lexicon text (node depth) first :=
  ⟨node_walks depth, fun start late => node_fails depth (by omega)⟩

/-- Whether the source has ended. -/
def sourceEnd : Reader Bool := do
  return (← peekKind).isNone

theorem sourceEnd_fares : Fares lexicon text sourceEnd start fun _ stop => stop = start :=
  .peekKind (.pure rfl)

theorem nodesToEnd_eq (nested : Reader Node) :
    (fun turns (_ : Unit) => nodesToEnd nested turns)
      = loopOf (failHere .exhausted) fun _ => listTurn sourceEnd nested := by
  refine eq_loopOf (fun _ => rfl) fun turns _ => ?_
  simp only [nodesToEnd, listTurn, sourceEnd, bind_assoc, ite_bind, pure_bind]

theorem nodesToEnd_fails (inner : NestedFares lexicon text nested first) {turns : Nat}
    (late : first ≤ start) (enough : text.length - start < turns) :
    Fails lexicon text (nodesToEnd nested turns) start := by
  refine .loop (nodesToEnd_eq nested) (fun _ start late => ?_) () late enough
  exact listTurn_fares sourceEnd_fares ((inner.fares late).mono fun _ _ _ node => node.less)

/-- **Whole documents** fail in the known ways. -/
theorem document_fails : Fails lexicon text document start := by
  have rest (layout : List Node) {start : Nat} : Fails lexicon text (do
      let nodes ← nodesToEnd (node (← budget)) (← budget)
      return (⟨layout ++ nodes⟩ : ViewTemplate.Document)) start := by
    have enough : text.length - start < text.length - start + 1 := Nat.lt_succ_self _
    refine .budget (.budget (.change ?_))
    exact nodesToEnd_fails (node_nestedFares enough) (Nat.le_refl start) enough
  refine .sees ?_
  split
  · refine .bind ⟨layoutBlock_walks, layoutBlock_fails⟩ fun layout middle _ _ => ?_
    exact .given (rest [layout])
  · exact .given (rest [])

/-! ## Budgets -/

/-- A fault of a budget that ran out. -/
def IsBudget (fault : ParseFault) : Prop :=
  fault = .exhausted ∨ fault = .snippet .exhausted

/-- No fault at an offset is that of a budget: reading a snippet runs out of none. -/
theorem FaultAt.not_isBudget {fault : ParseFault} {offset : Nat}
    (isAt : FaultAt lexicon text fault offset) : ¬IsBudget fault := by
  have expression {raw : String} : Snippet.readExpression raw ≠ .error .exhausted :=
    Snippet.onSnippet_ne_exhausted (fun _ => Snippet.soleExpression_ends) raw
  have statement {raw : String} : Snippet.readStatement raw ≠ .error .exhausted :=
    Snippet.onSnippet_ne_exhausted (fun _ => Snippet.soleStatement_ends) raw
  rintro (rfl | rfl)
  · cases isAt with
    | plain plain => exact plain
    | snippet fails => cases fails
  · cases isAt with
    | plain plain => exact plain
    | snippet fails =>
      cases fails with
      | value _ _ _ _ fails => exact expression fails
      | collection _ _ _ _ _ _ fails => exact expression fails
      | statement _ _ _ fails => exact statement fails
      | expression _ _ _ fails => exact expression fails

/-- No budget of a reader runs out at an offset. -/
def Suffices (lexicon : Lexicon) (text : List Char) (reader : Reader α) (start : Nat) : Prop :=
  ∀ error, (reader.run lexicon).run (cursorAt lexicon text start) = .error error →
    ¬IsBudget error.fault

theorem Fails.suffices {reader : Reader α} (fails : Fails lexicon text reader start)
    (delimiters : lexicon.HasDelimiters) : Suffices lexicon text reader start := by
  intro error failed
  obtain ⟨offset, -, isAt⟩ := fails delimiters error failed
  exact isAt.not_isBudget

/-- **A loop that takes a character in each turn**, from an offset on.  It is a turn that is
repeated, and a turn runs out of no budget; if the loop goes on, the turn has taken a
character, so that less of the text is left. -/
def Advances {σ : Type} (lexicon : Lexicon) (text : List Char) (first : Nat)
    (loop : Nat → σ → Reader α) : Prop :=
  ∃ turn : σ → Reader (LoopTurn σ α), loop = loopOf (failHere .exhausted) turn ∧
    ∀ state start, first ≤ start →
      Suffices lexicon text (turn state) start ∧
        Walks lexicon text (turn state) start fun decided stop =>
          decided.Holds (text.length - stop < text.length - start) True

theorem advances_of_fares {σ : Type} {turn : σ → Reader (LoopTurn σ α)} {loop : Nat → σ → Reader α}
    (delimiters : lexicon.HasDelimiters) (same : loop = loopOf (failHere .exhausted) turn)
    (steps : ∀ state start, first ≤ start →
      Fares lexicon text (turn state) start fun decided stop =>
        decided.Holds (text.length - stop < text.length - start) True) :
    Advances lexicon text first loop :=
  ⟨turn, same, fun state start late =>
    ⟨(steps state start late).fails.suffices delimiters, (steps state start late).walks⟩⟩

/-- **The loops of the grammar** take a character in each turn, from an offset on. -/
structure LoopsAdvance (lexicon : Lexicon) (text : List Char) (nested : Reader Node)
    (first : Nat) : Prop where
  texts : ∀ belongs, Advances lexicon text first fun turns (_ : Unit) => textsWhile belongs turns
  bodies : ∀ kind,
    Advances lexicon text first fun turns (_ : Unit) => nodesBefore nested kind turns
  nodes : Advances lexicon text first fun turns (_ : Unit) => nodesToEnd nested turns
  parameters : ∀ quote, Advances lexicon text first (blockParameters quote)
  alternates : Advances lexicon text first fun turns admitsElseIf =>
    alternate nested admitsElseIf turns
  cases : Advances lexicon text first (switchCases nested)
  names : Advances lexicon text first loopNames
  attributes : Advances lexicon text first fun turns (_ : Unit) => attributeList turns
  parts : ∀ quote, Advances lexicon text first fun turns (_ : Unit) => attributeParts quote turns

theorem NestedFares.loopsAdvance (inner : NestedFares lexicon text nested first)
    (delimiters : lexicon.HasDelimiters) : LoopsAdvance lexicon text nested first where
  texts belongs := advances_of_fares delimiters (textsWhile_eq belongs) fun _ _ _ =>
    textTurn_fares belongs
  bodies kind := advances_of_fares delimiters (nodesBefore_eq nested kind) fun _ _ late =>
    listTurn_fares (sees_fares kind) ((inner.fares late).mono fun _ _ _ node => node.less)
  nodes := advances_of_fares delimiters (nodesToEnd_eq nested) fun _ _ late =>
    listTurn_fares sourceEnd_fares ((inner.fares late).mono fun _ _ _ node => node.less)
  parameters quote := advances_of_fares delimiters (blockParameters_eq quote) fun _ _ _ =>
    parameterTurn_fares quote _
  alternates := advances_of_fares delimiters (alternate_eq nested) fun _ _ late =>
    alternateTurn_fares inner late _
  cases := advances_of_fares delimiters (switchCases_eq nested) fun _ _ late =>
    caseTurn_fares inner late _
  names := advances_of_fares delimiters loopNames_eq fun _ _ _ => loopNameTurn_fares _
  attributes := advances_of_fares delimiters attributeList_eq fun _ _ _ => attributeTurn_fares
  parts quote := advances_of_fares delimiters (attributeParts_eq quote) fun _ _ _ =>
    partTurn_fares quote

/-! ## Whole sources -/

/-- Every error is at an offset of the source at which its fault is. -/
theorem parse_fails {options : LexicalOptions} {source : String} {error : ParseError}
    (valid : options.validate = .ok ()) (failed : parse options source = .error error) :
    ∃ offset, error.position = positionAt options.tabWidth
        (replaceAll source.toList ['\r', '\n'] ['\n']) offset
      ∧ FaultAt options.lexicon (replaceAll source.toList ['\r', '\n'] ['\n']) error.fault
        offset := by
  rw [parse_of_validate valid] at failed
  cases ran : (document.run options.lexicon).run (cursorAt options.lexicon
      (replaceAll source.toList ['\r', '\n'] ['\n']) 0) with
  | ok result =>
    rw [ran] at failed
    cases failed
  | error fault =>
    rw [ran] at failed
    cases failed
    exact document_fails (LexicalOptions.hasDelimiters valid) error ran

/-- **The parser ends.**  With settings that can be used, no source makes it run out of a
budget.  A node that is read leaves less of the text, a depth above the length of what is left
is enough to read it, and every loop takes a character in each turn.  The same is true of
snippets, whatever their tokens are: an expression that is read leaves fewer tokens, and every
loop takes a token in each turn. -/
theorem parse_terminates {options : LexicalOptions} (valid : options.validate = .ok ()) :
    (∀ source error, parse options source = .error error → ¬IsBudget error.fault)
      ∧ (∀ text depth start,
        (∀ read after, ((node depth).run options.lexicon).run
            (cursorAt options.lexicon text start) = .ok (read, after) →
          after.rest.length < (text.drop start).length)
        ∧ ((text.drop start).length < depth →
          Suffices options.lexicon text (node depth) start
            ∧ LoopsAdvance options.lexicon text (node depth) start))
      ∧ (∀ tokens, Snippet.soleExpression.onTokens tokens ≠ .error .exhausted
        ∧ Snippet.soleStatement.onTokens tokens ≠ .error .exhausted)
      ∧ ∀ depth,
        (∀ cursor read after, (Snippet.expression depth).run cursor = .ok (read, after) →
          after.tokens.length < cursor.tokens.length)
        ∧ Snippet.LoopsAdvance (Snippet.expression depth) depth := by
  have delimiters : options.lexicon.HasDelimiters := LexicalOptions.hasDelimiters valid
  refine ⟨fun source error failed => ?_, fun text depth start => ⟨?_, fun enough => ?_⟩, ?_, ?_⟩
  · obtain ⟨offset, -, isAt⟩ := parse_fails valid failed
    exact isAt.not_isBudget
  · intro read after ran
    obtain ⟨stop, -, same, node⟩ := node_walks depth start delimiters _ ran
    have less := node.less
    rw [show after = cursorAt options.lexicon text stop from same, cursorAt, List.length_drop,
      List.length_drop]
    exact less
  · rw [List.length_drop] at enough
    have inner : NestedFares options.lexicon text (node depth) start := node_nestedFares enough
    exact ⟨(inner.fails start (Nat.le_refl start)).suffices delimiters,
      inner.loopsAdvance delimiters⟩
  · intro tokens
    exact ⟨Snippet.onTokens_ne_exhausted (fun _ => Snippet.soleExpression_ends) tokens,
      Snippet.onTokens_ne_exhausted (fun _ => Snippet.soleStatement_ends) tokens⟩
  · intro depth
    exact ⟨fun _ _ _ => Snippet.expression_lt, (Snippet.expression_consumes depth).loopsAdvance⟩

/-- A tag at which the source ends is refused there.  Five levels are enough to read its four
characters. -/
theorem parse_terminates_open_tag :
    let lexicon : Lexicon := LexicalOptions.lexicon {}
    parse {} "<p a" = .error ⟨.endOfSource, ⟨1, 5⟩⟩ ∧ ¬IsBudget .endOfSource
      ∧ Suffices lexicon "<p a".toList (node 5) 0 ∧ LoopsAdvance lexicon "<p a".toList (node 5) 0
      ∧ Snippet.soleExpression.onTokens [] ≠ .error .exhausted := by
  have valid : LexicalOptions.validate {} = .ok () := rfl
  have refused : (parse {} "<p a").map (fun _ => ()) = .error ⟨.endOfSource, ⟨1, 5⟩⟩ := by
    decide +kernel
  have failed := eq_error_of_map refused
  obtain ⟨errors, nodes, snippets, -⟩ := parse_terminates valid
  have enough := (nodes "<p a".toList 5 0).2 (by decide)
  exact ⟨failed, errors _ _ failed, enough.1, enough.2, (snippets []).1⟩

end ViewTemplate.Document
