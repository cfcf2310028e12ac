import ViewTemplate.Proofs.Document.Recovery

/-!
# What the productions recover

Each production of the grammar recovers the node that it is meant for, if the readers of
the nodes inside and of the branch behind it do.

The nodes inside a block are given by what is recovered from their text before a closing
tag (`RecoversBody`), and the branch that follows one by what is recovered before a rest
(`RecoversNext`).  So no production looks into the nodes that stand in it, and how deep
they are nested is no matter here.

What stands behind a node is not.  A block that no branch follows has to stop before
something that is not taken for a branch (`Clear`), and a text before something that is
not taken for more of it (`EndsText`).

## Main Definitions

* `RecoversBody` — nodes side by side are recovered, up to a closing tag
* `RecoversNode` — a node is recovered before a rest
* `RecoversNext` — so is the branch that may follow a node
* `Clear`, `EndsText` — what may stand behind a block, and behind a text
-/

namespace ViewTemplate.Document

open Template Text Writing

variable {wording : Wording} {nested : Reader Node} {children : List Node} {rest : List Char}

/-! ## Bodies of blocks -/

/-- A text begins with a closing tag of a kind. -/
structure ClosesBody (kind : TokenKind) (rest : List Char) : Prop where
  closing : kind = .blockClosingStart ∨ kind = .elementClosingStart
  first : firstKind rest = some kind
  start : rest.head? = some '<'

/-- **Nodes side by side are recovered** from their text, up to a closing tag. -/
def RecoversBody (wording : Wording) (nested : Reader Node) (nodes : List Node) : Prop :=
  ∀ (kind : TokenKind) (rest : List Char) (turns : Nat), ClosesBody kind rest →
    (Node.written.writtenNodes wording nodes).length < turns →
    Recovers (nodesBefore nested kind turns) (Node.written.writtenNodes wording nodes ++ rest) rest
      fun found => found.map Node.unplaced = nodes.map Node.unplaced

theorem tagEnd_recovers : Recovers tagEnd ('>' :: rest) rest fun _ => True := by
  refine .bind (skipSpace_leaves (cuts_tagEnd.firstKind_ne (by decide))) fun _ _ => ?_
  exact .bind (expect_mark cuts_tagEnd) fun _ _ => .pure trivial

/-- The space before the end of a tag that closes itself. -/
theorem skipSpace_selfClosing :
    Recovers skipSpace (selfClosing ++ rest) ('/' :: '>' :: rest) fun _ => True :=
  skipSpace_recovers 1 (by rintro _ ⟨⟩; rfl) (cuts_slash.firstKind_ne (by decide))

/-- The end of a tag that closes itself, with spaces before it or none. -/
theorem selfClosingEnd_recovers (count : Nat) :
    Recovers selfClosingEnd (List.replicate count ' ' ++ '/' :: '>' :: rest) rest
      fun _ => True := by
  refine .bind (skipSpace_recovers count (by rintro _ ⟨⟩; rfl)
    (cuts_slash.firstKind_ne (by decide))) fun _ _ => ?_
  refine .bind (expect_mark cuts_slash) fun _ _ => ?_
  exact .bind (expect_mark cuts_tagEnd) fun _ _ => .pure trivial

theorem firstKind_closer : firstKind (closer ++ rest) = some .blockClosingStart :=
  (@cuts_closer rest).firstKind

theorem closer_recovers :
    Recovers (expect .blockClosingStart) (closer ++ rest) ('>' :: rest) fun _ => True :=
  (expect_recovers cuts_closer rfl).mono fun _ _ => trivial

theorem scope_recovers :
    Recovers (expect .scope) ('<' :: 'j' :: 's' :: '>' :: rest) ('>' :: rest) fun _ => True :=
  (expect_recovers cuts_scope rfl).mono fun _ _ => trivial

theorem blockBody_recovers (inner : RecoversBody wording nested children) :
    Recovers (blockBody nested)
      (Node.written.writtenNodes wording children ++ (closer ++ rest)) rest
      fun found => found.map Node.unplaced = children.map Node.unplaced := by
  refine .budget ?_
  refine .bind (inner _ _ _ ⟨.inl rfl, firstKind_closer, rfl⟩ ?_) fun found same => ?_
  · rw [List.length_append]
    omega
  · refine .bind closer_recovers fun _ _ => .bind tagEnd_recovers fun _ _ => .pure same

theorem enclosed_append (inside rest : List Char) :
    enclosed inside ++ rest = '>' :: (inside ++ (closer ++ rest)) := by
  simp [enclosed]

theorem blockRest_recovers (inner : RecoversBody wording nested children) :
    Recovers (blockRest nested)
      (enclosed (Node.written.writtenNodes wording children) ++ rest) rest
      fun found => found.map Node.unplaced = children.map Node.unplaced := by
  rw [enclosed_append]
  exact .bind tagEnd_recovers fun _ _ => blockBody_recovers inner

/-- A word opens blocks of a kind. -/
structure Opens (keyword : String) (kind : TokenKind) : Prop where
  word : TokenKind.ofBlockWord? keyword = some kind
  plain : keyword.toList.any endsKeyword = false

theorem Opens.cuts {keyword : String} {kind : TokenKind} (opens : Opens keyword kind)
    (stop : ∀ c ∈ rest.head?, endsKeyword c = true) :
    Cuts ⟨kind, opener keyword, some "js"⟩ rest := by
  have cuts := cuts_opener (fun _ => eq_false_of_any opens.plain) stop
  rwa [opens.word] at cuts

theorem Opens.recovers {keyword : String} {kind : TokenKind} (opens : Opens keyword kind)
    (stop : ∀ c ∈ rest.head?, endsKeyword c = true) :
    Recovers (expect kind) (opener keyword ++ rest) rest fun _ => True :=
  (expect_recovers (opens.cuts stop) rfl).mono fun _ _ => trivial

theorem Opens.firstKind_value {keyword : String} {kind : TokenKind} (opens : Opens keyword kind)
    (value rest : List Char) :
    firstKind (opener keyword ++ (assigned value ++ rest)) = some kind :=
  (opens.cuts (by rintro _ ⟨⟩; rfl)).firstKind

theorem Opens.firstKind_enclosed {keyword : String} {kind : TokenKind}
    (opens : Opens keyword kind) (inside rest : List Char) :
    firstKind (opener keyword ++ (enclosed inside ++ rest)) = some kind :=
  (opens.cuts (by rintro _ ⟨⟩; rfl)).firstKind

theorem branch_recovers {keyword : String} {kind : TokenKind} (opens : Opens keyword kind)
    {condition : Expression} (legible : Node.Spellable.Legible condition)
    (inner : RecoversBody wording nested children) :
    Recovers (branch nested kind)
      (opener keyword ++ (assigned condition.source.toList
        ++ (enclosed (Node.written.writtenNodes wording children) ++ rest))) rest
      fun found => found.condition.unplaced = condition.unplaced
        ∧ found.children.map Node.unplaced = children.map Node.unplaced := by
  refine .bind (opens.recovers (by rintro _ ⟨⟩; rfl)) fun _ _ => ?_
  refine .bind (blockExpression_recovers legible) fun found same => ?_
  exact .bind (blockRest_recovers inner) fun nodes sames => .pure ⟨same, sames⟩

/-- The part of a block opener behind its value. -/
theorem tail_append (keyword : String) (value rest : List Char) :
    Writing.tail keyword value ++ rest
      = List.replicate 1 ' ' ++ ('@' :: (keyword.toList ++ (assigned value ++ rest))) := by
  simp [Writing.tail]

theorem firstKind_assigned (value rest : List Char) :
    firstKind (assigned value ++ rest) = some .equals :=
  (@cuts_equals (assigned value ++ rest).tail).firstKind

theorem firstKind_block (value rest : List Char) :
    firstKind ('@' :: ("block".toList ++ (assigned value ++ rest))) = some .blockAttribute :=
  (@cuts_block (assigned value ++ rest).tail).firstKind

theorem firstKind_context (value rest : List Char) :
    firstKind ('@' :: ("context".toList ++ (assigned value ++ rest))) = some .contextAttribute :=
  (@cuts_context (assigned value ++ rest).tail).firstKind

/-! ## Blocks -/

/-- **A node is recovered** from its text, before a rest. -/
def RecoversNode (wording : Wording) (reader : Reader Node) (node : Node) (rest : List Char) :
    Prop :=
  Recovers reader (node.written wording ++ rest) rest fun found => found.unplaced = node.unplaced

/-- **A branch that may follow is recovered** from its text, before a rest. -/
def RecoversNext (wording : Wording) (nested : Reader Node) (admitsElseIf : Bool)
    (next : Option Node) (rest : List Char) : Prop :=
  ∀ turns, (Node.written.writtenNext wording next).length < turns →
    Recovers (alternate nested admitsElseIf turns)
      (Node.written.writtenNext wording next ++ rest) rest
      fun found => found.map Node.unplaced = next.map Node.unplaced

section Blocks

variable {position : Position} {condition : Expression} {next : Option Node}

theorem scopeBlock_recovers (inner : RecoversBody wording nested children) :
    RecoversNode wording (scopeBlock nested) (.scope position children) rest := by
  rw [RecoversNode, Node.written]
  simp only [List.cons_append]
  rw [enclosed_append]
  refine .bind scope_recovers fun _ _ => ?_
  rw [← enclosed_append]
  refine .bind (blockRest_recovers inner) fun found same => .pure ?_
  simp [Node.unplaced, same]

theorem printBlock_recovers_value (legible : Node.Spellable.Legible condition) :
    RecoversNode wording (printBlock nested) (.print position condition none) rest := by
  rw [RecoversNode, Node.written, List.append_assoc, List.append_assoc]
  refine .bind (Opens.recovers ⟨rfl, by decide⟩ (by rintro _ ⟨⟩; rfl)) fun _ _ => ?_
  refine .bind (blockExpression_recovers legible) fun found same => ?_
  refine .bind skipSpace_selfClosing fun _ _ => ?_
  refine .misses (cuts_slash.firstKind_ne (by decide)) ?_
  rw [if_neg Bool.false_ne_true]
  refine .bind (eat_mark cuts_slash) fun _ eaten => ?_
  subst eaten
  rw [if_pos rfl]
  refine .bind (expect_mark cuts_tagEnd) fun _ _ => .pure ?_
  simp [Node.unplaced, same]

theorem printBlock_recovers_block {parameters : List String}
    (legible : Node.Spellable.Legible condition) (distinct : parameters.Nodup)
    (named : ∀ name ∈ parameters, IsVariable name)
    (inner : RecoversBody wording nested children) :
    RecoversNode wording (printBlock nested)
      (.print position condition (some (parameters, children))) rest := by
  rw [RecoversNode, Node.written]
  simp only [List.append_assoc]
  refine .bind (Opens.recovers ⟨rfl, by decide⟩ (by rintro _ ⟨⟩; rfl)) fun _ _ => ?_
  refine .bind (blockExpression_recovers legible) fun found same => ?_
  rw [enclosed_append]
  by_cases none : parameters = []
  · rw [if_pos none, List.nil_append]
    refine .bind (skipSpace_leaves (cuts_tagEnd.firstKind_ne (by decide))) fun _ _ => ?_
    refine .misses (cuts_tagEnd.firstKind_ne (by decide)) ?_
    rw [if_neg Bool.false_ne_true]
    refine .bind (eat_leaves (cuts_tagEnd.firstKind_ne (by decide))) fun _ eaten => ?_
    subst eaten
    rw [if_neg Bool.false_ne_true]
    refine .bind (expect_mark cuts_tagEnd) fun _ _ => ?_
    refine .bind (blockBody_recovers inner) fun nodes sames => .pure ?_
    simp [Node.unplaced, same, sames, none]
  · rw [if_neg none, tail_append]
    have first := firstKind_block (listed wording.gap parameters)
      ('>' :: (Node.written.writtenNodes wording children ++ (closer ++ rest)))
    refine .bind (skipSpace_recovers 1 (by rintro _ ⟨⟩; rfl) (firstKind_ne first (by decide)))
      fun _ _ => .sees first ?_
    rw [if_pos rfl]
    refine .bind (parameterList_recovers none distinct named
      (cuts_tagEnd.firstKind_ne (by decide))) fun names listed => ?_
    subst listed
    refine .bind (expect_mark cuts_tagEnd) fun _ _ => ?_
    refine .bind (blockBody_recovers inner) fun nodes sames => .pure ?_
    simp [Node.unplaced, same, sames]

theorem conditionalBlock_recovers (legible : Node.Spellable.Legible condition)
    (inner : RecoversBody wording nested children)
    (behind : RecoversNext wording nested true next rest) :
    RecoversNode wording (conditionalBlock nested)
      (.conditional position condition children next) rest := by
  rw [RecoversNode, Node.written]
  simp only [List.append_assoc]
  refine .bind (branch_recovers ⟨rfl, by decide⟩ legible inner) fun found same => .budget ?_
  refine .bind (behind _ ?_) fun other sames => .pure ?_
  · rw [List.length_append]
    omega
  · simp [Node.unplaced, same, sames]

/-! ### Branches that follow -/

/-- What stands behind a block that no branch follows. -/
def Clear (rest : List Char) : Prop :=
  ∀ kind ∈ firstKind rest,
    kind ∉ [.whitespace, .commentExpressionStart, .elseIf, .elseBlock]

/-- No branch follows at the end of a text. -/
theorem clear_nil : Clear [] :=
  nofun

theorem alternate_recovers_none (admitsElseIf : Bool) (clear : Clear rest) :
    RecoversNext wording nested admitsElseIf none rest := by
  intro turns enough
  obtain ⟨turns, rfl⟩ := Nat.exists_eq_add_one_of_ne_zero (Nat.ne_zero_of_lt enough)
  refine .peekKind ?_
  rw [Node.written.writtenNext, List.nil_append]
  cases first : firstKind rest with
  | none => exact .pure rfl
  | some kind =>
    have apart := clear kind first
    cases kind with
    | whitespace | commentExpressionStart | elseIf | elseBlock => exact absurd (by decide) apart
    | _ => exact .pure rfl

theorem alternate_recovers_elseIf (legible : Node.Spellable.Legible condition)
    (inner : RecoversBody wording nested children)
    (behind : RecoversNext wording nested true next rest) :
    RecoversNext wording nested true (some (.elseIf position condition children next)) rest := by
  intro turns enough
  obtain ⟨turns, rfl⟩ := Nat.exists_eq_add_one_of_ne_zero (Nat.ne_zero_of_lt enough)
  rw [Node.written.writtenNext, Node.written] at enough ⊢
  simp only [List.append_assoc]
  have opens : Opens "else-if" .elseIf := ⟨rfl, by decide⟩
  have first := opens.firstKind_value condition.source.toList
    (enclosed (Node.written.writtenNodes wording children)
      ++ (Node.written.writtenNext wording next ++ rest))
  refine .peekKind ?_
  rw [first]
  dsimp only
  rw [if_pos rfl]
  refine .bind (branch_recovers opens legible inner) fun found same => ?_
  refine .bind (behind turns ?_) fun other sames => .pure ?_
  · simp only [List.length_append, opener, List.length_cons] at enough
    omega
  · simp [Node.unplaced, same, sames]

theorem alternate_recovers_otherwise (admitsElseIf : Bool)
    (inner : RecoversBody wording nested children) :
    RecoversNext wording nested admitsElseIf (some (.otherwise position children)) rest := by
  intro turns enough
  obtain ⟨turns, rfl⟩ := Nat.exists_eq_add_one_of_ne_zero (Nat.ne_zero_of_lt enough)
  rw [Node.written.writtenNext, Node.written, List.append_assoc]
  have opens : Opens "else" .elseBlock := ⟨rfl, by decide⟩
  have first := opens.firstKind_enclosed (Node.written.writtenNodes wording children) rest
  refine .peekKind ?_
  rw [first]
  dsimp only
  refine .bind (opens.recovers (by rintro _ ⟨⟩; rfl)) fun _ _ => ?_
  refine .bind (blockRest_recovers inner) fun found same => .pure ?_
  simp [Node.unplaced, same]

/-! ### Other blocks -/

theorem loopBlock_recovers (legible : Node.Spellable.Legible condition)
    (inner : RecoversBody wording nested children) :
    RecoversNode wording (loopBlock nested) (.loop position condition children) rest := by
  rw [RecoversNode, Node.written]
  simp only [List.append_assoc]
  refine .bind (branch_recovers ⟨rfl, by decide⟩ legible inner) fun found same => .pure ?_
  simp [Node.unplaced, same]

/-- What is read of a loop behind the word before its collection. -/
def foreachBehind (nested : Reader Node) (names : List String) (place : Position) :
    Reader Node := do
  let position ← here
  let text ← textUpTo .doubleQuote
  let collection ← captured (captureExpression (trim text) position)
  let children ← blockRest nested
  return .foreach place names collection children (← alternate nested false (← budget))

/-- What is read of a loop behind the quote before its names. -/
def foreachValue (nested : Reader Node) (quote : TokenKind) (place : Position) :
    Reader Node := do
  let names ← loopNames (← budget) []
  loopWord
  skipSpace
  let position ← here
  let text ← textUpTo quote
  let collection ← captured (captureExpression (trim text) position)
  let children ← blockRest nested
  return .foreach place names collection children (← alternate nested false (← budget))

/-- A loop is read up to the quote before its names. -/
theorem foreachBlock_leads_value (quote : Quote) {value : List Char} :
    LeadsTo (foreachBlock nested) (opener "foreach" ++ '=' :: quote.character :: value)
      (foreachValue nested quote.kind) value fun _ => True := by
  have opens : Opens "foreach" .foreach := ⟨rfl, by decide⟩
  have notSpace : quote.kind ≠ .whitespace := by cases quote <;> nofun
  refine .after (opens.recovers (by rintro _ ⟨⟩; rfl)) fun token _ => ?_
  refine .after (skipSpace_leaves (cuts_equals.firstKind_ne (by decide))) fun _ _ => ?_
  refine .after (expect_mark cuts_equals) fun _ _ => ?_
  refine .after (skipSpace_leaves ((@Quote.cuts value quote).firstKind_ne notSpace)) fun _ _ => ?_
  refine .after quote.recovers fun _ same => ?_
  subst same
  exact .refl token.position trivial rfl

/-- What is read of a loop behind the white space before its collection. -/
def foreachCollection (nested : Reader Node) (quote : TokenKind) (names : List String)
    (place : Position) : Reader Node := do
  let position ← here
  let text ← textUpTo quote
  let collection ← captured (captureExpression (trim text) position)
  let children ← blockRest nested
  return .foreach place names collection children (← alternate nested false (← budget))

/-- Behind its names a loop is read up to its collection, and white space before that is
dropped. -/
theorem foreachValue_leads (quote : Quote) {names : List String} {text : List Char} {gap : Nat}
    (word : LoopWord) (few : names.length = 1 ∨ names.length = 2) (distinct : names.Nodup)
    (named : ∀ name ∈ names, IsVariable name) (place : Position) :
    LeadsTo (foreachValue nested quote.kind place)
      (listed gap names ++ ' ' :: (word.characters ++ ' ' :: (text ++ quote.character :: rest)))
      (fun _ : Unit => foreachCollection nested quote.kind names place)
      (text.dropWhile isSpace ++ quote.character :: rest) fun _ => True := by
  refine .after .counts fun _ same => ?_
  subst same
  refine .after (loopNames_recovers word few distinct named ?_) fun _ same => ?_
  · have enough := length_listed gap names
    rw [List.length_append, List.length_cons]
    omega
  subst same
  refine .after (loopWord_recovers word) fun _ _ => ?_
  exact .after (skipSpace_collection quote) fun _ _ => .refl () trivial rfl

/-- A loop is read up to its collection, and white space before that is dropped. -/
theorem foreachBlock_leads {names : List String} {text : List Char}
    (few : names.length = 1 ∨ names.length = 2) (distinct : names.Nodup)
    (named : ∀ name ∈ names, IsVariable name) :
    LeadsTo (foreachBlock nested)
      (opener "foreach" ++ (assigned (listed wording.gap names
        ++ ' ' :: (wording.loopWord.characters ++ ' ' :: text)) ++ rest))
      (foreachBehind nested names) (text.dropWhile isSpace ++ '"' :: rest) fun _ => True := by
  have written : assigned (listed wording.gap names
        ++ ' ' :: (wording.loopWord.characters ++ ' ' :: text)) ++ rest
      = '=' :: '"' :: (listed wording.gap names
        ++ ' ' :: (wording.loopWord.characters ++ ' ' :: (text ++ '"' :: rest))) := by
    simp [assigned]
  rw [written]
  refine (foreachBlock_leads_value .double).trans fun place _ => ?_
  refine (foreachValue_leads .double wording.loopWord few distinct named place).trans fun _ _ => ?_
  exact .refl place trivial rfl

theorem foreachBlock_recovers_of_tiled {names : List String} {collection : Expression}
    {text : List Char} (few : names.length = 1 ∨ names.length = 2) (distinct : names.Nodup)
    (named : ∀ name ∈ names, IsVariable name) (noQuote : '"' ∉ text)
    (tiled : Tiled ('"' :: (enclosed (Node.written.writtenNodes wording children)
      ++ (Node.written.writtenNext wording next ++ rest))) text)
    (source : trim (String.ofList (text.dropWhile isSpace)) = collection.source)
    (accepted : Snippet.readExpression collection.source = .ok collection.body)
    (inner : RecoversBody wording nested children)
    (behind : RecoversNext wording nested false next rest) :
    Recovers (foreachBlock nested)
      (opener "foreach" ++ (assigned (listed wording.gap names
        ++ ' ' :: (wording.loopWord.characters ++ ' ' :: text))
        ++ (enclosed (Node.written.writtenNodes wording children)
          ++ (Node.written.writtenNext wording next ++ rest)))) rest
      fun found => found.unplaced
        = (Node.foreach position names collection children next).unplaced := by
  refine (foreachBlock_leads few distinct named).recovers fun _ _ => .here fun _ => ?_
  refine .bind (collection_recovers .double noQuote tiled) fun _ same => ?_
  rw [same, source]
  refine .bind (captured_recovers accepted) fun found same => ?_
  subst same
  refine .bind (blockRest_recovers inner) fun nodes sames => .budget ?_
  refine .bind (behind _ ?_) fun other others => .pure ?_
  · rw [List.length_append]
    omega
  · simp [Node.unplaced, sames, others, Captured.unplaced]

/-- White space is blank, so a trimmed text does not begin with it. -/
theorem dropWhile_isSpace_of_trimmed {text : String} (trimmed : trim text = text) :
    text.toList.dropWhile isSpace = text.toList := by
  cases same : text.toList with
  | nil => rfl
  | cons c others =>
    refine List.dropWhile_cons_of_neg fun space => ?_
    have blank := isBlank_of_isSpace space
    rw [isBlank_head trimmed same] at blank
    cases blank

theorem foreachBlock_recovers {names : List String} {collection : Expression}
    (few : names.length = 1 ∨ names.length = 2) (distinct : names.Nodup)
    (named : ∀ name ∈ names, IsVariable name) (legible : Node.Spellable.Legible collection)
    (trailing : Trailing collection.source) (inner : RecoversBody wording nested children)
    (behind : RecoversNext wording nested false next rest) :
    RecoversNode wording (foreachBlock nested)
      (.foreach position names collection children next) rest := by
  obtain ⟨accepted, trimmed, noQuote, -⟩ := legible
  rw [RecoversNode, Node.written]
  simp only [List.append_assoc]
  refine foreachBlock_recovers_of_tiled few distinct named noQuote (.of_trailing trailing) ?_
    accepted inner behind
  rw [dropWhile_isSpace_of_trimmed trimmed, String.ofList_toList, trimmed]

theorem renderBlock_recovers {path : String} {context : Option Expression} (label : IsLabel path)
    (legible : ∀ handle ∈ context, Node.Spellable.Legible handle) :
    RecoversNode wording renderBlock (.render position path context) rest := by
  rw [RecoversNode, Node.written]
  simp only [List.append_assoc]
  refine .bind (Opens.recovers ⟨rfl, by decide⟩ (by rintro _ ⟨⟩; rfl)) fun _ _ => ?_
  refine .bind (blockName_recovers label) fun _ same => ?_
  subst same
  cases context with
  | none =>
    rw [Option.elim_none, List.nil_append]
    refine .bind skipSpace_selfClosing fun _ _ => ?_
    refine .bind (eat_leaves (cuts_slash.firstKind_ne (by decide))) fun _ eaten => ?_
    subst eaten
    rw [if_neg Bool.false_ne_true]
    exact .bind (selfClosingEnd_recovers 0) fun _ _ => .pure rfl
  | some handle =>
    rw [Option.elim_some, tail_append]
    have first := firstKind_context handle.source.toList (selfClosing ++ rest)
    refine .bind (skipSpace_recovers 1 (by rintro _ ⟨⟩; rfl) (firstKind_ne first (by decide)))
      fun _ _ => ?_
    refine .bind (eat_recovers cuts_context rfl) fun _ eaten => ?_
    subst eaten
    rw [if_pos rfl]
    refine .bind (blockExpression_recovers (legible handle rfl)) fun found same => ?_
    refine .bind (selfClosingEnd_recovers 1) fun _ _ => .pure ?_
    simp [Node.unplaced, same]

theorem renderContentBlock_recovers {slot : Option String} (label : ∀ name ∈ slot, IsLabel name) :
    RecoversNode wording renderContentBlock (.renderContent position slot) rest := by
  rw [RecoversNode, Node.written]
  simp only [List.append_assoc]
  have opens : Opens "render-content" .renderContent := ⟨rfl, by decide⟩
  cases slot with
  | none =>
    rw [Option.elim_none, List.nil_append]
    refine .bind (opens.recovers (by rintro _ ⟨⟩; rfl)) fun _ _ => ?_
    refine .bind skipSpace_selfClosing fun _ _ => ?_
    refine .misses (cuts_slash.firstKind_ne (by decide)) ?_
    rw [if_neg Bool.false_ne_true]
    refine .bind (@Recovers.pure _ _ (· = none) none rfl) fun _ same => ?_
    refine .bind (selfClosingEnd_recovers 0) fun _ _ => .pure ?_
    simp [Node.unplaced, same]
  | some name =>
    rw [Option.elim_some]
    have first := firstKind_assigned name.toList (selfClosing ++ rest)
    refine .bind (opens.recovers (by rintro _ ⟨⟩; rfl)) fun _ _ => ?_
    refine .bind (skipSpace_leaves (firstKind_ne first (by decide))) fun _ _ => .sees first ?_
    rw [if_pos rfl]
    have named : Recovers (some <$> blockName "slot name")
        (assigned name.toList ++ (selfClosing ++ rest)) (selfClosing ++ rest) (· = some name) :=
      (blockName_recovers (label name rfl)).map fun _ same => congrArg some same
    refine .bind named fun _ same => .bind (selfClosingEnd_recovers 1) fun _ _ => .pure ?_
    simp [Node.unplaced, same]

theorem contentForBlock_recovers {slot : String} (label : IsLabel slot)
    (inner : RecoversBody wording nested children) :
    RecoversNode wording (contentForBlock nested) (.contentFor position slot children) rest := by
  rw [RecoversNode, Node.written]
  simp only [List.append_assoc]
  refine .bind (Opens.recovers ⟨rfl, by decide⟩ (by rintro _ ⟨⟩; rfl)) fun _ _ => ?_
  refine .bind (blockName_recovers label) fun _ same => ?_
  refine .bind (blockRest_recovers inner) fun nodes sames => .pure ?_
  simp [Node.unplaced, same, sames]

/-! ### Choices -/

/-- The cases of a choice are recovered one behind the other, with the default case at the
end. -/
theorem switchCases_recovers {cases : List (Branch Node)}
    {fallback : Option (Position × List Node)}
    (legible : ∀ case ∈ cases, Node.Spellable.Legible case.condition)
    (inner : ∀ case ∈ cases, RecoversBody wording nested case.children)
    (last : ∀ other ∈ fallback, RecoversBody wording nested other.2) {turns : Nat} {sofar : Cases}
    (open' : sofar.fallback = none)
    (enough : (Node.written.writtenCases wording cases
      ++ Node.written.writtenFallback wording fallback).length < turns) :
    Recovers (switchCases nested turns sofar)
      (Node.written.writtenCases wording cases
        ++ (Node.written.writtenFallback wording fallback ++ (closer ++ rest)))
      (closer ++ rest)
      fun found => found.cases.map Branch.unplaced
          = sofar.cases.map Branch.unplaced ++ cases.map Branch.unplaced
        ∧ Node.unplaced.unplacedFallback found.fallback
          = Node.unplaced.unplacedFallback fallback := by
  induction cases generalizing turns sofar with
  | nil =>
    obtain ⟨turns, rfl⟩ := Nat.exists_eq_add_one_of_ne_zero (Nat.ne_zero_of_lt enough)
    rw [Node.written.writtenCases, List.nil_append] at enough ⊢
    cases fallback with
    | none =>
      rw [Node.written.writtenFallback, List.nil_append]
      refine .peekKind ?_
      rw [firstKind_closer]
      exact .pure (by simp [open'])
    | some other =>
      obtain ⟨place, children⟩ := other
      rw [Node.written.writtenFallback, List.append_assoc] at *
      have opens : Opens "default" .defaultCase := ⟨rfl, by decide⟩
      have first := opens.firstKind_enclosed (Node.written.writtenNodes wording children)
        (closer ++ rest)
      refine .peekKind ?_
      rw [first]
      dsimp only
      rw [if_neg (by simp [open'])]
      refine .bind (opens.recovers (by rintro _ ⟨⟩; rfl)) fun token _ => ?_
      refine .bind (blockRest_recovers (last _ rfl)) fun nodes same => ?_
      obtain ⟨turns, rfl⟩ : ∃ more, turns = more + 1 := by
        refine Nat.exists_eq_add_one_of_ne_zero ?_
        simp only [List.length_append, opener, List.length_cons] at enough
        omega
      refine .peekKind ?_
      rw [firstKind_closer]
      exact .pure (by simp [same])
  | cons case cases ih =>
    obtain ⟨turns, rfl⟩ := Nat.exists_eq_add_one_of_ne_zero (Nat.ne_zero_of_lt enough)
    obtain ⟨place, condition, children⟩ := case
    obtain ⟨legible, legibles⟩ := List.forall_mem_cons.1 legible
    obtain ⟨inner, inners⟩ := List.forall_mem_cons.1 inner
    rw [Node.written.writtenCases] at enough ⊢
    simp only [List.append_assoc] at enough ⊢
    have opens : Opens "case" .case := ⟨rfl, by decide⟩
    have first := opens.firstKind_value condition.source.toList
      (enclosed (Node.written.writtenNodes wording children)
        ++ (Node.written.writtenCases wording cases
          ++ (Node.written.writtenFallback wording fallback ++ (closer ++ rest))))
    refine .peekKind ?_
    rw [first]
    dsimp only
    refine .bind (branch_recovers opens legible inner) fun found same => ?_
    have still : (Cases.mk (sofar.cases ++ [found]) sofar.fallback).fallback = none := open'
    refine (ih legibles inners still ?_).mono ?_
    · simp only [List.length_append, opener, List.length_cons] at enough ⊢
      omega
    · rintro all ⟨sames, other⟩
      refine ⟨?_, other⟩
      rw [sames]
      simp [Branch.unplaced, same]

theorem switchBlock_recovers {cases : List (Branch Node)}
    {fallback : Option (Position × List Node)} (legible : Node.Spellable.Legible condition)
    (legibles : ∀ case ∈ cases, Node.Spellable.Legible case.condition)
    (inner : ∀ case ∈ cases, RecoversBody wording nested case.children)
    (last : ∀ other ∈ fallback, RecoversBody wording nested other.2) :
    RecoversNode wording (switchBlock nested) (.switch position condition cases fallback)
      rest := by
  rw [RecoversNode, Node.written]
  simp only [List.append_assoc]
  rw [enclosed_append]
  refine .bind (Opens.recovers ⟨rfl, by decide⟩ (by rintro _ ⟨⟩; rfl)) fun _ _ => ?_
  refine .bind (blockExpression_recovers legible) fun found same => ?_
  refine .bind tagEnd_recovers fun _ _ => .budget ?_
  rw [List.append_assoc]
  refine .bind (switchCases_recovers legibles inner last rfl ?_) fun all sames => ?_
  · simp only [List.length_append]
    omega
  · refine .bind closer_recovers fun _ _ => .bind tagEnd_recovers fun _ _ => .pure ?_
    rw [Node.unplaced, Node.unplaced, same, sames.2, Node.unplacedCases_eq_map, sames.1,
      Node.unplacedCases_eq_map, List.map_nil, List.nil_append]

/-! ### Snippets, elements and texts -/

theorem printSpan_recovers {handle : Action}
    (accepted : Snippet.readStatement handle.source = .ok handle.body)
    (plain : handle.body.isDeclaration = false)
    (tiled : Tiled ('%' :: '\x7d' :: rest) handle.source.toList)
    (absent : ¬ ['%', '\x7d'] <:+: handle.source.toList) :
    RecoversNode wording printSpan (.printAction position handle) rest := by
  have text : (Node.printAction position handle).written wording ++ rest
      = ['\x7b', '%', '='] ++ (handle.source.toList ++ '%' :: '\x7d' :: rest) := by
    simp [Node.written]
  rw [RecoversNode, text]
  refine .bind (expect_recovers cuts_printStart rfl) fun _ _ => ?_
  refine .bind (spanText_recovers tiled absent) fun span same => ?_
  obtain ⟨source, place⟩ := span
  subst same
  refine .bind (captured_recovers accepted) fun found same => ?_
  subst same
  rw [if_neg (by simp [plain])]
  exact .pure rfl

theorem closingTag_recovers {name : String} (named : IsTagName name) :
    Recovers (closingTag name) ('<' :: '/' :: (name.toList ++ '>' :: rest)) rest
      fun _ => True := by
  have cuts : Cuts ⟨.elementClosingStart, '<' :: '/' :: name.toList, some name⟩ ('>' :: rest) :=
    cuts_elementClosing named (by rintro _ ⟨⟩; rfl)
  refine .bind (expect_recovers cuts rfl) fun token same => .bind tagEnd_recovers fun _ _ => ?_
  have found : token.tagName.getD "" = name := by rw [same, Option.getD_some]
  rw [if_pos found]
  exact .pure trivial

/-- A tag without attributes. -/
theorem attributeList_recovers {turns : Nat} (enough : 0 < turns)
    (ends : firstKind rest = some .forwardSlash ∨ firstKind rest = some .rightAngleBrace) :
    Recovers (attributeList turns) rest rest (· = []) := by
  obtain ⟨turns, rfl⟩ := Nat.exists_eq_add_one_of_ne_zero (Nat.ne_zero_of_lt enough)
  rcases ends with slash | brace
  · refine .sees slash (.misses (firstKind_ne slash (by decide)) ?_)
    exact .pure rfl
  · refine .misses (firstKind_ne brace (by decide)) (.sees brace ?_)
    exact .pure rfl

/-- What is read of an element behind its name. -/
def elementBehind (nested : Reader Node) (name : String) (position : Position) : Reader Node := do
  let attributes ← attributeList (← budget)
  let isSelfClosing ← eat .forwardSlash
  let _ ← expect .rightAngleBrace
  let tag : Tag := ⟨name, isVoidElement name, isSelfClosing, attributes⟩
  if isVoidElement name || isSelfClosing then
    return .element position tag []
  else
    let children ← elementContent nested name
    closingTag name
    return .element position tag children

/-- What is read of an element behind its opening tag. -/
def elementInside (nested : Reader Node) (tag : Tag) (position : Position) : Reader Node := do
  let children ← elementContent nested tag.name
  closingTag tag.name
  return .element position tag children

/-- An element is read up to its attributes. -/
theorem element_leads {name : String} {text : List Char} (named : IsTagName name) (count : Nat)
    (stop : ∀ c ∈ (List.replicate count ' ' ++ text).head?, endsTagName c = true)
    (notSpace : ∀ c ∈ text.head?, isSpace c = false) (other : firstKind text ≠ some .whitespace) :
    LeadsTo (element nested) ('<' :: (name.toList ++ (List.replicate count ' ' ++ text)))
      (elementBehind nested name) text fun _ => True := by
  have start : LeadsTo (element nested)
      ('<' :: name.toList ++ (List.replicate count ' ' ++ text))
      (elementBehind nested name) text fun _ => True := by
    refine .after (expect_recovers (cuts_element named stop) rfl) fun token same => ?_
    refine .after (skipSpace_recovers count notSpace other) fun _ _ => ?_
    have found : token.tagName.getD "" = name := by rw [same, Option.getD_some]
    exact .refl token.position trivial (by rw [found]; rfl)
  exact start

/-- Behind the attributes the tag is opened. -/
theorem elementBehind_leads {name : String} {position : Position} {text : List Char}
    {attributes : List Attribute} (content : isVoidElement name = false)
    (read : Recovers (attributeList (text.length + 1)) text ('>' :: rest)
      (·.map Attribute.unplaced = attributes.map Attribute.unplaced)) :
    LeadsTo (elementBehind nested name position) text
      (fun found => elementInside nested ⟨name, false, false, found⟩ position) rest
      (·.map Attribute.unplaced = attributes.map Attribute.unplaced) := by
  refine .after .counts fun _ same => ?_
  subst same
  refine .after read fun found same => ?_
  refine .after (eat_leaves (cuts_tagEnd.firstKind_ne (by decide))) fun _ eaten => ?_
  subst eaten
  refine .after (expect_mark cuts_tagEnd) fun _ _ => ?_
  rw [content, if_neg (by simp)]
  exact .refl found same rfl

/-- The nodes in an element are those before its closing tag. -/
theorem elementInside_recovers {tag : Tag} {position : Position} (named : IsElementName tag.name)
    (inner : RecoversBody wording nested children) :
    Recovers (elementInside nested tag position)
      (Node.written.writtenNodes wording children
        ++ '<' :: '/' :: (tag.name.toList ++ '>' :: rest)) rest
      fun found => found.unplaced = (Node.element position tag children).unplaced := by
  have closing : firstKind ('<' :: '/' :: (tag.name.toList ++ '>' :: rest))
      = some .elementClosingStart :=
    (cuts_elementClosing named.isTagName (by rintro _ ⟨⟩; rfl)).firstKind
  have nodes : Recovers (elementContent nested tag.name)
      (Node.written.writtenNodes wording children
        ++ '<' :: '/' :: (tag.name.toList ++ '>' :: rest))
      ('<' :: '/' :: (tag.name.toList ++ '>' :: rest))
      fun found => found.map Node.unplaced = children.map Node.unplaced := by
    rw [elementContent, if_neg (by simpa [rawTextElements] using named.notRaw)]
    refine .budget (inner _ _ _ ⟨.inr rfl, closing, rfl⟩ ?_)
    rw [List.length_append]
    omega
  refine .bind nodes fun found sames => .bind (closingTag_recovers named.isTagName) fun _ _ => ?_
  exact .pure (by simp [Node.unplaced, sames])

/-- A tag without attributes is opened behind its name. -/
theorem element_leads_bare {name : String} (named : IsTagName name)
    (content : isVoidElement name = false) :
    LeadsTo (element nested) ('<' :: (name.toList ++ '>' :: rest))
      (elementInside nested ⟨name, false, false, []⟩) rest fun _ => True := by
  have start := @element_leads nested name ('>' :: rest) named 0 (by rintro _ ⟨⟩; rfl)
    (by rintro _ ⟨⟩; rfl) (cuts_tagEnd.firstKind_ne (by decide))
  intro position
  obtain ⟨place, between, -, ran⟩ := start position
  have none : Recovers (attributeList (('>' :: rest).length + 1)) ('>' :: rest) ('>' :: rest)
      (·.map Attribute.unplaced = ([] : List Attribute).map Attribute.unplaced) :=
    (attributeList_recovers (Nat.succ_pos _) (.inr cuts_tagEnd.firstKind)).mono
      fun _ same => same ▸ rfl
  obtain ⟨found, after, same, ran'⟩ := @elementBehind_leads nested rest name place _ _ content none
    between
  obtain rfl := List.map_eq_nil_iff.1 same
  exact ⟨place, after, trivial, ran.trans ran'⟩

theorem element_recovers {tag : Tag} (named : IsElementName tag.name)
    (content : tag.isVoid = false) (bare : tag.attributes = [])
    (empty : tag.isSelfClosing = true → children = [])
    (inner : RecoversBody wording nested children) :
    RecoversNode wording (element nested) (.element position tag children) rest := by
  obtain ⟨name, isVoid, isSelfClosing, attributes⟩ := tag
  dsimp only at named content bare empty
  subst content bare
  rw [RecoversNode, Node.written]
  cases isSelfClosing with
  | true =>
    rw [empty rfl, if_pos rfl]
    have text : '<' :: (name.toList ++ ['/', '>']) ++ rest
        = '<' :: (name.toList ++ (List.replicate 0 ' ' ++ '/' :: '>' :: rest)) := by
      simp
    rw [text]
    refine (element_leads named.isTagName 0 (by rintro _ ⟨⟩; rfl) (by rintro _ ⟨⟩; rfl)
      (cuts_slash.firstKind_ne (by decide))).recovers fun _ _ => .budget ?_
    refine .bind (attributeList_recovers (Nat.succ_pos _) (.inl cuts_slash.firstKind))
      fun _ none => ?_
    subst none
    refine .bind (eat_mark cuts_slash) fun _ eaten => .bind (expect_mark cuts_tagEnd) fun _ _ => ?_
    subst eaten
    rw [if_pos (by simp), named.notVoid]
    exact .pure rfl
  | false =>
    rw [if_neg Bool.false_ne_true]
    have text : '<' :: (name.toList ++ '>' :: (Node.written.writtenNodes wording children
          ++ '<' :: '/' :: (name.toList ++ ['>']))) ++ rest
        = '<' :: (name.toList ++ '>' :: (Node.written.writtenNodes wording children
          ++ '<' :: '/' :: (name.toList ++ '>' :: rest))) := by
      simp
    rw [text]
    exact (element_leads_bare named.isTagName named.notVoid).recovers fun place _ =>
      elementInside_recovers named inner

/-! ### Texts -/

/-- What stands behind a text: the start of a tag or a delimiter, or nothing. -/
structure EndsText (rest : List Char) : Prop where
  start : ∀ d ∈ rest.head?, d ∈ ['<', '\x7b']
  kind : ∀ kind ∈ firstKind rest, endsText kind = true

/-- A character of a plain text. -/
def IsTextPart (c : Char) : Prop :=
  isLetter c = true ∨ isAsciiDigit c = true ∨ c = ' '

theorem IsTextPart.ne {c d : Char} (part : IsTextPart c)
    (other : isLetter d = false ∧ isAsciiDigit d = false ∧ d ≠ ' ') : c ≠ d := by
  rcases part with letter | digit | rfl
  · exact ne_of_class letter other.1
  · exact ne_of_class digit other.2.1
  · exact Ne.symm other.2.2

theorem IsTextPart.firstKind {c : Char} (part : IsTextPart c) (rest : List Char) :
    ∀ kind ∈ firstKind (c :: rest), endsText kind = false := by
  intro kind first
  rcases part with letter | digit | rfl
  · have noneEnds : ∀ kind ∈ [.letters, .inKeyword, .ofKeyword, .numbers, .unknown],
        endsText kind = false := by decide
    obtain ⟨_, among, same⟩ := @firstKind_anyLetter c rest letter
    rw [same] at first
    cases first
    exact noneEnds _ among
  · rw [firstKind_digit digit] at first
    cases first
    rfl
  · cases first
    rfl

theorem IsPlainText.parts {text : String} (plain : IsPlainText text) :
    ∀ c ∈ text.toList, IsTextPart c := by
  obtain ⟨c, others, same, letter, all⟩ := plain
  rw [same]
  refine List.forall_mem_cons.2 ⟨.inl letter, fun d mem => ?_⟩
  rcases all d mem with ascii | space
  · simp only [isAsciiLetterOrDigit, Bool.or_eq_true] at ascii
    rcases ascii with letter | digit
    · exact .inl (isLetter_of_isAsciiLetter letter)
    · exact .inr (.inl digit)
  · exact .inr (.inr space)

/-- Tokens of a plain text end inside it. -/
theorem scan_covers_text {text : String} (plain : IsPlainText text) (ends : EndsText rest)
    {front : List Char} (nonempty : front ≠ []) (within : front <:+ text.toList) {piece : Piece}
    (found : standard.scan (front ++ rest) = some piece) :
    piece.Covers front ∧ endsText piece.kind = false := by
  obtain ⟨c, front, rfl⟩ := List.exists_cons_of_ne_nil nonempty
  have parts (d : Char) (mem : d ∈ c :: front) : IsTextPart d :=
    IsPlainText.parts plain d (within.subset mem)
  have part : IsTextPart c := parts c List.mem_cons_self
  constructor
  · refine scan_covers_front (absurd · (part.ne (by decide))) (fun after word => ?_) ?_
      (absurd · (part.ne (by decide))) found
    · exact absurd rfl ((parts '@' (word.subset List.mem_cons_self)).ne (by decide))
    intro d first
    rcases List.mem_pair.1 (ends.start d first) with rfl | rfl
    · exact not_joins (by decide) (fun _ => rfl) rfl rfl
    · exact not_joins (by decide) (fun _ => rfl) rfl rfl
  · refine part.firstKind (front ++ rest) piece.kind ?_
    rw [firstKind, show standard.scan (c :: (front ++ rest)) = some piece from found]
    rfl

theorem textRun_recovers {text : String} (plain : IsPlainText text) (ends : EndsText rest) :
    RecoversNode wording textRun (.text position text) rest := by
  have taken : Recovers (textWhile fun token => !endsText token.kind) (text.toList ++ rest) rest
      (· = String.ofList text.toList) := by
    refine @textWhile_recovers_of_covers _ (fun kind => !endsText kind) text.toList ?_ ?_
    · intro front nonempty within piece found
      obtain ⟨covers, other⟩ := scan_covers_text plain ends nonempty within found
      exact ⟨covers, by simp [other]⟩
    · intro kind first
      simp [ends.kind kind first]
  rw [RecoversNode, Node.written]
  refine .here fun place => .bind taken fun found same => .pure ?_
  rw [same, String.ofList_toList]
  rfl

/-- A text is no unknown block, as no at sign stands in it. -/
theorem textOrUnknown_recovers {text : String} (plain : IsPlainText text)
    (ends : EndsText rest) :
    RecoversNode wording textOrUnknown (.text position text) rest := by
  have run : RecoversNode wording textRun (.text position text) rest :=
    textRun_recovers plain ends
  rw [RecoversNode, Node.written] at run ⊢
  refine .settings (.peek fun place => ?_)
  cases found : standard.scan (text.toList ++ rest) with
  | none => exact run
  | some piece =>
    have nonempty : text.toList ≠ [] := by
      obtain ⟨c, others, same, -⟩ := plain
      simp [same]
    obtain ⟨covers, -⟩ := scan_covers_text plain ends nonempty List.suffix_rfl found
    have noAt : '@' ∉ piece.text := fun mem =>
      (IsPlainText.parts plain '@' (covers.start.subset mem)).ne (by decide) rfl
    rw [Option.map_some]
    dsimp only
    rw [if_neg]
    · exact run
    · simp [isUnknownBlock, noAt]

end Blocks

end ViewTemplate.Document
