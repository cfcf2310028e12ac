import Mathlib
import ViewTemplate.Proofs.Document.Regions

/-!
# Snippets and values up to their delimiters

The text of an embedded snippet ends at a closing delimiter, and a value at its quote.
The value of a block is taken as it is.  The text between delimiters, the collection of a
loop and the value of an attribute are put together again from tokens, so they end at
their first delimiter if and only if they are tiled before it.  Where they do, all the
ways of reading agree.

## Main Results

* `Document.parse_delimited` — when texts end at their first delimiters
-/

namespace ViewTemplate

namespace Document

open Template Text Writing

variable {text rest : List Char}

/-! ## Texts without delimiters -/

/-- A word in a text and a character behind it is in the text, if the character is not in
the word. -/
theorem prefix_of_notMem {word : List Char} {c : Char} (outside : c ∉ word)
    (within : word <+: text ++ c :: rest) : word <+: text := by
  have whole : text ++ [c] <+: text ++ c :: rest :=
    (List.prefix_append_right_inj text).2 ((List.prefix_cons_inj c).2 List.nil_prefix)
  rcases List.prefix_or_prefix_of_prefix within whole with shorter | longer
  · rcases List.prefix_concat_iff.1 shorter with rfl | inside
    · exact absurd (List.mem_append_right _ List.mem_cons_self) outside
    · exact inside
  · exact absurd (longer.subset (List.mem_append_right _ List.mem_cons_self)) outside

/-- **A text that can be the value of an attribute** as it is: no quote ends it and no
delimiter of embedded snippets stands in it. -/
structure IsLiteral (text : List Char) : Prop where
  noQuote : '"' ∉ text
  noStart : ¬ ['\x7b', '%'] <:+: text
  noEnd : ¬ ['%', '\x7d'] <:+: text

/-- Whether a token belongs to a literal part of a value in double quotes. -/
def isLiteralKind (kind : TokenKind) : Bool :=
  kind != .doubleQuote && !isDelimiter kind

/-- Each token that is cut in such a text is a part of the value. -/
theorem IsLiteral.kind {front : List Char} {piece : Piece} (literal : IsLiteral text)
    (nonempty : front ≠ []) (within : front <:+: text)
    (found : standard.scan (front ++ '"' :: rest) = some piece) :
    isLiteralKind piece.kind = true := by
  have start : piece.text <+: front ++ '"' :: rest :=
    (Lexicon.scan_covers standard_hasDelimiters found).start
  have spelled (characters : List Char) (fixed : standard.spelling? piece.kind = some characters) :
      piece.text = characters :=
    (Lexicon.scan_spelled found).fixed characters (by rw [fixed]; rfl)
  have starts (word : List Char) (outside : '"' ∉ word) (begins : word <+: piece.text) :
      word <:+: text :=
    ((prefix_of_notMem outside (begins.trans start)).isInfix).trans within
  simp only [isLiteralKind, Bool.and_eq_true, bne_iff_ne, ne_eq, Bool.not_eq_true']
  constructor
  · intro quote
    rw [spelled ['"'] (by rw [quote]; rfl)] at start
    obtain ⟨c, others, rfl⟩ := List.exists_cons_of_ne_nil nonempty
    have same : '"' = c := (List.cons_prefix_cons.1 start).1
    exact literal.noQuote (within.subset (same ▸ List.mem_cons_self))
  · cases kind : piece.kind with
    | expressionStart | printExpressionStart | commentExpressionStart =>
      exact absurd (starts _ (by decide) (by rw [spelled _ (by rw [kind]; rfl)]; decide))
        literal.noStart
    | expressionEnd =>
      exact absurd (starts _ (by decide) (by rw [spelled _ (by rw [kind]; rfl)]; decide))
        literal.noEnd
    | _ => rfl

/-! ## Values of attributes -/

/-- What is read of a literal value: the text, and then what is left of the value. -/
def literalPart (turns : Nat) : Reader (List AttributePart) := do
  let text ← textWhile fun token => isLiteralKind token.kind
  return .literal text :: (← attributeParts .doubleQuote turns)

theorem attributeParts_leads (literal : IsLiteral text) (some : text ≠ []) (turns : Nat) :
    LeadsTo (attributeParts .doubleQuote (turns + 1)) (text ++ '"' :: rest)
      (fun _ : Unit => literalPart turns) (text ++ '"' :: rest) fun _ => True := by
  refine .after .looks fun _ same => ?_
  subst same
  cases found : standard.scan (text ++ '"' :: rest) with
  | none =>
    have empty := Lexicon.scan_eq_none_iff.1 found
    exact absurd (List.append_eq_nil_iff.1 empty).1 some
  | some piece =>
    have kind := literal.kind some List.infix_rfl found
    simp only [isLiteralKind, Bool.and_eq_true, bne_iff_ne, ne_eq, Bool.not_eq_true'] at kind
    obtain ⟨notQuote, plain⟩ := kind
    rw [firstKind, found, Option.map_some]
    dsimp only
    rw [if_neg notQuote]
    cases same : piece.kind with
    | printExpressionStart | commentExpressionStart | expressionStart | expressionEnd =>
      rw [same] at plain
      cases plain
    | _ => exact .refl () trivial rfl

/-- A tiled text comes back as the only part of the value. -/
theorem literalPart_recovers (literal : IsLiteral text) (tiled : Tiled ('"' :: rest) text)
    {turns : Nat} (enough : 0 < turns) :
    Recovers (literalPart turns) (text ++ '"' :: rest) ('"' :: rest)
      (· = [.literal (String.ofList text)]) := by
  obtain ⟨turns, rfl⟩ := Nat.exists_eq_add_one_of_ne_zero (Nat.ne_zero_of_lt enough)
  have taken : Recovers (textWhile fun token => isLiteralKind token.kind) (text ++ '"' :: rest)
      ('"' :: rest) (· = String.ofList text) := by
    refine textWhile_recovers tiled ?_ ?_
    · rintro before piece behind position rfl cuts
      have nonempty : piece.text ≠ [] :=
        (Lexicon.scan_covers standard_hasDelimiters cuts).nonempty
      have cut : standard.scan (piece.text ++ behind ++ '"' :: rest) = some piece := by
        rw [List.append_assoc]
        exact cuts
      exact literal.kind (by simp [nonempty]) (List.suffix_append before _).isInfix cut
    · intro piece position found
      obtain rfl := Option.some.inj (found.symm.trans cuts_doubleQuote)
      rfl
  have none : Recovers (attributeParts .doubleQuote (turns + 1)) ('"' :: rest) ('"' :: rest)
      (· = []) := by
    have first : firstKind ('"' :: rest) = some .doubleQuote := cuts_doubleQuote.firstKind
    refine .peekKind ?_
    rw [first]
    exact .pure rfl
  refine taken.bind fun _ same => none.bind fun _ same' => .pure ?_
  rw [same, same']

/-- A text that comes back as the first part was tiled. -/
theorem literalPart_leaves (turns : Nat) :
    Leaves (literalPart turns) (text ++ '"' :: rest) fun found _ =>
      ∃ taken others, found = .literal taken :: others
        ∧ (taken = String.ofList text → Tiled ('"' :: rest) text) := by
  refine .bind (textWhile_leaves _) fun taken behind found => .bind (.any _) fun others _ _ => ?_
  obtain ⟨whole, tiled⟩ := found
  refine .pure ⟨taken, others, rfl, fun same => ?_⟩
  rw [same, String.toList_ofList] at whole tiled
  rwa [List.append_cancel_left whole]

/-- A name of ASCII letters is the name of an attribute. -/
theorem attributeName_recovers {name : String} (some : name.toList ≠ [])
    (letters : ∀ c ∈ name.toList, isAsciiLetter c = true) :
    Recovers attributeName (name.toList ++ '=' :: rest) ('=' :: rest) (· = name) := by
  have cuts : Cuts ⟨_, name.toList, none⟩ ('=' :: rest) :=
    cuts_letters some letters (by rintro _ ⟨⟩; rfl)
  have tiled : Tiled ('=' :: rest) name.toList := by
    have whole := Tiled.cons cuts .nil
    rwa [List.append_nil] at whole
  have taken : Recovers (textWhile fun token => !endsAttributeName token.kind)
      (name.toList ++ '=' :: rest) ('=' :: rest) (· = String.ofList name.toList) := by
    refine textWhile_recovers tiled ?_ ?_
    · intro before piece behind position split cut
      obtain ⟨c, others, same⟩ := List.exists_cons_of_ne_nil
        (Lexicon.scan_covers standard_hasDelimiters cut).nonempty
      have letter : isAsciiLetter c = true := letters c (by simp [split, same])
      obtain ⟨kind, among, first⟩ := @firstKind_letter c (others ++ (behind ++ '=' :: rest)) letter
      rw [← List.cons_append, ← same, Cuts.firstKind cut] at first
      cases first
      simp only [List.mem_cons, List.not_mem_nil, or_false] at among
      rcases among with kind | kind | kind <;> (dsimp only; rw [kind]; rfl)
    · intro piece position found
      obtain rfl := Option.some.inj (found.symm.trans cuts_equals)
      rfl
  have named : name.isEmpty = false := by
    rw [String.isEmpty_eq_false_iff]
    rintro rfl
    exact some rfl
  refine .here fun _ => taken.bind fun _ same => ?_
  rw [same, String.ofList_toList, named, if_neg Bool.false_ne_true]
  exact .pure rfl

/-- What is read of attributes behind the quote before the value of the first one. -/
def attributesBehind (name : String) (inside turns : Nat) (position : Position) :
    Reader (List Attribute) := do
  let parts ← attributeParts .doubleQuote inside
  let _ ← expect .doubleQuote
  skipSpace
  return ⟨position, name, .plain (some ('"', parts))⟩ :: (← attributeList turns)

/-- The attributes of a tag are read up to the value of the first one. -/
theorem attributeList_leads {name : String} (some : name.toList ≠ [])
    (letters : ∀ c ∈ name.toList, isAsciiLetter c = true) (turns : Nat) :
    LeadsTo (attributeList (turns + 1)) (name.toList ++ '=' :: '"' :: rest)
      (attributesBehind name (rest.length + 1) turns) rest fun _ => True := by
  obtain ⟨c, others, same⟩ := List.exists_cons_of_ne_nil some
  have letter : isAsciiLetter c = true := letters c (by simp [same])
  obtain ⟨kind, among, first⟩ := @firstKind_letter c (others ++ '=' :: '"' :: rest) letter
  rw [← List.cons_append, ← same] at first
  have apart {other : TokenKind} (outside : other ∉ [.letters, .inKeyword, .ofKeyword]) :
      firstKind (name.toList ++ '=' :: '"' :: rest) ≠ Option.some other :=
    firstKind_ne first (fun equal => outside (equal ▸ among))
  have value : LeadsTo anyAttribute (name.toList ++ '=' :: '"' :: rest) (fun position => do
      let parts ← attributeParts .doubleQuote (rest.length + 1)
      let _ ← expect .doubleQuote
      return ⟨position, name, .plain (Option.some (quoteChar .doubleQuote, parts))⟩) rest
      fun _ => True := by
    refine .after .place fun position _ => ?_
    refine .after (eat_leaves (apart (by decide))) fun _ eaten => ?_
    subst eaten
    rw [if_neg Bool.false_ne_true]
    refine .after (attributeName_recovers some letters) fun _ named => ?_
    subst named
    refine .after (skipSpace_leaves (cuts_equals.firstKind_ne (by decide))) fun _ _ => ?_
    refine .after (eat_mark cuts_equals) fun _ eaten => ?_
    subst eaten
    rw [if_pos rfl]
    refine .after (skipSpace_leaves (cuts_doubleQuote.firstKind_ne (by decide))) fun _ _ => ?_
    refine .after expectQuote_recovers fun _ quote => .after .counts fun _ count => ?_
    subst quote count
    exact .refl position trivial rfl
  refine .after (.looksFor .forwardSlash) fun _ slash => ?_
  refine .after (.looksFor .rightAngleBrace) fun _ brace => ?_
  rw [slash, brace, decide_eq_false (apart (by decide)), decide_eq_false (apart (by decide)),
    if_neg (by simp)]
  refine value.followed.trans fun position _ => .refl position trivial ?_
  simp only [attributesBehind, bind_assoc, pure_bind]
  rfl

section Values

variable {label : String}

/-- A tiled text is the value of the only attribute. -/
theorem attributeList_recovers_value (some : label.toList ≠ [])
    (letters : ∀ c ∈ label.toList, isAsciiLetter c = true) (literal : IsLiteral text)
    (nonempty : text ≠ []) (tiled : Tiled ('"' :: '>' :: rest) text) {turns : Nat}
    (enough : 0 < turns) :
    Recovers (attributeList (turns + 1))
      (label.toList ++ '=' :: '"' :: (text ++ '"' :: '>' :: rest)) ('>' :: rest) fun found =>
      ∃ position, found
        = [⟨position, label, .plain (Option.some ('"', [.literal (String.ofList text)]))⟩] := by
  refine (attributeList_leads some letters turns).recovers fun position _ => ?_
  have room : 0 < (text ++ '"' :: '>' :: rest).length :=
    List.length_pos_iff.2 (List.append_ne_nil_of_left_ne_nil nonempty _)
  have parts := (@attributeParts_leads text ('>' :: rest) literal nonempty _).recovers
    fun _ _ => literalPart_recovers literal tiled room
  refine .bind parts fun _ same => .bind (expect_mark cuts_doubleQuote) fun _ _ => ?_
  subst same
  refine .bind (skipSpace_leaves (cuts_tagEnd.firstKind_ne (by decide))) fun _ _ => ?_
  refine .bind (attributeList_recovers enough (.inr cuts_tagEnd.firstKind)) fun _ none => ?_
  exact .pure ⟨position, by rw [none]⟩

/-- A text that comes back as the first value was tiled. -/
theorem attributeList_leaves_value (some : label.toList ≠ [])
    (letters : ∀ c ∈ label.toList, isAsciiLetter c = true) (literal : IsLiteral text)
    (nonempty : text ≠ []) (turns : Nat) :
    Leaves (attributeList (turns + 1)) (label.toList ++ '=' :: '"' :: (text ++ '"' :: rest))
      fun found _ => ∃ position taken parts others,
        found = ⟨position, label, .plain (Option.some ('"', .literal taken :: parts))⟩ :: others
          ∧ (taken = String.ofList text → Tiled ('"' :: rest) text) := by
  refine (attributeList_leads some letters turns).leaves fun position _ => ?_
  have parts := (@attributeParts_leads text rest literal nonempty _).leaves
    fun _ _ => literalPart_leaves (text ++ '"' :: rest).length
  refine .bind parts fun _ _ found => .bind (.any _) fun _ _ _ => .bind (.any _) fun _ _ _ => ?_
  obtain ⟨taken, others, rfl, tiled⟩ := found
  exact .bind (.any _) fun more _ _ => .pure ⟨position, taken, others, more, rfl, tiled⟩

end Values

/-! ## Sources with a text in them -/

/-- A plain text between the tags of a node. -/
def sample : List Node := [.text .start "x"]

/-- It is read back, however deep nodes may be nested. -/
theorem sample_recovers (wording : Wording) {depth : Nat} (deep : 0 < depth) :
    RecoversBody wording (node depth) sample := by
  have writable : (Node.text .start "x").Writable .body :=
    .intro trivial ⟨'x', [], rfl, by decide, nofun⟩
      (List.forall_mem_singleton.2 .nil) (by rintro _ ⟨⟩) (by rintro _ ⟨⟩)
  have differ : ∀ node : Node, node.Occurs [.text .start "x"] → node.ParametersDiffer := by
    intro node occurs
    simp only [Node.occurs_singleton, Node.not_occurs_nil, Node.children, Node.alternate?,
      Option.toList_none, or_false] at occurs
    rw [occurs]
    trivial
  have restored : Restored wording (node depth) (.text .start "x") :=
    recoverable writable differ depth deep
  exact recoversBody_of_restored (List.forall_mem_singleton.2 restored) (.singleton _)

/-! ### Attributes -/

section Attributes

variable {name label : String}

/-- An element with a text as the value of its attribute. -/
def attributeSource (name label : String) (text : List Char) : List Char :=
  '<' :: (name.toList ++ (List.replicate 1 ' ' ++ (label.toList
    ++ '=' :: '"' :: (text ++ '"' :: '>' :: ('x' :: '<' :: '/' :: (name.toList ++ ['>']))))))

/-- The element that is meant. -/
def attributeNode (name label text : String) : Node :=
  .element .start ⟨name, false, false, [⟨.start, label, .plain (some ('"', [.literal text]))⟩]⟩
    sample

/-- Behind the name of an element its attributes are read. -/
theorem nodeWith_attribute {nested : Reader Node} (named : IsTagName name)
    (some : label.toList ≠ []) (letters : ∀ c ∈ label.toList, isAsciiLetter c = true) :
    LeadsTo (nodeWith nested)
      ('<' :: (name.toList ++ (List.replicate 1 ' ' ++ (label.toList ++ rest))))
      (elementBehind nested name) (label.toList ++ rest) fun _ => True := by
  obtain ⟨c, others, same⟩ := List.exists_cons_of_ne_nil some
  have notSpace : isSpace c = false :=
    isSpace_eq_false (letters c (by simp [same])) (by decide)
  have first : firstKind ('<' :: (name.toList ++ (List.replicate 1 ' '
      ++ (label.toList ++ rest)))) = Option.some .elementStart :=
    (cuts_element named (by rintro _ ⟨⟩; rfl)).firstKind
  refine .after .looks fun _ looked => ?_
  rw [looked, first]
  refine element_leads named 1 (by rintro _ ⟨⟩; rfl) ?_ ?_
  · rw [same]
    rintro _ ⟨⟩
    exact notSpace
  · rw [same]
    exact firstKind_ne_whitespace notSpace _

/-- What is known of the attributes of an element holds of those in its node. -/
theorem elementBehind_leaves {nested : Reader Node} {place : Position} {input : List Char}
    {found : List Attribute → Prop}
    (read : Leaves (attributeList (input.length + 1)) input fun attributes _ => found attributes) :
    Leaves (elementBehind nested name place) input fun node _ =>
      ∃ tag children, node = .element place tag children ∧ found tag.attributes := by
  refine .after .counts fun _ same => ?_
  subst same
  refine .bind read fun attributes _ h => .bind (.any _) fun _ _ _ => .bind (.any _) fun _ _ _ => ?_
  split
  · exact .pure ⟨_, _, rfl, h⟩
  · exact .bind (.any _) fun _ _ _ => .bind (.any _) fun _ _ _ => .pure ⟨_, _, rfl, h⟩

/-- **The value of an attribute** comes back if and only if it is tiled. -/
theorem parse_attribute_iff (plain : '\r' ∉ attributeSource name label text)
    (named : IsElementName name) (some : label.toList ≠ [])
    (letters : ∀ c ∈ label.toList, isAsciiLetter c = true) (literal : IsLiteral text)
    (nonempty : text ≠ []) :
    (Document.parse {} (String.ofList (attributeSource name label text))).map
        Document.unplaced
      = .ok ⟨[attributeNode name label (String.ofList text)]⟩
      ↔ Tiled ('"' :: '>' :: ('x' :: '<' :: '/' :: (name.toList ++ ['>']))) text := by
  have first : firstKind (attributeSource name label text) = Option.some .elementStart :=
    (cuts_element named.isTagName (by rintro _ ⟨⟩; rfl)).firstKind
  refine parse_eq_single_iff plain first (by decide) (fun tiled => ?_) ?_
  · refine (nodeWith_attribute named.isTagName some letters).recovers fun place _ => ?_
    have read : Recovers (attributeList ((label.toList ++ '=' :: '"' :: (text
          ++ '"' :: '>' :: ('x' :: '<' :: '/' :: (name.toList ++ ['>'])))).length + 1))
        (label.toList ++ '=' :: '"' :: (text
          ++ '"' :: '>' :: ('x' :: '<' :: '/' :: (name.toList ++ ['>']))))
        ('>' :: ('x' :: '<' :: '/' :: (name.toList ++ ['>'])))
        fun found => found.map Attribute.unplaced
          = [(⟨.start, label, .plain (Option.some ('"', [.literal (String.ofList text)]))⟩
              : Attribute)].map Attribute.unplaced :=
      (attributeList_recovers_value some letters literal nonempty tiled
        (List.length_pos_iff.2 (by simp))).mono fun _ ⟨_, same⟩ => same ▸ rfl
    have inner : RecoversBody ⟨.inWord, 0⟩ (node (attributeSource name label text).length) sample :=
      sample_recovers _ (Nat.succ_pos _)
    refine (elementBehind_leads named.notVoid read).recovers fun found same => ?_
    have inside : Recovers (elementInside (node (attributeSource name label text).length)
        ⟨name, false, false, found⟩ place) ('x' :: '<' :: '/' :: (name.toList ++ ['>'])) []
        fun node => node.unplaced
          = (Node.element place ⟨name, false, false, found⟩ sample).unplaced :=
      elementInside_recovers named inner
    refine inside.mono fun node other => other.trans ?_
    rw [Node.unplaced, Tag.unplaced, same]
    rfl
  · refine (nodeWith_attribute named.isTagName some letters).leaves fun place _ => ?_
    have read := @attributeList_leaves_value text
      ('>' :: ('x' :: '<' :: '/' :: (name.toList ++ ['>']))) label some letters literal nonempty
    refine (elementBehind_leaves (read _)).mono fun node _ found same => ?_
    obtain ⟨tag, children, rfl, position, taken, parts, others, attributes, tiled⟩ := found
    simp only [Node.unplaced, attributeNode, Tag.unplaced, attributes, List.map_cons,
      Attribute.unplaced, AttributeForm.unplaced, Option.map_some, AttributePart.unplaced,
      Node.element.injEq, Tag.mk.injEq, List.cons.injEq, Attribute.mk.injEq,
      AttributeForm.plain.injEq, Option.some.injEq, Prod.mk.injEq,
      AttributePart.literal.injEq] at same
    obtain ⟨-, ⟨-, -, -, ⟨-, -, -, part, -⟩, -⟩, -⟩ := same
    exact tiled part

end Attributes

/-! ### Blocks -/

/-- A condition with a text as its value. -/
def conditionSource (text : List Char) : List Char :=
  opener "if" ++ (assigned text ++ (enclosed ['x'] ++ []))

/-- A loop with a text as its collection. -/
def loopSource (text : List Char) : List Char :=
  opener "foreach" ++ (assigned (listed 0 ["a"] ++ ' ' :: (LoopWord.inWord.characters ++ ' ' :: text))
    ++ (enclosed ['x'] ++ []))

/-- The loop that is meant. -/
def loopNode (collection : Expression) : Node :=
  .foreach .start ["a"] collection sample none

/-- The value of a condition is taken as it is, and its blanks at the ends are dropped. -/
theorem branch_leaves {nested : Reader Node} {keyword : String} {kind : TokenKind}
    (opens : Opens keyword kind) (noQuote : '"' ∉ text) :
    Leaves (branch nested kind) (opener keyword ++ (assigned text ++ rest)) fun found _ =>
      found.condition.source = trim (String.ofList text)
        ∧ Snippet.readExpression found.condition.source = .ok found.condition.body := by
  refine .after (opens.recovers (by rintro _ ⟨⟩; rfl)) fun token _ => ?_
  have condition : Leaves blockExpression (assigned text ++ rest) fun found _ =>
      found.source = trim (String.ofList text)
        ∧ Snippet.readExpression found.source = .ok found.body := by
    refine .after (quotedValue_recovers noQuote) fun value same => ?_
    rw [same]
    refine captured_leaves.mono fun found _ h => ⟨h.1, ?_⟩
    rw [h.1]
    exact h.2.1
  exact .bind condition fun found _ h => .bind (.any _) fun _ _ _ => .pure h

/-- So the condition of a source that is parsed is its trimmed text. -/
theorem condition_of_parse (plain : '\r' ∉ text) (noQuote : '"' ∉ text) {condition : Expression}
    {children others : List Node} {next : Option Node}
    (parsed : (Document.parse {} (String.ofList (conditionSource text))).map Document.unplaced
      = .ok ⟨.conditional .start condition children next :: others⟩) :
    condition.unplaced = condition ∧ condition.source = trim (String.ofList text)
      ∧ Snippet.readExpression condition.source = .ok condition.body := by
  have opens : Opens "if" .ifBlock := ⟨rfl, by decide⟩
  have whole : '\r' ∉ conditionSource text := by
    simpa [conditionSource, opener, assigned, enclosed, closer] using plain
  have first : firstKind (conditionSource text) = some .ifBlock :=
    opens.firstKind_value text _
  refine parse_head whole first (by decide) (.after .looks fun _ looked => ?_) parsed
  rw [looked, first]
  refine .bind (branch_leaves opens noQuote) fun found _ h => ?_
  obtain ⟨place, captured, inside⟩ := found
  refine .bind (.any _) fun _ _ _ => .bind (.any _) fun other _ _ => .pure fun same => ?_
  rw [Node.unplaced] at same
  injection same with _ wanted
  rw [← wanted]
  exact ⟨rfl, h⟩

/-- **The collection of a loop** comes back if and only if it is tiled. -/
theorem parse_loop_iff (plain : '\r' ∉ text) (noQuote : '"' ∉ text) {collection : Expression}
    (unplaced : collection.unplaced = collection)
    (source : collection.source = trim (String.ofList text))
    (accepted : Snippet.readExpression collection.source = .ok collection.body) :
    (Document.parse {} (String.ofList (loopSource text))).map Document.unplaced
        = .ok ⟨[loopNode collection]⟩
      ↔ Tiled ('"' :: enclosed ['x']) text := by
  have opens : Opens "foreach" .foreach := ⟨rfl, by decide⟩
  have whole : '\r' ∉ loopSource text := by
    simpa [loopSource, opener, assigned, enclosed, closer, listed, following,
      LoopWord.characters] using plain
  have first : firstKind (loopSource text) = some .foreach :=
    opens.firstKind_value _ _
  have named : ∀ name ∈ ["a"], IsVariable name :=
    List.forall_mem_singleton.2
      ⟨⟨'a', [], rfl, rfl⟩, List.all_eq_true.1 (by decide), by decide⟩
  refine parse_eq_single_iff whole first (by decide) (fun tiled => ?_) ?_
  · refine .peekKind ?_
    rw [first]
    have inner : RecoversBody ⟨.inWord, 0⟩ (node (loopSource text).length) sample :=
      sample_recovers _ (Nat.succ_pos _)
    have behind : RecoversNext ⟨.inWord, 0⟩ (node (loopSource text).length) false none [] :=
      alternate_recovers_none false clear_nil
    have read := @foreachBlock_recovers_of_tiled ⟨.inWord, 0⟩ _ sample [] .start none ["a"]
      collection text (.inl rfl) (by decide) named noQuote tiled
      ((trim_dropSpaces text).trans source.symm) accepted inner behind
    refine read.mono fun found same => same.trans ?_
    rw [loopNode, Node.unplaced, unplaced]
    rfl
  · refine .after .looks fun _ looked => ?_
    rw [looked, first]
    refine (@foreachBlock_leads ⟨.inWord, 0⟩ _ _ ["a"] text (.inl rfl) (by decide) named).leaves
      fun place _ => .here fun position => ?_
    refine .bind (textUpTo_leaves rfl) fun taken rest found => .known fun _ _ _ => ?_
    obtain ⟨same, tiled⟩ := found
    have inside : '"' ∉ text.dropWhile isSpace := fun mem =>
      noQuote ((List.dropWhile_suffix _).subset mem)
    obtain ⟨taken, -, rfl⟩ := (List.append_cons_inj_of_notMem inside (by decide)).1 same
    rw [← taken] at tiled
    exact (Tiled.dropSpaces_iff (by rintro _ ⟨⟩; rfl)).1 tiled

/-! ### Snippets -/

/-- A snippet whose value is printed. -/
def printSource (text : List Char) : List Char :=
  ['\x7b', '%', '='] ++ (text ++ ['%', '\x7d'])

/-- A text before a delimiter that comes back was tiled. -/
theorem spanText_leaves :
    Leaves spanText (text ++ '%' :: '\x7d' :: rest) fun span _ =>
      span.1 = String.ofList text → Tiled ('%' :: '\x7d' :: rest) text := by
  refine .here fun position => ?_
  have taken : Leaves (textUpTo .expressionEnd) (text ++ (['%', '\x7d'] ++ rest)) fun taken _ =>
      taken = String.ofList text → Tiled (['%', '\x7d'] ++ rest) text :=
    (textUpTo_leaves rfl).mono fun _ _ found => tiled_of_taken found
  exact taken.bind fun _ _ tiled => .pure tiled

/-- **The text of a printed snippet** comes back if and only if it is tiled. -/
theorem parse_print_iff {handle : Action} (unplaced : handle.unplaced = handle)
    (plain : '\r' ∉ handle.source.toList) (absent : ¬ ['%', '\x7d'] <:+: handle.source.toList)
    (accepted : Snippet.readStatement handle.source = .ok handle.body)
    (silent : handle.body.isDeclaration = false) :
    (Document.parse {} (String.ofList (printSource handle.source.toList))).map Document.unplaced
        = .ok ⟨[.printAction .start handle]⟩
      ↔ Tiled ['%', '\x7d'] handle.source.toList := by
  have whole : '\r' ∉ printSource handle.source.toList := by
    simpa [printSource] using plain
  have first : firstKind (printSource handle.source.toList) = some .printExpressionStart :=
    cuts_printStart.firstKind
  refine parse_eq_single_iff whole first (by decide) (fun tiled => .peekKind ?_)
    (.after .looks fun _ looked => ?_)
  · rw [first]
    have read := @printSpan_recovers ⟨.inWord, 0⟩ [] .start handle accepted silent tiled absent
    rw [RecoversNode, Node.written, List.append_nil] at read
    refine read.mono fun found same => same.trans ?_
    rw [Node.unplaced, unplaced]
  · rw [looked, first]
    refine .after (expect_recovers cuts_printStart rfl) fun token _ => ?_
    refine .bind spanText_leaves fun span _ tiled => .bind captured_leaves fun action _ read => ?_
    split
    · exact .failAt _ _
    · refine .pure fun same => tiled ?_
      rw [Node.unplaced] at same
      injection same with _ same
      rw [String.ofList_toList, ← same]
      exact read.1.symm

/-! ## Ends of texts -/

/-- A text between two others, as it is written. -/
theorem ofList_around (before text behind : String) :
    String.ofList (before.toList ++ (text.toList ++ behind.toList)) = before ++ text ++ behind := by
  simp only [String.ofList_append, String.ofList_toList, String.append_assoc]

theorem conditionSource_eq (text : List Char) :
    conditionSource text = "<js @if=\"".toList ++ (text ++ "\">x</js>".toList) := by
  simp [conditionSource, opener, assigned, enclosed, closer]

theorem loopSource_eq (text : List Char) :
    loopSource text = "<js @foreach=\"a in ".toList ++ (text ++ "\">x</js>".toList) := by
  simp [loopSource, opener, assigned, enclosed, closer, listed, following, LoopWord.characters]

theorem attributeSource_eq (text : List Char) :
    attributeSource "p" "title" text
      = "<p title=\"".toList ++ (text ++ "\">x</p>".toList) := by
  simp [attributeSource]

/-- A source with a condition that can be written in quotes is always parsed. -/
theorem parse_condition {condition : Expression} (unplaced : condition.unplaced = condition)
    (legible : Node.Spellable.Legible condition) :
    (Document.parse {} ("<js @if=\"" ++ condition.source ++ "\">x</js>")).map Document.unplaced
      = .ok ⟨[.conditional .start condition sample none]⟩ := by
  have opens : Opens "if" .ifBlock := ⟨rfl, by decide⟩
  have whole : '\r' ∉ conditionSource condition.source.toList := by
    simpa [conditionSource, opener, assigned, enclosed, closer] using legible.2.noReturn
  have first : firstKind (conditionSource condition.source.toList) = some .ifBlock :=
    opens.firstKind_value _ _
  rw [← ofList_around, ← conditionSource_eq]
  refine (@parse_eq_single_iff _ _ _ True whole first (by decide) (fun _ => .peekKind ?_)
    (.known fun _ _ _ => trivial)).2 trivial
  rw [first]
  have read := @conditionalBlock_recovers ⟨.inWord, 0⟩
    (node (conditionSource condition.source.toList).length) sample [] .start condition none legible
    (sample_recovers _ (Nat.succ_pos _)) (alternate_recovers_none true clear_nil)
  rw [RecoversNode, Node.written] at read
  simp only [List.append_assoc] at read
  refine read.mono fun found same => same.trans ?_
  rw [Node.unplaced, unplaced]
  rfl

/-- **Texts end at their first delimiters if and only if they are tiled.**  So the text of
an embedded comment or of a printed snippet comes back, if the first closing delimiter
stands behind it.  In quotes, where no quote and no delimiter is in a text, a loop and an
attribute end at the quote only if the text is tiled before it, while a condition always
does; then all of them have the same text. -/
theorem parse_delimited {text : String} (plain : '\r' ∉ text.toList) :
    (EndsFirst ['%', '\x7d'] text.toList →
      ((Document.parse {} ("\x7b%#" ++ text ++ "%\x7d")).map Document.unplaced
          = .ok ⟨[.commentSpan .start text]⟩
        ↔ Tiled ['%', '\x7d'] text.toList) ∧
      ∀ body, Snippet.readStatement text = .ok body → body.isDeclaration = false →
        ((Document.parse {} ("\x7b%=" ++ text ++ "%\x7d")).map Document.unplaced
            = .ok ⟨[.printAction .start ⟨text, .start, body⟩]⟩
          ↔ Tiled ['%', '\x7d'] text.toList)) ∧
    (IsLiteral text.toList →
      (∀ condition children next others,
        (Document.parse {} ("<js @if=\"" ++ text ++ "\">x</js>")).map Document.unplaced
          = .ok ⟨.conditional .start condition children next :: others⟩ →
        ((Document.parse {} ("<js @foreach=\"a in " ++ text ++ "\">x</js>")).map Document.unplaced
            = .ok ⟨[.foreach .start ["a"] condition [.text .start "x"] none]⟩
          ↔ Tiled ['"', '>', 'x', '<', '/', 'j', 's', '>'] text.toList)) ∧
      (text ≠ "" →
        ((Document.parse {} ("<p title=\"" ++ text ++ "\">x</p>")).map Document.unplaced
            = .ok ⟨[.element .start ⟨"p", false, false,
                [⟨.start, "title", .plain (some ('"', [.literal text]))⟩]⟩ [.text .start "x"]]⟩
          ↔ Tiled ['"', '>', 'x', '<', '/', 'p', '>'] text.toList))) := by
  refine ⟨fun first => ⟨?_, fun body accepted silent => ?_⟩, fun literal =>
    ⟨fun condition children next others parsed => ?_, fun nonempty => ?_⟩⟩
  · rw [← ofList_around]
    have parsed := @parse_enclosed_iff .commentExpressionStart .expressionEnd ['\x7b', '%', '#']
      ['%', '\x7d'] text.toList .commentSpan (by simpa using plain) (fun _ => rfl) (by decide) rfl
      rfl (fun _ _ first => .after .looks fun _ looked => looked ▸ first ▸ .refl () trivial rfl)
      ⟨fun _ _ => rfl, fun _ _ same => by injection same⟩ (first.absent (by decide))
    rwa [String.ofList_toList] at parsed
  · rw [← ofList_around]
    exact @parse_print_iff ⟨text, .start, body⟩ rfl plain (first.absent (by decide)) accepted silent
  · rw [← ofList_around, ← conditionSource_eq] at parsed
    obtain ⟨unplaced, trimmed, accepted⟩ := condition_of_parse plain literal.noQuote parsed
    rw [← ofList_around, ← loopSource_eq]
    exact parse_loop_iff plain literal.noQuote unplaced trimmed accepted
  · rw [← ofList_around, ← attributeSource_eq]
    have whole : '\r' ∉ attributeSource "p" "title" text.toList := by
      simpa [attributeSource] using plain
    have named : IsElementName "p" :=
      ⟨by decide, List.all_eq_true.1 (by decide), by decide, by decide, by decide⟩
    have parsed := @parse_attribute_iff text.toList "p" "title" whole named (by decide)
      (List.all_eq_true.1 (by decide)) literal
      (fun none => nonempty (String.toList_eq_nil_iff.1 none))
    rwa [String.ofList_toList] at parsed

/-- A comparison with spaces comes back from everywhere. -/
theorem parse_delimited_comparison :
    let text : String := "a < b"
    let less : Snippet.Expr :=
      .binary ⟨0, 5⟩ .lt (.identifier ⟨0, 1⟩ "a") (.identifier ⟨4, 5⟩ "b")
    '\r' ∉ text.toList ∧ EndsFirst ['%', '\x7d'] text.toList ∧ IsLiteral text.toList ∧
      (Document.parse {} ("\x7b%#" ++ text ++ "%\x7d")).map Document.unplaced
        = .ok ⟨[.commentSpan .start text]⟩ ∧
      (Document.parse {} ("\x7b%=" ++ text ++ "%\x7d")).map Document.unplaced
        = .ok ⟨[.printAction .start ⟨text, .start, .expression less⟩]⟩ ∧
      (Document.parse {} ("<js @foreach=\"a in " ++ text ++ "\">x</js>")).map Document.unplaced
        = .ok ⟨[.foreach .start ["a"] ⟨text, .start, less⟩ [.text .start "x"] none]⟩ ∧
      (Document.parse {} ("<p title=\"" ++ text ++ "\">x</p>")).map Document.unplaced
        = .ok ⟨[.element .start ⟨"p", false, false,
            [⟨.start, "title", .plain (some ('"', [.literal text]))⟩]⟩ [.text .start "x"]]⟩ := by
  intro text less
  have plain : '\r' ∉ text.toList := by decide
  have first : EndsFirst ['%', '\x7d'] text.toList := by decide
  have literal : IsLiteral text.toList := ⟨by decide, by decide, by decide⟩
  have tiled (c : Char) (rest : List Char) (mark : isAsciiLetter c = false) :
      Tiled (c :: rest) text.toList := by
    have whole : Tiled (c :: rest) ['a', ' ', '<', ' ', 'b'] :=
      @Tiled.cons _ ⟨.letters, ['a'], none⟩ _ rfl <|
        @Tiled.cons _ ⟨.whitespace, [' '], none⟩ _ rfl <|
          @Tiled.cons _ ⟨.leftAngleBrace, ['<'], none⟩ _ rfl <|
            @Tiled.cons _ ⟨.whitespace, [' '], none⟩ _ rfl <|
              .cons (@cuts_letters ['b'] (c :: rest) (by decide) (List.all_eq_true.1 (by decide))
                (by rintro _ ⟨⟩; exact mark)) .nil
    rwa [show text.toList = ['a', ' ', '<', ' ', 'b'] by decide]
  have condition := @parse_condition ⟨text, .start, less⟩ rfl
    ⟨by cbv, by decide, by decide, by decide⟩
  obtain ⟨spans, values⟩ := parse_delimited plain
  obtain ⟨comment, print⟩ := spans first
  obtain ⟨loop, value⟩ := values literal
  exact ⟨plain, first, literal, comment.2 (tiled _ _ rfl),
    (print (.expression less) (by cbv) rfl).2 (tiled _ _ rfl),
    (loop _ _ _ _ condition).2 (tiled _ _ rfl), (value (by decide)).2 (tiled _ _ rfl)⟩

/-- Without spaces the bracket opens a tag, whose name takes the delimiter in, unless the
text is the value of a condition. -/
theorem parse_delimited_swallowed :
    let text : String := "b<c"
    let less : Snippet.Expr :=
      .binary ⟨0, 3⟩ .lt (.identifier ⟨0, 1⟩ "b") (.identifier ⟨2, 3⟩ "c")
    '\r' ∉ text.toList ∧ EndsFirst ['%', '\x7d'] text.toList ∧ IsLiteral text.toList ∧
      (Document.parse {} ("<js @if=\"" ++ text ++ "\">x</js>")).map Document.unplaced
        = .ok ⟨[.conditional .start ⟨text, .start, less⟩ [.text .start "x"] none]⟩ ∧
      (Document.parse {} ("<js @foreach=\"a in " ++ text ++ "\">x</js>")).map Document.unplaced
        = .error ⟨.endOfSource, ⟨1, 31⟩⟩ ∧
      (Document.parse {} ("<p title=\"" ++ text ++ "\">x</p>")).map Document.unplaced
        = .error ⟨.endOfSource, ⟨1, 21⟩⟩ ∧
      (Document.parse {} ("\x7b%#" ++ text ++ "%\x7d")).map Document.unplaced
        = .error ⟨.endOfSource, ⟨1, 9⟩⟩ := by
  intro text less
  have condition := @parse_condition ⟨text, .start, less⟩ rfl
    ⟨by cbv, by decide, by decide, by decide⟩
  refine ⟨by decide, by decide, ⟨by decide, by decide, by decide⟩, condition, ?_, ?_, ?_⟩
  · exact parse_refused (by decide +kernel)
  · exact parse_refused (by decide +kernel)
  · exact parse_refused (by decide +kernel)

end Document

end ViewTemplate
