import Mathlib.Data.List.Infix
import Mathlib.Tactic.SplitIfs
import ViewTemplate.Template.Scanner

/-!
# Tokens cover the source

With settings that have no fault, the tokens of a source are its text, cut into
pieces: none is empty, nothing is lost between them, and each stands where the
text before it ends.

Each scanner is treated alone: what it takes is a start of the text before it
and holds a character (`Piece.Covers`).  For the openers of embedded snippets
this rests on the validation of the settings, as the scanner looks for the plain
opener and then takes a longer one (`Lexicon.HasDelimiters`).  The step from one
token to the next and the induction over a run do not depend on how a token was
found.

## Main Definitions

* `Lexicon.HasDelimiters` — no delimiter of embedded snippets is empty
* `Piece.Covers` — a piece is a start of a text and holds a character
* `TokensCover` — tokens make up a text that starts at some place

-/

namespace ViewTemplate.Template

open Text

/-! ## Settings -/

/-- No delimiter of embedded snippets is empty. -/
structure Lexicon.HasDelimiters (lexicon : Lexicon) : Prop where
  expressionStart : lexicon.expressionStart ≠ []
  expressionEnd : lexicon.expressionEnd ≠ []
  printStart : lexicon.printStart ≠ []
  commentStart : lexicon.commentStart ≠ []

/-- **Validation.**  Settings have no fault exactly when all that the scanner
relies on holds: the plain delimiters are long enough, the other openers begin
with the plain one and differ, the block tag can name a tag, and tabs take a
column. -/
theorem LexicalOptions.validate_eq_ok_iff {options : LexicalOptions} :
    options.validate = .ok () ↔
      2 ≤ options.expressionStart.length ∧ 2 ≤ options.expressionEnd.length
        ∧ options.expressionStart.toList <+: options.printStart.toList
        ∧ options.expressionStart.toList <+: options.commentStart.toList
        ∧ options.printStart ≠ options.commentStart ∧ isBlockTag options.blockTag = true
        ∧ options.tabWidth ≠ 0 := by
  simp only [← startsWith_iff]
  rw [validate]
  split_ifs <;> grind

/-- The delimiters of settings without a fault hold a character each. -/
theorem LexicalOptions.hasDelimiters {options : LexicalOptions}
    (valid : options.validate = .ok ()) : options.lexicon.HasDelimiters := by
  obtain ⟨longStart, longEnd, printBegins, commentBegins, -⟩ := validate_eq_ok_iff.1 valid
  have start : options.expressionStart.toList ≠ [] := by
    rw [← List.length_pos_iff, String.length_toList]
    omega
  have stop : options.expressionEnd.toList ≠ [] := by
    rw [← List.length_pos_iff, String.length_toList]
    omega
  exact
    { expressionStart := start
      expressionEnd := stop
      printStart := printBegins.ne_nil start
      commentStart := commentBegins.ne_nil start }

/-! ## Pieces -/

/-- A piece is a start of a text and holds a character. -/
structure Piece.Covers (piece : Piece) (text : List Char) : Prop where
  nonempty : piece.text ≠ []
  start : piece.text <+: text

/-- What begins with the character that a text begins with covers it if the rest
is a start of the rest. -/
theorem Piece.Covers.cons {kind : TokenKind} {tagName : Option String} {c : Char}
    {taken rest : List Char} (start : taken <+: rest) :
    Covers ⟨kind, c :: taken, tagName⟩ (c :: rest) :=
  ⟨List.cons_ne_nil c taken, (List.prefix_cons_inj c).2 start⟩

/-- What begins with the two characters that a text begins with. -/
theorem Piece.Covers.cons_cons {kind : TokenKind} {tagName : Option String} {c d : Char}
    {taken rest : List Char} (start : taken <+: rest) :
    Covers ⟨kind, c :: d :: taken, tagName⟩ (c :: d :: rest) :=
  .cons ((List.prefix_cons_inj d).2 start)

/-- A run of characters of a class covers a text that begins with one of them. -/
theorem Piece.Covers.run {kind : TokenKind} {tagName : Option String} {c : Char}
    {rest : List Char} {belongs : Char → Bool} (first : belongs c = true) :
    Covers ⟨kind, (c :: rest).takeWhile belongs, tagName⟩ (c :: rest) := by
  rw [List.takeWhile_cons_of_pos first]
  exact .cons (List.takeWhile_prefix belongs)

/-- A name is a start of the text that it is found in. -/
theorem tagNameOf_start (text : List Char) : tagNameOf text <+: text := by
  cases text with
  | nil => exact List.nil_prefix
  | cons c rest =>
    rw [tagNameOf]
    split
    · exact List.takeWhile_prefix _
    · exact List.nil_prefix

/-- A block opener takes its name, then blanks, then perhaps a keyword. -/
theorem scanBlock_covers {kind : TokenKind} {tagName : Option String} (name rest : List Char) :
    Piece.Covers ⟨kind, (scanBlock ('<' :: name) rest).2, tagName⟩ ('<' :: (name ++ rest)) := by
  rw [scanBlock]
  split
  · rename_i tail behind
    have cut : rest.takeWhile isSpace ++ '@' :: tail = rest := by
      rw [← behind]
      exact List.takeWhile_append_dropWhile
    conv => rhs; rw [← cut, ← List.append_assoc]
    exact .cons ((List.prefix_append_right_inj _).2
      ((List.prefix_cons_inj '@').2 (List.takeWhile_prefix _)))
  · exact .cons ((List.prefix_append_right_inj _).2 (List.takeWhile_prefix _))

theorem scanDeclaration_covers (rest : List Char) :
    (scanDeclaration rest).Covers ('<' :: '!' :: rest) := by
  rw [scanDeclaration]
  split_ifs with comment cdata doctype
  · exact .cons_cons (startsWith_iff.1 comment)
  · exact .cons_cons (startsWith_iff.1 cdata)
  · exact .cons_cons (startsWith_iff.1 doctype)
  · exact .cons_cons List.nil_prefix

theorem Lexicon.scanClosing_covers (lexicon : Lexicon) (rest : List Char) :
    (lexicon.scanClosing rest).Covers ('<' :: '/' :: rest) := by
  rw [scanClosing]
  split
  · exact .cons_cons List.nil_prefix
  · exact .cons_cons (tagNameOf_start rest)

theorem Lexicon.scanOpening_covers (lexicon : Lexicon) (rest : List Char) :
    (lexicon.scanOpening rest).Covers ('<' :: rest) := by
  have named : tagNameOf rest <+: rest := tagNameOf_start rest
  rw [scanOpening]
  split
  · exact .cons List.nil_prefix
  · dsimp only
    split
    · conv => rhs; rw [← List.prefix_iff_eq_append.1 named]
      exact scanBlock_covers _ _
    · exact .cons named

theorem Lexicon.scanAngle_covers (lexicon : Lexicon) (rest : List Char) :
    (lexicon.scanAngle rest).Covers ('<' :: rest) := by
  unfold scanAngle
  split
  · exact lexicon.scanClosing_covers _
  · exact scanDeclaration_covers _
  · exact lexicon.scanOpening_covers _

theorem scanAt_covers (rest : List Char) : (scanAt rest).Covers ('@' :: rest) := by
  unfold scanAt
  split
  · split
    · exact .cons (List.takeWhile_prefix _)
    · exact .cons List.nil_prefix
  · exact .cons List.nil_prefix

theorem scanDashes_covers (rest : List Char) : (scanDashes rest).Covers ('-' :: rest) := by
  unfold scanDashes
  split
  · rename_i tail
    exact .cons_cons (List.prefix_append ['>'] tail)
  · exact .cons_cons List.nil_prefix
  · exact .cons List.nil_prefix

theorem scanSquare_covers (rest : List Char) : (scanSquare rest).Covers (']' :: rest) := by
  unfold scanSquare
  split
  · rename_i tail
    exact .cons_cons (List.prefix_append ['>'] tail)
  · exact .cons List.nil_prefix

theorem Lexicon.scanMarkup_covers (lexicon : Lexicon) (c : Char) (rest : List Char) :
    (lexicon.scanMarkup c rest).Covers (c :: rest) := by
  rw [scanMarkup]
  split
  · rename_i angle
    subst angle
    exact lexicon.scanAngle_covers rest
  · split
    · rename_i square
      subst square
      exact scanSquare_covers rest
    · split
      · rename_i keyword
        subst keyword
        exact scanAt_covers rest
      · split
        · rename_i dash
          subst dash
          exact scanDashes_covers rest
        · split
          · exact .cons List.nil_prefix
          · split_ifs with space letter digit
            · exact .run space
            · exact .run letter
            · exact .run digit
            · exact .cons List.nil_prefix

/-- An opener covers a text that begins with the plain one: the longer openers
are looked for in the text itself. -/
theorem Lexicon.scanOpener_covers {lexicon : Lexicon} (delimiters : lexicon.HasDelimiters)
    {text : List Char} (begins : startsWith text lexicon.expressionStart = true) :
    (lexicon.scanOpener text).Covers text := by
  rw [scanOpener]
  split_ifs with print comment
  · exact ⟨delimiters.printStart, startsWith_iff.1 print⟩
  · exact ⟨delimiters.commentStart, startsWith_iff.1 comment⟩
  · exact ⟨delimiters.expressionStart, startsWith_iff.1 begins⟩

/-- **Scanning.**  The first token of a text is a start of it and holds a
character. -/
theorem Lexicon.scan_covers {lexicon : Lexicon} (delimiters : lexicon.HasDelimiters)
    {text : List Char} {piece : Piece} (found : lexicon.scan text = some piece) :
    piece.Covers text := by
  cases text with
  | nil => cases found
  | cons c rest =>
    rw [scan] at found
    split_ifs at found with opener closer
    · cases found
      exact scanOpener_covers delimiters opener
    · cases found
      exact ⟨delimiters.expressionEnd, startsWith_iff.1 closer⟩
    · cases found
      exact lexicon.scanMarkup_covers c rest

/-- A text that holds a character has a first token. -/
theorem Lexicon.scan_eq_none_iff {lexicon : Lexicon} {text : List Char} :
    lexicon.scan text = none ↔ text = [] := by
  cases text with
  | nil => exact iff_of_true rfl rfl
  | cons c rest =>
    rw [scan]
    split_ifs <;> simp

/-! ## Runs -/

/-- Tokens make up a text whose first character stands at a position: each holds
a character, and the next one starts where its text ends. -/
inductive TokensCover (tabWidth : Nat) : Position → List Char → List Token → Prop where
  | nil {position : Position} : TokensCover tabWidth position [] []
  | cons {token : Token} {tokens : List Token} {text : List Char} (nonempty : token.text ≠ "")
      (behind : TokensCover tabWidth (token.position.afterAll tabWidth token.text.toList) text
        tokens) :
      TokensCover tabWidth token.position (token.text.toList ++ text) (token :: tokens)

/-- What one token does to the text that is left: it is cut off in front. -/
structure Cursor.Takes (lexicon : Lexicon) (cursor : Cursor) (token : Token) (after : Cursor) :
    Prop where
  nonempty : token.text ≠ ""
  start : token.position = cursor.position
  text : cursor.rest = token.text.toList ++ after.rest
  place : after.position = cursor.position.afterAll lexicon.tabWidth token.text.toList

/-- **Step.**  The next token is taken from the front of the text that is left. -/
theorem Cursor.takes_of_token? {lexicon : Lexicon} (delimiters : lexicon.HasDelimiters)
    {cursor : Cursor} {token : Token} (found : cursor.token? lexicon = some token) :
    cursor.Takes lexicon token (cursor.skipToken lexicon token) := by
  obtain ⟨piece, scanned, rfl⟩ := Option.map_eq_some_iff.1 found
  obtain ⟨nonempty, start⟩ := Lexicon.scan_covers delimiters scanned
  have length : (String.ofList piece.text).length = piece.text.length := String.length_ofList
  refine ⟨?_, rfl, ?_, ?_⟩
  · intro none
    exact nonempty (String.ofList_eq_empty_iff.1 none)
  · dsimp only [skipToken, skip]
    rw [length, String.toList_ofList]
    exact (List.prefix_iff_eq_append.1 start).symm
  · dsimp only [skipToken, skip]
    rw [length, String.toList_ofList, ← List.prefix_iff_eq_take.1 start]

/-- A token leaves less text than there was. -/
theorem Cursor.Takes.shorter {lexicon : Lexicon} {cursor after : Cursor} {token : Token}
    (takes : cursor.Takes lexicon token after) : after.rest.length < cursor.rest.length := by
  have some : token.text.toList ≠ [] := by
    intro none
    exact takes.nonempty (String.toList_eq_nil_iff.1 none)
  rw [takes.text, List.length_append]
  have positive := List.length_pos_iff.2 some
  omega

/-- **Run.**  With a budget for each character that is left, the tokens behind a
cursor make up all the text that is left. -/
theorem tokensFrom_cover {lexicon : Lexicon} (delimiters : lexicon.HasDelimiters) {budget : Nat}
    {cursor : Cursor} (enough : cursor.rest.length ≤ budget) :
    TokensCover lexicon.tabWidth cursor.position cursor.rest
      (tokensFrom lexicon budget cursor) := by
  induction budget generalizing cursor with
  | zero =>
    rw [tokensFrom, List.length_eq_zero_iff.1 (Nat.le_zero.1 enough)]
    exact .nil
  | succ budget ih =>
    rw [tokensFrom]
    cases found : cursor.token? lexicon with
    | none =>
      rw [Lexicon.scan_eq_none_iff.1 (Option.map_eq_none_iff.1 found)]
      exact .nil
    | some token =>
      have takes := Cursor.takes_of_token? delimiters found
      have left := ih (Nat.le_of_lt_succ (Nat.lt_of_lt_of_le takes.shorter enough))
      rw [takes.place] at left
      rw [takes.text, ← takes.start]
      rw [← takes.start] at left
      exact .cons takes.nonempty left

namespace TokensCover

variable {tabWidth : Nat} {position : Position} {text : List Char} {tokens : List Token}

theorem nonempty (cover : TokensCover tabWidth position text tokens) :
    ∀ token ∈ tokens, token.text ≠ "" := by
  induction cover with
  | nil => simp
  | cons here _ ih => exact List.forall_mem_cons.2 ⟨here, ih⟩

/-- The texts of the tokens, in order, are the text. -/
theorem join (cover : TokensCover tabWidth position text tokens) :
    String.join (tokens.map (·.text)) = String.ofList text := by
  induction cover with
  | nil => rfl
  | cons _ _ ih =>
    rw [List.map_cons, String.join_cons, ih, String.ofList_append, String.ofList_toList]

/-- A token stands where the texts of the tokens before it end. -/
theorem position_eq (cover : TokensCover tabWidth position text tokens) {before after : List Token}
    {token : Token} (split : tokens = before ++ token :: after) :
    token.position = position.afterAll tabWidth (String.join (before.map (·.text))).toList := by
  induction before generalizing position text tokens with
  | nil =>
    subst split
    cases cover with
    | cons _ _ => rfl
  | cons first before ih =>
    subst split
    cases cover with
    | cons _ behind =>
      rw [ih behind rfl, List.map_cons, String.join_cons, String.toList_append,
        Position.afterAll_append]

end TokensCover

/-- **Tokens.**  With settings that have no fault every source can be cut into
tokens.  None of them is empty; together they are the source, except that a
carriage return before a line feed does not count; and each stands where the
texts before it end, counted from the first line and column. -/
theorem tokenize_covers {options : LexicalOptions} (valid : options.validate = .ok ())
    (source : String) :
    ∃ tokens, tokenize options source = .ok tokens
      ∧ (∀ token ∈ tokens, token.text ≠ "")
      ∧ String.join (tokens.map (·.text))
        = String.ofList (replaceAll source.toList ['\r', '\n'] ['\n'])
      ∧ ∀ before token after, tokens = before ++ token :: after →
        token.position = Position.start.afterAll options.tabWidth
          (String.join (before.map (·.text))).toList := by
  have cover : TokensCover options.tabWidth .start (normalizeLines source.toList)
      (tokensFrom options.lexicon (Cursor.ofSource source).rest.length (.ofSource source)) :=
    tokensFrom_cover (LexicalOptions.hasDelimiters valid)
      (Nat.le_refl (Cursor.ofSource source).rest.length)
  refine ⟨_, ?_, cover.nonempty, ?_, fun before token after => cover.position_eq⟩
  · rw [tokenize, valid]
    rfl
  · rw [cover.join, normalizeLines_eq_replaceAll]

/-- The plain settings have no fault, and of two characters at the end of a line
only the line feed is left. -/
theorem tokenize_covers_line_end :
    LexicalOptions.validate {} = .ok ()
      ∧ ∃ tokens, tokenize {} "a\r\n<b>" = .ok tokens
        ∧ String.join (tokens.map (·.text)) = "a\n<b>" := by
  have valid : LexicalOptions.validate {} = .ok () := by decide
  obtain ⟨tokens, found, -, joined, -⟩ := tokenize_covers valid "a\r\n<b>"
  exact ⟨valid, tokens, found, joined.trans (by decide)⟩

end ViewTemplate.Template
