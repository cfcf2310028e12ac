import ViewTemplate.Proofs.Document.Placement
import ViewTemplate.Proofs.Yields

/-!
# Where readers go in a source

A reader of a document goes forward over one text.  It starts at an offset and
stops at one, and what it returns is read off the characters between them
(`Walks`).  Whatever a reader only looks at, such as the next token or the place
where it is, is determined by the offset.

The readers of tokens and values come first, each with what its result says about
the text.  A value in quotes is the one place where the text is taken without
cutting it into tokens.

## Main Definitions

* `Walks` — from one offset to another, and what is true of the result there
* `Takes` — a token stands between two offsets
* `Spans` — a text stands between two offsets
* `QuotedValue.StandsIn` — a value stands before its closing quote

-/

namespace ViewTemplate.Document

open Template Text

variable {α β : Type} {lexicon : Lexicon} {text : List Char} {start stop : Nat}

/-- **Where a reader goes.**  With delimiters that are not empty, whatever a reader
returns when it starts at an offset of a text, it stops at a later offset, and the
result and that offset have a property. -/
def Walks (lexicon : Lexicon) (text : List Char) (reader : Reader α) (start : Nat)
    (property : α → Nat → Prop) : Prop :=
  lexicon.HasDelimiters →
    Yields ((reader.run lexicon).run (cursorAt lexicon text start)) fun result =>
      ∃ stop, start ≤ stop ∧ result.2 = cursorAt lexicon text stop ∧ property result.1 stop

namespace Walks

variable {property : α → Nat → Prop} {property' : β → Nat → Prop}

theorem pure {value : α} (h : property value start) :
    Walks lexicon text (Pure.pure value) start property :=
  fun _ => .pure ⟨start, Nat.le_refl start, rfl, h⟩

/-- **Sequences.**  What follows starts where the first part stops. -/
theorem bind {reader : Reader α} {next : α → Reader β}
    (first : Walks lexicon text reader start property)
    (rest : ∀ value middle, start ≤ middle → property value middle →
      Walks lexicon text (next value) middle property') :
    Walks lexicon text (reader >>= next) start property' := by
  intro delimiters
  refine (first delimiters).bind ?_
  rintro ⟨value, _⟩ ⟨middle, forward, rfl, h⟩
  refine (rest value middle forward h delimiters).mono ?_
  rintro result ⟨stop, further, same, h'⟩
  exact ⟨stop, forward.trans further, same, h'⟩

theorem mono {wider : α → Nat → Prop} {reader : Reader α}
    (h : Walks lexicon text reader start property)
    (widen : ∀ value stop, start ≤ stop → property value stop → wider value stop) :
    Walks lexicon text reader start wider := by
  refine fun delimiters => (h delimiters).mono ?_
  rintro result ⟨stop, forward, same, h⟩
  exact ⟨stop, forward, same, widen result.1 stop forward h⟩

/-- A part that may be left out before the rest. -/
theorem optional {condition : Prop} [Decidable condition] {next longer : Reader α}
    (rest : ∀ start', start ≤ start' → Walks lexicon text next start' property)
    (before : (∀ start', start ≤ start' → Walks lexicon text next start' property) →
      Walks lexicon text longer start property) :
    Walks lexicon text (if condition then longer else next) start property := by
  split
  · exact before rest
  · exact rest start (Nat.le_refl start)

/-! ### Failures -/

theorem failAt (position : Position) (fault : ParseFault) :
    Walks lexicon text (Document.failAt position fault) start property :=
  fun _ => .throw _

theorem failHere (fault : ParseFault) :
    Walks lexicon text (Document.failHere fault) start property :=
  fun _ => .throw _

/-! ### Looking -/

/-- The kind of the token at an offset; none at the end. -/
def kindAt (lexicon : Lexicon) (text : List Char) (offset : Nat) : Option TokenKind :=
  ((cursorAt lexicon text offset).token? lexicon).map (·.kind)

/-- A sequence whose first part only gives a value. -/
theorem given {value : α} {next : α → Reader β}
    (rest : Walks lexicon text (next value) start property') :
    Walks lexicon text (Pure.pure value >>= next) start property' :=
  rest

theorem here {next : Position → Reader β}
    (rest : Walks lexicon text (next (positionAt lexicon.tabWidth text start)) start property') :
    Walks lexicon text (Document.here >>= next) start property' :=
  rest

theorem peek {next : Option Token → Reader β}
    (rest : Walks lexicon text (next ((cursorAt lexicon text start).token? lexicon)) start
      property') :
    Walks lexicon text (Document.peek >>= next) start property' :=
  rest

theorem peekKind {next : Option TokenKind → Reader β}
    (rest : Walks lexicon text (next (kindAt lexicon text start)) start property') :
    Walks lexicon text (Document.peekKind >>= next) start property' :=
  rest

theorem sees {kind : TokenKind} {next : Bool → Reader β}
    (rest : Walks lexicon text (next (decide (kindAt lexicon text start = some kind))) start
      property') :
    Walks lexicon text (Document.sees kind >>= next) start property' :=
  rest

theorem budget {next : Nat → Reader β}
    (rest : Walks lexicon text (next ((text.drop start).length + 1)) start property') :
    Walks lexicon text (Document.budget >>= next) start property' :=
  rest

theorem settings {next : Lexicon → Reader β}
    (rest : Walks lexicon text (next lexicon) start property') :
    Walks lexicon text (read >>= next) start property' :=
  rest

theorem cursor {next : Cursor → Reader β}
    (rest : Walks lexicon text (next (cursorAt lexicon text start)) start property') :
    Walks lexicon text (get >>= next) start property' :=
  rest

/-- Going forward without reading. -/
theorem skip {middle : Nat} {next : Unit → Reader β} (forward : start ≤ middle)
    (rest : Walks lexicon text (next ()) middle property') :
    Walks lexicon text (set (cursorAt lexicon text middle) >>= next) start property' := by
  refine fun delimiters => (rest delimiters).mono ?_
  rintro result ⟨stop, further, same, h⟩
  exact ⟨stop, forward.trans further, same, h⟩

theorem failUnexpected : Walks lexicon text Document.failUnexpected start property := by
  refine .peek ?_
  split
  · exact .failAt _ _
  · exact .failHere _

end Walks

/-! ## Single tokens -/

/-- Where no token stands the text has ended. -/
theorem length_le_of_token?_eq_none
    (none : (cursorAt lexicon text start).token? lexicon = none) : text.length ≤ start :=
  List.drop_eq_nil_iff.1 (Lexicon.scan_eq_none_iff.1 (Option.map_eq_none_iff.1 none))

/-- Where a token stands the text goes on. -/
theorem lt_length_of_token?_eq_some {token : Token}
    (found : (cursorAt lexicon text start).token? lexicon = some token) : start < text.length := by
  by_contra outside
  have empty : text.drop start = [] := List.drop_eq_nil_of_le (Nat.le_of_not_lt outside)
  obtain ⟨piece, scanned, -⟩ := Option.map_eq_some_iff.1 found
  rw [cursorAt, empty] at scanned
  cases scanned

/-- A token is at the position where it stands. -/
theorem position_of_token? {token : Token}
    (found : (cursorAt lexicon text start).token? lexicon = some token) :
    token.position = positionAt lexicon.tabWidth text start := by
  obtain ⟨piece, -, rfl⟩ := Option.map_eq_some_iff.1 found
  rfl

/-- A token stands between two offsets of a text. -/
structure Takes (lexicon : Lexicon) (text : List Char) (token : Token) (start stop : Nat) :
    Prop where
  found : (cursorAt lexicon text start).token? lexicon = some token
  starts : TokenAt lexicon text token start
  stop : stop = start + token.text.toList.length

namespace Takes

variable {token : Token}

theorem lt (takes : Takes lexicon text token start stop) : start < stop := by
  have some : 0 < token.text.toList.length := List.length_pos_iff.2 takes.starts.nonempty
  have stop := takes.stop
  omega

theorem inside (takes : Takes lexicon text token start stop) : start < text.length :=
  takes.starts.marks.inside

/-- A token of a kind that is always written in the same way. -/
theorem stands (takes : Takes lexicon text token start stop) {characters : List Char}
    (fixed : lexicon.spelling? token.kind = some characters) :
    StandsAt text characters start ∧ stop = start + characters.length := by
  have same : token.text.toList = characters := takes.starts.fixed characters fixed
  rw [← same]
  exact ⟨takes.starts.stands, takes.stop⟩

end Takes

theorem take_walks :
    Walks lexicon text take start fun token stop => Takes lexicon text token start stop := by
  refine .peek ?_
  cases found : (cursorAt lexicon text start).token? lexicon with
  | none => exact .failHere _
  | some token =>
    intro delimiters
    have starts : TokenAt lexicon text token start := tokenAt_of_token? delimiters found
    refine .pure ⟨_, Nat.le_add_right start token.text.length, ?_, found, starts, ?_⟩
    · exact cursorAt_skip lexicon text start token.text.length
    · rw [String.length_toList]

theorem expect_walks (kind : TokenKind) :
    Walks lexicon text (expect kind) start fun token stop =>
      Takes lexicon text token start stop ∧ token.kind = kind := by
  refine .bind take_walks fun token stop _ takes => ?_
  split
  · rename_i same
    exact .pure ⟨takes, same⟩
  · exact .failAt _ _

/-- Where a token is taken there is a character; if none is taken, nothing is. -/
theorem eat_walks (kind : TokenKind) :
    Walks lexicon text (eat kind) start fun eaten stop =>
      (eaten = true → start < text.length ∧ start < stop) ∧ (eaten = false → stop = start) := by
  refine .sees ?_
  split
  · refine .bind take_walks fun token stop _ takes => .pure ⟨fun _ => ?_, nofun⟩
    exact ⟨takes.inside, takes.lt⟩
  · exact .pure ⟨nofun, fun _ => rfl⟩

theorem skipSpace_walks : Walks lexicon text skipSpace start fun _ _ => True :=
  .bind (eat_walks _) fun _ _ _ _ => .pure trivial

/-! ## Runs of tokens -/

/-- A text stands between two offsets. -/
structure Spans (text : List Char) (value : String) (start stop : Nat) : Prop where
  stands : StandsAt text value.toList start
  stop : stop = start + value.toList.length

namespace Spans

theorem nil : Spans text "" start start :=
  ⟨.nil text start, rfl⟩

theorem cons {first rest : String} {middle : Nat} (h : Spans text first start middle)
    (h' : Spans text rest middle stop) : Spans text (first ++ rest) start stop := by
  obtain ⟨stands, rfl⟩ := h
  obtain ⟨stands', rfl⟩ := h'
  constructor
  · rw [String.toList_append]
    exact stands.append stands'
  · rw [String.toList_append, List.length_append, Nat.add_assoc]

end Spans

theorem textsWhile_walks (belongs : Token → Bool) (turns : Nat) :
    Walks lexicon text (textsWhile belongs turns) start fun pieces stop =>
      Spans text (String.join pieces) start stop := by
  induction turns generalizing start with
  | zero => exact .failHere _
  | succ turns ih =>
    refine .peek ?_
    cases found : (cursorAt lexicon text start).token? lexicon with
    | none => exact .pure .nil
    | some token =>
      dsimp only
      split
      -- The token that is taken is the one that was looked at.
      · refine .bind take_walks fun taken middle _ takes => ?_
        have same : taken = token := Option.some.inj (takes.found.symm.trans found)
        subst same
        refine .bind ih fun pieces stop _ spans => .pure ?_
        rw [String.join_cons]
        exact .cons ⟨takes.starts.stands, takes.stop⟩ spans
      · exact .pure .nil

theorem textWhile_walks (belongs : Token → Bool) :
    Walks lexicon text (textWhile belongs) start fun value stop => Spans text value start stop :=
  .budget (.bind (textsWhile_walks belongs _) fun _ _ _ spans => .pure spans)

/-- A run of tokens takes the first one if it belongs, so there is a character where
it starts. -/
theorem textWhile_progress {belongs : Token → Bool} {token : Token}
    (found : (cursorAt lexicon text start).token? lexicon = some token)
    (first : belongs token = true) :
    Walks lexicon text (textWhile belongs) start fun value stop =>
      Spans text value start stop ∧ start < text.length ∧ start < stop := by
  refine .budget (.bind ?_ fun _ _ _ spans => .pure spans)
  refine .peek ?_
  rw [found]
  dsimp only
  rw [if_pos first]
  refine .bind take_walks fun taken middle _ takes => ?_
  have same : taken = token := Option.some.inj (takes.found.symm.trans found)
  subst same
  refine .bind (textsWhile_walks belongs _) fun pieces stop forward spans => .pure ?_
  rw [String.join_cons]
  have lt : start < stop := Nat.lt_of_lt_of_le takes.lt forward
  exact ⟨.cons ⟨takes.starts.stands, takes.stop⟩ spans, takes.inside, lt⟩

/-- A text up to a token that is always written in the same way stands before the
characters of that token. -/
theorem textUpTo_walks {kind : TokenKind} {closer : List Char}
    (fixed : lexicon.spelling? kind = some closer) :
    Walks lexicon text (textUpTo kind) start fun value stop =>
      StandsAt text (value.toList ++ closer) start ∧ start < text.length ∧ start < stop := by
  refine .bind (textWhile_walks _) fun value middle forward spans => ?_
  refine .bind (expect_walks kind) fun token stop _ ⟨takes, same⟩ => .pure ?_
  obtain ⟨stands, rfl⟩ := spans
  subst same
  refine ⟨stands.append (takes.stands fixed).1, ?_, ?_⟩
  · exact Nat.lt_of_le_of_lt forward takes.inside
  · exact Nat.lt_of_le_of_lt forward takes.lt

/-! ## Snippets and values -/

/-- A snippet that is captured keeps its text and its place. -/
theorem captured_walks {body : Type} {read : String → Except Snippet.Fault body}
    {source : String} {position : Position} :
    Walks lexicon text (captured (capture read source position)) start fun handle stop =>
      (handle.source = source ∧ handle.position = position) ∧ stop = start := by
  rw [capture]
  cases read source with
  | error fault => exact .failAt _ _
  | ok spelled => exact .pure ⟨⟨rfl, rfl⟩, rfl⟩

/-- Quotes are written as their character. -/
theorem spelling?_of_isQuote {kind : TokenKind} (quote : kind.isQuote = true) :
    lexicon.spelling? kind = some [quoteChar kind] := by
  cases kind <;> first | rfl | cases quote

theorem quoteChar_eq (kind : TokenKind) : quoteChar kind = '"' ∨ quoteChar kind = '\x27' := by
  rw [quoteChar]
  split
  · exact .inl rfl
  · exact .inr rfl

theorem expectQuote_walks :
    Walks lexicon text expectQuote start fun kind stop =>
      kind.isQuote = true ∧ StandsAt text [quoteChar kind] start ∧ start < stop := by
  refine .bind take_walks fun token stop _ takes => ?_
  split
  · rename_i quote
    exact .pure ⟨quote, (takes.stands (spelling?_of_isQuote quote)).1, takes.lt⟩
  · exact .failAt _ _

/-- Behind an offset a quote is opened, and a value stands at its position before
the same quote. -/
structure QuotedValue.StandsIn (lexicon : Lexicon) (text : List Char) (start : Nat)
    (value : QuotedValue) : Prop where
  place : ∃ opened offset, start ≤ opened ∧ opened < offset
    ∧ StandsAt text [value.quote] opened
    ∧ Marks lexicon.tabWidth text value.position offset
    ∧ StandsAt text (value.text.toList ++ [value.quote]) offset
  quote : value.quote = '"' ∨ value.quote = '\x27'

namespace QuotedValue.StandsIn

variable {value : QuotedValue} {handle : Captured α} {offset : Nat}

/-- A snippet that is a value, perhaps without blanks at its ends. -/
theorem quoted (stands : value.StandsIn lexicon text start) (behind : offset < start)
    {front back : List Char} (source : value.text.toList = front ++ handle.source.toList ++ back)
    (blank : ∀ c ∈ front ++ back, isBlank c = true) (place : handle.position = value.position) :
    Quoted lexicon text offset value.quote handle := by
  obtain ⟨opened, inner, startLe, lt, opens, marks, reads⟩ := stands.place
  rw [source] at reads
  rw [← place] at marks
  exact ⟨opened, inner, front, back, Nat.lt_of_lt_of_le behind startLe, lt, opens, marks, reads,
    blank⟩

/-- A snippet that is a value without the blanks at its ends. -/
theorem blockValue (stands : value.StandsIn lexicon text start) (behind : offset < start)
    (source : handle.source = trim value.text) (place : handle.position = value.position) :
    BlockValue lexicon text offset handle := by
  obtain ⟨front, back, cut, blank⟩ := trim_eq_append value.text
  rw [← source] at cut
  have quoted : Quoted lexicon text offset value.quote handle :=
    stands.quoted behind cut blank place
  rcases stands.quote with double | single
  · exact .inl (double ▸ quoted)
  · exact .inr (single ▸ quoted)

end QuotedValue.StandsIn

/-- The raw text before a character, and the cursor behind it. -/
theorem rawUntil?_spans {quote : Char} {raw : String} {cursor : Cursor}
    (found : (cursorAt lexicon text start).rawUntil? lexicon quote = some (raw, cursor)) :
    ∃ middle, Spans text raw start middle ∧ cursor = cursorAt lexicon text middle := by
  rw [Cursor.rawUntil?] at found
  split at found
  · cases found
    refine ⟨_, ⟨?_, ?_⟩, cursorAt_skip lexicon text start _⟩
    · rw [String.toList_ofList]
      exact List.takeWhile_prefix _
    · rw [String.toList_ofList]
  · cases found

/-- The text of a value is raw: it ends before the next quote, whatever tokens it
would be cut into. -/
theorem quotedValue_walks :
    Walks lexicon text quotedValue start fun value stop =>
      value.StandsIn lexicon text start ∧ start < stop := by
  refine .bind skipSpace_walks fun _ _ le₁ _ => .bind (expect_walks _) fun _ _ le₂ _ => ?_
  refine .bind skipSpace_walks fun _ quoted le₃ _ => ?_
  refine .bind expectQuote_walks fun kind opened _ ⟨quote, opens, lt⟩ => ?_
  refine .here (.settings (.cursor ?_))
  split
  · rename_i raw cursor found
    obtain ⟨closed, spans, rfl⟩ := rawUntil?_spans found
    obtain ⟨stands, rfl⟩ := spans
    refine .skip (Nat.le_add_right opened _) ?_
    refine .bind (expect_walks kind) fun token stop le₄ ⟨takes, same⟩ => .pure ⟨?_, by omega⟩
    subst same
    have reads : StandsAt text (raw.toList ++ [quoteChar token.kind]) opened :=
      stands.append (takes.stands (spelling?_of_isQuote quote)).1
    have marks : Marks lexicon.tabWidth text (positionAt lexicon.tabWidth text opened) opened :=
      ⟨Nat.lt_of_le_of_lt (Nat.le_add_right opened _) takes.inside, rfl⟩
    exact ⟨⟨quoted, opened, by omega, lt, opens, marks, reads⟩, quoteChar_eq token.kind⟩
  · exact fun _ => .throw _

/-- The expression of a block, whose blanks at the ends are dropped. -/
theorem blockExpression_walks :
    Walks lexicon text blockExpression start fun expression stop =>
      (∀ offset < start, BlockValue lexicon text offset expression) ∧ start < stop := by
  refine .bind quotedValue_walks fun value middle _ ⟨stands, lt⟩ => ?_
  refine captured_walks.mono ?_
  rintro expression _ _ ⟨⟨source, place⟩, rfl⟩
  exact ⟨fun offset behind => stands.blockValue behind source place, lt⟩

theorem blockName_walks (what : String) :
    Walks lexicon text (blockName what) start fun _ stop => start < stop := by
  refine .bind quotedValue_walks fun value middle _ ⟨_, lt⟩ => ?_
  dsimp only
  split
  · exact .failAt _ _
  · exact .pure lt

/-- The text of an embedded snippet stands before the delimiter that ends it. -/
theorem spanText_walks :
    Walks lexicon text spanText start fun span stop =>
      span.2 = positionAt lexicon.tabWidth text start ∧ start < text.length ∧ start < stop
        ∧ StandsAt text (span.1.toList ++ lexicon.expressionEnd) start := by
  refine .here (.bind (textUpTo_walks rfl) fun value stop _ ⟨stands, inside, lt⟩ => .pure ?_)
  exact ⟨rfl, inside, lt, stands⟩

/-- A snippet captured from the text between delimiters. -/
theorem spannedAt_of_captured {span : String × Position} {handle : Captured α}
    (place : span.2 = positionAt lexicon.tabWidth text start) (inside : start < text.length)
    (stands : StandsAt text (span.1.toList ++ lexicon.expressionEnd) start)
    (captured : handle.source = span.1 ∧ handle.position = span.2) :
    SpannedAt lexicon text start handle := by
  obtain ⟨source, position⟩ := captured
  rw [← source] at stands
  exact ⟨⟨inside, place.symm.trans position.symm⟩, stands⟩

/-! ## Names -/

theorem variableName_walks : Walks lexicon text variableName start fun _ _ => True := by
  refine .bind take_walks fun _ _ _ _ => ?_
  split
  · exact .bind (textWhile_walks _) fun _ _ _ _ => .pure trivial
  · exact .failAt _ _

/-! ## Sources -/

variable {options : LexicalOptions} {source : String}

/-- A document is read from the characters of its source, in which a carriage return
before a line feed does not count. -/
theorem parse_of_validate (valid : options.validate = .ok ()) (source : String) :
    parse options source = ((document.run options.lexicon).run
      (cursorAt options.lexicon (replaceAll source.toList ['\r', '\n'] ['\n']) 0)).map (·.1) := by
  rw [parse, valid, Cursor.ofSource, normalizeLines_eq_replaceAll, cursorAt_zero]

theorem validate_of_parse {found : ViewTemplate.Document}
    (parsed : parse options source = .ok found) : options.validate = .ok () := by
  cases valid : options.validate with
  | error fault =>
    rw [parse, valid] at parsed
    cases parsed
  | ok _ => rfl

/-- What is true of every document that is read from a text is true of the one that is
read from a source. -/
theorem Walks.of_parse {property : ViewTemplate.Document → Nat → Prop}
    {found : ViewTemplate.Document}
    (walks : Walks options.lexicon (replaceAll source.toList ['\r', '\n'] ['\n']) document 0
      property)
    (parsed : parse options source = .ok found) : ∃ stop, property found stop := by
  have valid := validate_of_parse parsed
  rw [parse_of_validate valid] at parsed
  have reads : Yields (((document.run options.lexicon).run (cursorAt options.lexicon
      (replaceAll source.toList ['\r', '\n'] ['\n']) 0)).map (·.1)) fun found =>
        ∃ stop, property found stop := by
    refine .map _ ((walks (LexicalOptions.hasDelimiters valid)).mono ?_)
    rintro result ⟨stop, -, -, h⟩
    exact ⟨stop, h⟩
  exact reads found parsed

end ViewTemplate.Document
