import Mathlib.Data.List.TakeWhile
import ViewTemplate.Proofs.Document.Tokens
import ViewTemplate.Proofs.Document.Walking
import ViewTemplate.Proofs.Snippet.Progress

/-!
# Where the faults of a document are

Every fault that a reader reports is at some offset of the text, and which offset that is
depends on the fault (`FaultAt`).  Most are at a token, or where a reader looks for one.  A
source that ends too early is reported at its end.  A snippet that cannot be read is reported
where its text starts: behind the quote that opens a value, behind the word of a loop and the
white space there, or behind the opener of a span (`SnippetFails`).

No fault of a budget is among these.  So that a reader fails only in this way (`Fails`)
implies that its budgets are large enough.  A reader is judged from one offset, as it is for
what it returns (`Walks`), and a sequence of readers needs both: the second part starts where
the first one stops (`Fails.bind`).

## Main Definitions

* `Gap`, `Skips` — white space between offsets, and as much of it as a reader passes
* `ValueOpens` — an opener, an equals sign and a quote stand before a value
* `SnippetFails` — a snippet at an offset is no expression or statement
* `FaultAt` — a fault at an offset
* `Fails` — a reader reports faults only at their offsets
* `Fares` — what a reader returns, and where it fails

-/

namespace ViewTemplate.Document

open Template Text

variable {α β : Type} {lexicon : Lexicon} {text : List Char} {start middle stop : Nat}

/-! ## White space -/

/-- White space alone stands between two offsets. -/
structure Gap (text : List Char) (start stop : Nat) : Prop where
  forward : start ≤ stop
  blank : ∀ c ∈ (text.drop start).take (stop - start), isSpace c = true

namespace Gap

theorem refl (text : List Char) (start : Nat) : Gap text start start := by
  refine ⟨Nat.le_refl start, ?_⟩
  rw [Nat.sub_self, List.take_zero]
  exact nofun

theorem trans (first : Gap text start middle) (second : Gap text middle stop) :
    Gap text start stop := by
  have forward := first.forward
  have forward' := second.forward
  refine ⟨forward.trans forward', ?_⟩
  have cut : stop - start = (middle - start) + (stop - middle) := by omega
  have there : start + (middle - start) = middle := by omega
  rw [cut, List.take_add, List.drop_drop, there]
  exact List.forall_mem_append.2 ⟨first.blank, second.blank⟩

end Gap

/-- A delimiter of embedded snippets begins at an offset. -/
def DelimiterAt (lexicon : Lexicon) (text : List Char) (offset : Nat) : Prop :=
  StandsAt text lexicon.expressionStart offset ∨ StandsAt text lexicon.expressionEnd offset

/-- The white space from one offset up to another, with none behind it.  White space with
which a delimiter begins is that delimiter, and then nothing is passed. -/
structure Skips (lexicon : Lexicon) (text : List Char) (start stop : Nat) : Prop
    extends Gap text start stop where
  last : (∀ c ∈ text[stop]?, isSpace c = false) ∨ stop = start ∧ DelimiterAt lexicon text start

/-- What stands behind a run is the first character that does not belong to it. -/
theorem getElem?_length_takeWhile (belongs : Char → Bool) (text : List Char) :
    text[(text.takeWhile belongs).length]? = (text.dropWhile belongs).head? := by
  induction text with
  | nil => rfl
  | cons c rest ih =>
    by_cases first : belongs c = true
    · simp [first, ih]
    · simp [first]

/-- The token that is taken is the one whose kind was seen. -/
theorem Takes.kind {token : Token} {kind : TokenKind}
    (takes : Takes lexicon text token start stop)
    (seen : Walks.kindAt lexicon text start = some kind) : token.kind = kind := by
  rw [Walks.kindAt, takes.found] at seen
  exact Option.some.inj seen

/-- A white space token is all the white space there is. -/
theorem Takes.skips {token : Token} (takes : Takes lexicon text token start stop)
    (kind : token.kind = .whitespace) : Skips lexicon text start stop := by
  obtain ⟨piece, scanned, rfl⟩ := Option.map_eq_some_iff.1 takes.found
  have run : piece.text = (text.drop start).takeWhile isSpace := text_of_whitespace scanned kind
  have stop : stop = start + ((text.drop start).takeWhile isSpace).length := by
    rw [takes.stop, String.toList_ofList, run]
  subst stop
  have forward := Nat.le_add_right start ((text.drop start).takeWhile isSpace).length
  refine ⟨⟨forward, ?_⟩, .inl ?_⟩
  · rw [Nat.add_sub_cancel_left,
      ← List.prefix_iff_eq_take.1 (List.takeWhile_prefix isSpace (l := text.drop start))]
    exact fun c mem => List.mem_takeWhile_imp mem
  · intro c mem
    have behind := List.head?_dropWhile_not isSpace (text.drop start)
    rw [← List.getElem?_drop, getElem?_length_takeWhile] at mem
    rw [mem] at behind
    exact behind

/-- Where no white space token stands, a delimiter begins, or there is no white space. -/
theorem skips_of_ne_whitespace (other : Walks.kindAt lexicon text start ≠ some .whitespace) :
    Skips lexicon text start start := by
  refine ⟨.refl text start, ?_⟩
  cases left : text.drop start with
  | nil =>
    refine .inl fun c mem => ?_
    rw [List.getElem?_eq_none (List.drop_eq_nil_iff.1 left)] at mem
    cases mem
  | cons c rest =>
    have first : text[start]? = some c := by
      rw [← Nat.add_zero start, ← List.getElem?_drop, left]
      rfl
    rw [first]
    by_cases opens : startsWith (c :: rest) lexicon.expressionStart = true
    · refine .inr ⟨rfl, .inl ?_⟩
      rw [StandsAt, left]
      exact startsWith_iff.1 opens
    by_cases closes : startsWith (c :: rest) lexicon.expressionEnd = true
    · refine .inr ⟨rfl, .inr ?_⟩
      rw [StandsAt, left]
      exact startsWith_iff.1 closes
    refine .inl fun d mem => Bool.eq_false_iff.2 fun space => other ?_
    cases mem
    have found : lexicon.scan (text.drop start)
        = some ⟨.whitespace, (c :: rest).takeWhile isSpace, none⟩ := by
      rw [left, Lexicon.scan, if_neg opens, if_neg closes, scanMarkup_space space]
    show ((lexicon.scan (text.drop start)).map _).map _ = _
    rw [found]
    rfl

theorem eat_whitespace_walks :
    Walks lexicon text (eat .whitespace) start fun _ stop => Skips lexicon text start stop := by
  refine .sees ?_
  split
  · rename_i found
    refine .bind take_walks fun token stop _ takes => .pure (takes.skips ?_)
    exact takes.kind (of_decide_eq_true found)
  · rename_i other
    exact .pure (skips_of_ne_whitespace (of_decide_eq_false (Bool.eq_false_iff.2 other)))

theorem skipSpace_skips :
    Walks lexicon text skipSpace start fun _ stop => Skips lexicon text start stop :=
  .bind eat_whitespace_walks fun _ _ _ skips => .pure skips

/-! ## Faults and offsets -/

/-- Whether a kind of token stands before a value that is a snippet or a name. -/
def opensValue : TokenKind → Bool
  | .print | .ifBlock | .elseIf | .switch | .case | .whileBlock | .render | .renderContent
  | .contentFor | .layout | .contextAttribute | .rightSquareBrace => true
  | _ => false

/-- The snippet that a value holds: blanks around it are dropped, but not in an attribute. -/
def valueSnippet (opener : TokenKind) (raw : String) : String :=
  if opener = .rightSquareBrace then raw else trim raw

/-- An opener stands before an offset, with nothing but white space between. -/
def Opened (lexicon : Lexicon) (text : List Char) (opener : TokenKind) (offset : Nat) : Prop :=
  ∃ token start stop, Takes lexicon text token start stop ∧ token.kind = opener
    ∧ Gap text stop offset

theorem Opened.gap {opener : TokenKind} (opened : Opened lexicon text opener start)
    (gap : Gap text start stop) : Opened lexicon text opener stop := by
  obtain ⟨token, first, behind, takes, kind, before⟩ := opened
  exact ⟨token, first, behind, takes, kind, before.trans gap⟩

/-- **A value opens at an offset**: before it there are an opener, an equals sign and a quote,
with nothing but white space between. -/
structure ValueOpens (lexicon : Lexicon) (text : List Char) (opener quote : TokenKind)
    (offset : Nat) : Prop where
  isQuote : quote.isQuote = true
  place : ∃ equals mark o₁ o₂ o₃, Opened lexicon text opener o₁
    ∧ Takes lexicon text equals o₁ o₂ ∧ equals.kind = .equals ∧ Gap text o₂ o₃
    ∧ Takes lexicon text mark o₃ offset ∧ mark.kind = quote

/-- **A snippet fails at an offset**: its text starts there, and it is no expression or
statement. -/
inductive SnippetFails (lexicon : Lexicon) (text : List Char) : ParseFault → Nat → Prop
  /-- Behind the quote that opens a value, which ends before the next quote of its kind. -/
  | value {opener quote : TokenKind} {raw : String} {fault : Snippet.Fault} {offset : Nat}
      (known : opensValue opener = true) (opens : ValueOpens lexicon text opener quote offset)
      (stands : StandsAt text (raw.toList ++ [quoteChar quote]) offset)
      (first : quoteChar quote ∉ raw.toList)
      (fails : Snippet.readExpression (valueSnippet opener raw) = .error fault) :
      SnippetFails lexicon text (.snippet fault) offset
  /-- Behind the word of a loop and the white space there. -/
  | collection {quote : TokenKind} {word : Token} {raw : String} {fault : Snippet.Fault}
      {opened start stop offset : Nat} (opens : ValueOpens lexicon text .foreach quote opened)
      (behind : opened ≤ start) (takes : Takes lexicon text word start stop)
      (isWord : word.kind = .inKeyword ∨ word.kind = .ofKeyword)
      (skips : Skips lexicon text stop offset)
      (stands : StandsAt text (raw.toList ++ [quoteChar quote]) offset)
      (fails : Snippet.readExpression (trim raw) = .error fault) :
      SnippetFails lexicon text (.snippet fault) offset
  /-- Behind the opener of a span, which ends before the closing delimiter. -/
  | statement {opener : Token} {raw : String} {fault : Snippet.Fault} {start offset : Nat}
      (takes : Takes lexicon text opener start offset)
      (known : opener.kind = .expressionStart ∨ opener.kind = .printExpressionStart)
      (stands : StandsAt text (raw.toList ++ lexicon.expressionEnd) offset)
      (fails : Snippet.readStatement raw = .error fault) :
      SnippetFails lexicon text (.snippet fault) offset
  /-- A span in the value of an attribute holds an expression. -/
  | expression {opener : Token} {raw : String} {fault : Snippet.Fault} {start offset : Nat}
      (takes : Takes lexicon text opener start offset)
      (known : opener.kind = .printExpressionStart)
      (stands : StandsAt text (raw.toList ++ lexicon.expressionEnd) offset)
      (fails : Snippet.readExpression raw = .error fault) :
      SnippetFails lexicon text (.snippet fault) offset
  /-- A declaration has no value that could be printed. -/
  | declaration {opener : Token} {raw : String} {statement : Snippet.Statement}
      {start offset : Nat} (takes : Takes lexicon text opener start offset)
      (known : opener.kind = .printExpressionStart)
      (stands : StandsAt text (raw.toList ++ lexicon.expressionEnd) offset)
      (reads : Snippet.readStatement raw = .ok statement)
      (isDeclaration : statement.isDeclaration = true) :
      SnippetFails lexicon text .printedDeclaration offset

/-- Faults of tokens that fit no rule.  What an unexpected token is called is known. -/
def IsPlain : ParseFault → Prop
  | .unexpected found => ∃ token, found = describe token
  | .options _ | .unclosedValue | .endOfSource | .snippet _ | .printedDeclaration | .exhausted =>
    False
  | _ => True

/-- **A fault at an offset.**  The source ends where it ends too early. -/
inductive FaultAt (lexicon : Lexicon) (text : List Char) : ParseFault → Nat → Prop
  | plain {fault : ParseFault} {offset : Nat} (plain : IsPlain fault) :
      FaultAt lexicon text fault offset
  | ended {offset : Nat} (ended : text.length ≤ offset) : FaultAt lexicon text .endOfSource offset
  | unclosed {opener quote : TokenKind} {opened offset : Nat} (known : opensValue opener = true)
      (opens : ValueOpens lexicon text opener quote opened)
      (none : quoteChar quote ∉ text.drop opened) (ended : text.length ≤ offset) :
      FaultAt lexicon text .unclosedValue offset
  | snippet {fault : ParseFault} {offset : Nat} (fails : SnippetFails lexicon text fault offset) :
      FaultAt lexicon text fault offset

/-! ## Readers that fail -/

/-- **How a reader fails** from an offset: with delimiters that are not empty, every error is
at the position of an offset at which its fault is. -/
def Fails (lexicon : Lexicon) (text : List Char) (reader : Reader α) (start : Nat) : Prop :=
  lexicon.HasDelimiters → ∀ error,
    (reader.run lexicon).run (cursorAt lexicon text start) = .error error →
      ∃ offset, error.position = positionAt lexicon.tabWidth text offset
        ∧ FaultAt lexicon text error.fault offset

/-- **How a reader fares**: what it returns, and how it fails. -/
structure Fares (lexicon : Lexicon) (text : List Char) (reader : Reader α) (start : Nat)
    (property : α → Nat → Prop) : Prop where
  walks : Walks lexicon text reader start property
  fails : Fails lexicon text reader start

namespace Fails

variable {property : α → Nat → Prop}

theorem pure {value : α} : Fails lexicon text (Pure.pure value) start :=
  fun _ _ => nofun

/-- **Sequences.**  What follows starts where the first part stops. -/
theorem bind {reader : Reader α} {next : α → Reader β}
    (first : Fares lexicon text reader start property)
    (rest : ∀ value middle, start ≤ middle → property value middle →
      Fails lexicon text (next value) middle) :
    Fails lexicon text (reader >>= next) start := by
  intro delimiters error failed
  rw [ReaderT.run_bind, StateT.run_bind] at failed
  cases ran : (reader.run lexicon).run (cursorAt lexicon text start) with
  | error fault =>
    rw [ran] at failed
    cases failed
    exact first.fails delimiters error ran
  | ok result =>
    rw [ran] at failed
    obtain ⟨middle, forward, same, h⟩ := first.walks delimiters result ran
    refine rest result.1 middle forward h delimiters error ?_
    rw [← same]
    exact failed

/-- What is only changed afterwards fails as it does. -/
theorem change {reader : Reader α} {change : α → β} (first : Fails lexicon text reader start) :
    Fails lexicon text (reader >>= fun value => Pure.pure (change value)) start := by
  intro delimiters error failed
  rw [ReaderT.run_bind, StateT.run_bind] at failed
  cases ran : (reader.run lexicon).run (cursorAt lexicon text start) with
  | error fault =>
    rw [ran] at failed
    cases failed
    exact first delimiters error ran
  | ok result =>
    rw [ran] at failed
    cases failed

/-! ### Looking -/

theorem given {value : α} {next : α → Reader β} (rest : Fails lexicon text (next value) start) :
    Fails lexicon text (Pure.pure value >>= next) start :=
  rest

theorem here {next : Position → Reader β}
    (rest : Fails lexicon text (next (positionAt lexicon.tabWidth text start)) start) :
    Fails lexicon text (Document.here >>= next) start :=
  rest

theorem peek {next : Option Token → Reader β}
    (rest : Fails lexicon text (next ((cursorAt lexicon text start).token? lexicon)) start) :
    Fails lexicon text (Document.peek >>= next) start :=
  rest

theorem peekKind {next : Option TokenKind → Reader β}
    (rest : Fails lexicon text (next (Walks.kindAt lexicon text start)) start) :
    Fails lexicon text (Document.peekKind >>= next) start :=
  rest

theorem sees {kind : TokenKind} {next : Bool → Reader β}
    (rest : Fails lexicon text (next (decide (Walks.kindAt lexicon text start = some kind)))
      start) :
    Fails lexicon text (Document.sees kind >>= next) start :=
  rest

theorem budget {next : Nat → Reader β}
    (rest : Fails lexicon text (next (text.length - start + 1)) start) :
    Fails lexicon text (Document.budget >>= next) start := by
  rw [← List.length_drop] at rest
  exact rest

theorem settings {next : Lexicon → Reader β} (rest : Fails lexicon text (next lexicon) start) :
    Fails lexicon text (read >>= next) start :=
  rest

theorem cursor {next : Cursor → Reader β}
    (rest : Fails lexicon text (next (cursorAt lexicon text start)) start) :
    Fails lexicon text (get >>= next) start :=
  rest

theorem skip {next : Unit → Reader β} (rest : Fails lexicon text (next ()) middle) :
    Fails lexicon text (set (cursorAt lexicon text middle) >>= next) start :=
  rest

/-! ### Faults -/

theorem failAt {position : Position} {fault : ParseFault} {offset : Nat}
    (place : position = positionAt lexicon.tabWidth text offset)
    (isAt : FaultAt lexicon text fault offset) :
    Fails lexicon text (Document.failAt position fault : Reader α) start := by
  rintro - _ ⟨⟩
  exact ⟨offset, place, isAt⟩

theorem failHere {fault : ParseFault} (isAt : FaultAt lexicon text fault start) :
    Fails lexicon text (Document.failHere fault : Reader α) start :=
  .here (.failAt rfl isAt)

/-- Nothing but the end of the source is expected where there is no token. -/
theorem failUnexpected : Fails lexicon text (Document.failUnexpected : Reader α) start := by
  refine .peek ?_
  cases found : (cursorAt lexicon text start).token? lexicon with
  | none => exact .failHere (.ended (length_le_of_token?_eq_none found))
  | some token => exact .failAt (position_of_token? found) (.plain ⟨token, rfl⟩)

end Fails

/-! ### Both at once -/

namespace Fares

variable {property : α → Nat → Prop} {property' : β → Nat → Prop}

theorem pure {value : α} (h : property value start) :
    Fares lexicon text (Pure.pure value) start property :=
  ⟨.pure h, .pure⟩

theorem bind {reader : Reader α} {next : α → Reader β}
    (first : Fares lexicon text reader start property)
    (rest : ∀ value middle, start ≤ middle → property value middle →
      Fares lexicon text (next value) middle property') :
    Fares lexicon text (reader >>= next) start property' where
  walks := .bind first.walks fun value middle le h => (rest value middle le h).walks
  fails := .bind first fun value middle le h => (rest value middle le h).fails

theorem mono {wider : α → Nat → Prop} {reader : Reader α}
    (h : Fares lexicon text reader start property)
    (widen : ∀ value stop, start ≤ stop → property value stop → wider value stop) :
    Fares lexicon text reader start wider :=
  ⟨h.walks.mono widen, h.fails⟩

/-- A part that may be left out before the rest. -/
theorem optional {condition : Prop} [Decidable condition] {next longer : Reader α}
    (rest : ∀ start', start ≤ start' → Fares lexicon text next start' property)
    (before : (∀ start', start ≤ start' → Fares lexicon text next start' property) →
      Fares lexicon text longer start property) :
    Fares lexicon text (if condition then longer else next) start property := by
  split
  · exact before rest
  · exact rest start (Nat.le_refl start)

theorem here {next : Position → Reader β}
    (rest : Fares lexicon text (next (positionAt lexicon.tabWidth text start)) start property') :
    Fares lexicon text (Document.here >>= next) start property' :=
  ⟨.here rest.walks, .here rest.fails⟩

theorem peek {next : Option Token → Reader β}
    (rest : Fares lexicon text (next ((cursorAt lexicon text start).token? lexicon)) start
      property') :
    Fares lexicon text (Document.peek >>= next) start property' :=
  ⟨.peek rest.walks, .peek rest.fails⟩

theorem peekKind {next : Option TokenKind → Reader β}
    (rest : Fares lexicon text (next (Walks.kindAt lexicon text start)) start property') :
    Fares lexicon text (Document.peekKind >>= next) start property' :=
  ⟨.peekKind rest.walks, .peekKind rest.fails⟩

theorem sees {kind : TokenKind} {next : Bool → Reader β}
    (rest : Fares lexicon text (next (decide (Walks.kindAt lexicon text start = some kind)))
      start property') :
    Fares lexicon text (Document.sees kind >>= next) start property' :=
  ⟨.sees rest.walks, .sees rest.fails⟩

theorem budget {next : Nat → Reader β}
    (rest : Fares lexicon text (next (text.length - start + 1)) start property') :
    Fares lexicon text (Document.budget >>= next) start property' := by
  refine ⟨?_, .budget rest.fails⟩
  have walks := rest.walks
  rw [← List.length_drop] at walks
  exact .budget walks

theorem failAt {position : Position} {fault : ParseFault} {offset : Nat}
    (place : position = positionAt lexicon.tabWidth text offset)
    (isAt : FaultAt lexicon text fault offset) :
    Fares lexicon text (Document.failAt position fault) start property :=
  ⟨.failAt position fault, .failAt place isAt⟩

theorem failHere {fault : ParseFault} (isAt : FaultAt lexicon text fault start) :
    Fares lexicon text (Document.failHere fault) start property :=
  ⟨.failHere fault, .failHere isAt⟩

theorem failUnexpected : Fares lexicon text Document.failUnexpected start property :=
  ⟨.failUnexpected, .failUnexpected⟩

end Fares

/-! ## Loops -/

/-- **Runs of a loop.**  If each turn with which a loop goes on takes a character, as many
turns as there are characters left, and one more, are enough. -/
theorem Fails.loop {σ : Type} {turn : σ → Reader (LoopTurn σ α)} {loop : Nat → σ → Reader α}
    {first : Nat} (same : loop = loopOf (Document.failHere .exhausted) turn)
    (steps : ∀ state start, first ≤ start →
      Fares lexicon text (turn state) start fun decided stop =>
        decided.Holds (text.length - stop < text.length - start) True)
    {turns : Nat} (state : σ) (late : first ≤ start) (enough : text.length - start < turns) :
    Fails lexicon text (loop turns state) start := by
  subst same
  induction turns generalizing start state with
  | zero => exact absurd enough (Nat.not_lt_zero _)
  | succ turns ih =>
    refine .bind (steps state start late) fun decided middle forward holds => ?_
    cases decided with
    | ends result => exact .pure
    | goesOn next change =>
      have less : text.length - middle < text.length - start := holds
      exact .change (ih next (late.trans forward) (by omega))

/-! ## Single tokens -/

theorem Takes.position {token : Token} (takes : Takes lexicon text token start stop) :
    token.position = positionAt lexicon.tabWidth text start :=
  position_of_token? takes.found

/-- Behind a token less of the text is left. -/
theorem Takes.less {token : Token} (takes : Takes lexicon text token start stop) :
    text.length - stop < text.length - start := by
  have lt := takes.lt
  have inside := takes.inside
  omega

theorem take_fares :
    Fares lexicon text take start fun token stop => Takes lexicon text token start stop := by
  refine ⟨take_walks, .peek ?_⟩
  cases found : (cursorAt lexicon text start).token? lexicon with
  | none => exact .failHere (.ended (length_le_of_token?_eq_none found))
  | some token => exact fun _ _ => nofun

theorem expect_fares (kind : TokenKind) :
    Fares lexicon text (expect kind) start fun token stop =>
      Takes lexicon text token start stop ∧ token.kind = kind := by
  refine .bind take_fares fun token stop _ takes => ?_
  split
  · rename_i same
    exact .pure ⟨takes, same⟩
  · exact .failAt takes.position (.plain trivial)

theorem eat_fares (kind : TokenKind) :
    Fares lexicon text (eat kind) start fun eaten stop =>
      (eaten = true → ∃ token, Takes lexicon text token start stop ∧ token.kind = kind)
        ∧ (eaten = false → stop = start) := by
  refine .sees ?_
  split
  · rename_i seen
    refine .bind take_fares fun token stop _ takes => .pure ⟨fun _ => ?_, nofun⟩
    exact ⟨token, takes, takes.kind (of_decide_eq_true seen)⟩
  · exact .pure ⟨nofun, fun _ => rfl⟩

theorem skipSpace_fares :
    Fares lexicon text skipSpace start fun _ stop => Skips lexicon text start stop :=
  ⟨skipSpace_skips, .bind (eat_fares _) fun _ _ _ _ => .pure⟩

/-! ## Runs of tokens -/

/-- A turn of a run takes a token that belongs. -/
def textTurn (belongs : Token → Bool) : Reader (LoopTurn Unit (List String)) := do
  match ← peek with
  | some token =>
    if belongs token then
      let _ ← take
      return .goesOn () (token.text :: ·)
    else
      return .ends []
  | none => return .ends []

theorem textsWhile_eq (belongs : Token → Bool) :
    (fun turns (_ : Unit) => textsWhile belongs turns)
      = loopOf (failHere .exhausted) fun _ => textTurn belongs := by
  refine eq_loopOf (fun _ => rfl) fun turns _ => ?_
  rw [textsWhile, textTurn, bind_assoc]
  refine bind_congr fun next => ?_
  cases next with
  | none => simp
  | some token =>
    dsimp only
    split <;> simp

theorem textTurn_fares (belongs : Token → Bool) :
    Fares lexicon text (textTurn belongs) start fun decided stop =>
      decided.Holds (text.length - stop < text.length - start) True := by
  refine .peek ?_
  split
  · split
    · exact .bind take_fares fun _ _ _ takes => .pure takes.less
    · exact .pure trivial
  · exact .pure trivial

theorem textWhile_fares (belongs : Token → Bool) :
    Fares lexicon text (textWhile belongs) start fun value stop =>
      Spans text value start stop := by
  refine ⟨textWhile_walks belongs, .budget (.change ?_)⟩
  exact .loop (textsWhile_eq belongs) (fun _ _ _ => textTurn_fares belongs) () (Nat.le_refl start)
    (Nat.lt_succ_self _)

theorem textUpTo_fares {kind : TokenKind} {closer : List Char}
    (fixed : lexicon.spelling? kind = some closer) :
    Fares lexicon text (textUpTo kind) start fun value stop =>
      StandsAt text (value.toList ++ closer) start ∧ start < text.length ∧ start < stop := by
  refine ⟨textUpTo_walks fixed, .bind (textWhile_fares _) fun value middle _ _ => ?_⟩
  exact .bind (expect_fares kind) fun _ _ _ _ => .pure

/-! ## Snippets and values -/

/-- Capturing a snippet fails if reading it does. -/
theorem captured_fares {body : Type} {read : String → Except Snippet.Fault body}
    {source : String} {position : Position} {offset : Nat}
    (place : position = positionAt lexicon.tabWidth text offset)
    (fails : ∀ fault, read source = .error fault →
      SnippetFails lexicon text (.snippet fault) offset) :
    Fares lexicon text (captured (capture read source position)) start fun handle stop =>
      (handle.source = source ∧ handle.position = position ∧ read source = .ok handle.body)
        ∧ stop = start := by
  rw [capture]
  cases reads : read source with
  | error fault => exact ⟨.failAt _ _, .failAt place (.snippet (fails fault reads))⟩
  | ok spelled => exact ⟨.pure ⟨⟨rfl, rfl, rfl⟩, rfl⟩, .pure⟩

theorem expectQuote_fares :
    Fares lexicon text expectQuote start fun kind stop =>
      kind.isQuote = true ∧ ∃ mark, Takes lexicon text mark start stop ∧ mark.kind = kind := by
  refine .bind take_fares fun token stop _ takes => ?_
  split
  · rename_i quote
    exact .pure ⟨quote, token, takes, rfl⟩
  · exact .failAt takes.position (.plain trivial)

/-- A value was read behind an opener, up to the next quote of its kind. -/
def QuotedValue.ReadBehind (lexicon : Lexicon) (text : List Char) (opener : TokenKind)
    (value : QuotedValue) : Prop :=
  ∃ quote offset, ValueOpens lexicon text opener quote offset
    ∧ value.position = positionAt lexicon.tabWidth text offset
    ∧ StandsAt text (value.text.toList ++ [quoteChar quote]) offset
    ∧ quoteChar quote ∉ value.text.toList

/-- The raw text before a character does not hold it. -/
theorem notMem_of_rawUntil? {quote : Char} {raw : String} {cursor : Cursor}
    (found : (cursorAt lexicon text start).rawUntil? lexicon quote = some (raw, cursor)) :
    quote ∉ raw.toList := by
  rw [Cursor.rawUntil?] at found
  split at found
  · cases found
    rw [String.toList_ofList]
    intro mem
    simpa using List.mem_takeWhile_imp mem
  · cases found

/-- If there is no raw text before a character, the character does not occur. -/
theorem notMem_of_rawUntil?_eq_none {quote : Char}
    (none : (cursorAt lexicon text start).rawUntil? lexicon quote = none) :
    quote ∉ text.drop start := by
  rw [Cursor.rawUntil?] at none
  split at none
  · cases none
  · rename_i whole
    have prefixed := List.takeWhile_prefix (· != quote) (l := text.drop start)
    have all := prefixed.eq_of_length_le (Nat.le_of_not_lt whole)
    intro mem
    rw [← all] at mem
    simpa using List.mem_takeWhile_imp mem

/-- A value behind its opener. -/
theorem quotedValue_fares {opener : TokenKind} (opened : Opened lexicon text opener start)
    (known : opensValue opener = true) :
    Fares lexicon text quotedValue start fun value _ => value.ReadBehind lexicon text opener := by
  refine .bind skipSpace_fares fun _ o₁ _ gap₁ => ?_
  refine .bind (expect_fares _) fun equals o₂ _ ⟨takesEquals, isEquals⟩ => ?_
  refine .bind skipSpace_fares fun _ o₃ _ gap₂ => ?_
  refine .bind expectQuote_fares fun quote offset _ ⟨isQuote, mark, takesMark, isMark⟩ => ?_
  have opens : ValueOpens lexicon text opener quote offset :=
    ⟨isQuote, equals, mark, o₁, o₂, o₃, opened.gap gap₁.toGap, takesEquals, isEquals,
      gap₂.toGap, takesMark, isMark⟩
  -- The text is looked for in characters, not in tokens, so the two parts are shown apart.
  constructor
  · refine .here (.settings (.cursor ?_))
    split
    · rename_i raw cursor found
      obtain ⟨closed, ⟨stands, rfl⟩, rfl⟩ := rawUntil?_spans found
      refine .skip (Nat.le_add_right offset _) ?_
      refine .bind (expect_walks quote) fun token stop _ ⟨takes, isClose⟩ => .pure ?_
      have close : StandsAt text [quoteChar quote] (offset + raw.toList.length) :=
        (takes.stands (by rw [isClose]; exact spelling?_of_isQuote isQuote)).1
      exact ⟨quote, offset, opens, rfl, stands.append close, notMem_of_rawUntil? found⟩
    · exact fun _ => .throw _
  · refine .here (.settings (.cursor ?_))
    split
    · rename_i raw cursor found
      obtain ⟨closed, _, rfl⟩ := rawUntil?_spans found
      exact .skip (.bind (expect_fares quote) fun _ _ _ _ => .pure)
    · rename_i unclosed
      have none := notMem_of_rawUntil?_eq_none unclosed
      rintro - _ ⟨⟩
      refine ⟨offset + (text.drop offset).length, ?_, .unclosed known opens none ?_⟩
      · exact congrArg Cursor.position (cursorAt_skip lexicon text offset _)
      · rw [List.length_drop]
        omega

theorem blockExpression_fails {opener : TokenKind} (opened : Opened lexicon text opener start)
    (known : opensValue opener = true) (plain : opener ≠ .rightSquareBrace) :
    Fails lexicon text blockExpression start := by
  refine .bind (quotedValue_fares opened known) fun value middle _ read => ?_
  obtain ⟨quote, offset, opens, place, stands, first⟩ := read
  refine (captured_fares place fun fault failed => ?_).fails
  refine .value known opens stands first ?_
  rw [valueSnippet, if_neg plain]
  exact failed

theorem blockName_fails {opener : TokenKind} (opened : Opened lexicon text opener start)
    (known : opensValue opener = true) (what : String) :
    Fails lexicon text (blockName what) start := by
  refine .bind (quotedValue_fares opened known) fun value middle _ read => ?_
  obtain ⟨quote, offset, opens, place, stands, first⟩ := read
  dsimp only
  split
  · exact .failAt place (.plain trivial)
  · exact .pure

theorem spanText_fares :
    Fares lexicon text spanText start fun span stop =>
      span.2 = positionAt lexicon.tabWidth text start ∧ start < text.length ∧ start < stop
        ∧ StandsAt text (span.1.toList ++ lexicon.expressionEnd) start :=
  ⟨spanText_walks, .here (.bind (textUpTo_fares rfl) fun _ _ _ _ => .pure)⟩

/-! ## Names -/

/-- The name of a variable holds a character. -/
theorem variableName_fares :
    Fares lexicon text variableName start fun _ stop =>
      text.length - stop < text.length - start := by
  refine .bind take_fares fun token middle _ takes => ?_
  have less := takes.less
  split
  · exact .bind (textWhile_fares _) fun _ stop le _ => .pure (by omega)
  · exact .failAt takes.position (.plain trivial)

end ViewTemplate.Document
