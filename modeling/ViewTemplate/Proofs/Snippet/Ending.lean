import ViewTemplate.Proofs.Snippet.Lexemes
import ViewTemplate.Proofs.Snippet.Soundness

/-!
# How snippets end

No statement that is read ends with a bracket that opens an object.  In a template this
matters: such a bracket, before the delimiter behind a snippet, would be read as the start
of another one.

Texts and lexemes are followed together.  A text that ends with the bracket has it as its
last lexeme, as no other lexeme can end with this character (`Lexed.brace`); and no
expression is written by lexemes of which this is the last (`Writes.endsClosed`).

## Main Results

* `readStatement_last` — a statement that is no declaration does not end so

-/

namespace ViewTemplate.Snippet

open ViewTemplate.Text

/-! ## Writings -/

/-- The last lexeme is none that opens an object. -/
def EndsClosed (lexemes : List Lexeme) : Prop :=
  lexemes.getLast? ≠ some (.symbol .lBrace)

theorem EndsClosed.concat (lexemes : List Lexeme) {last : Lexeme}
    (other : last ≠ .symbol .lBrace) : EndsClosed (lexemes ++ [last]) := by
  rw [EndsClosed, List.getLast?_concat]
  exact fun same => other (Option.some.inj same)

theorem EndsClosed.append (before : List Lexeme) {lexemes : List Lexeme}
    (closed : EndsClosed lexemes) (nonempty : lexemes ≠ []) : EndsClosed (before ++ lexemes) := by
  have last := List.getLast?_eq_some_getLast nonempty
  rwa [EndsClosed, List.getLast?_append, last, Option.some_or, ← last]

/-- **No expression ends with a bracket that opens an object.**  Where an expression ends
with a part of it, so does that part; else it ends with a lexeme of its own. -/
theorem Writes.endsClosed : ∀ {place : Nat} {expr : Expr} {lexemes : List Lexeme},
    Writes place expr lexemes → EndsClosed lexemes
  | _, _, _, .number | _, _, _, .string | _, _, _, .boolean | _, _, _, .null
  | _, _, _, .undefined | _, _, _, .this | _, _, _, .identifier => .concat [] nofun
  | _, _, _, .grouped _ => .concat (_ :: _) nofun
  | _, _, _, .array _ => .concat (_ :: _) nofun
  | _, _, _, .object _ => .concat (_ :: _) nofun
  | _, _, _, .member _ _ named =>
    .append _ (.concat [_] (by rintro rfl; cases named)) (List.cons_ne_nil _ _)
  | _, _, _, .computed _ _ _ => .append _ (.append _ (.concat _ nofun) (by simp)) (by simp)
  | _, _, _, .call _ _ _ => .append _ (.concat (_ :: _) nofun) (List.cons_ne_nil _ _)
  | _, _, _, .update _ _ spells => .concat _ (by rintro rfl; cases spells)
  | _, _, _, .unary _ _ inner => .append [_] inner.endsClosed inner.ne_nil
  | _, _, _, .binary _ _ _ behind =>
    .append _ (.append [_] behind.endsClosed behind.ne_nil) (List.cons_ne_nil _ _)
  | _, _, _, .ternary _ _ _ other =>
    .append _ (.append (_ :: _) (.append [_] other.endsClosed other.ne_nil)
      (List.cons_ne_nil _ _)) (List.cons_ne_nil _ _)
  | _, _, _, .assignment _ _ given =>
    .append _ (.append [_] given.endsClosed given.ne_nil) (List.cons_ne_nil _ _)

/-- Neither does a snippet that is one, with a semicolon behind it or not. -/
theorem EndsClosed.of_taken {lexemes all : List Lexeme} (closed : EndsClosed lexemes)
    (same : all = lexemes ∨ all = lexemes ++ [.symbol .semicolon]) : EndsClosed all := by
  rcases same with rfl | rfl
  · exact closed
  · exact .concat _ nofun

/-- What is read behind the keyword of declarations is one. -/
theorem declaration_takes :
    Takes anywhere declaration fun read _ => read.isDeclaration = true := by
  refine .peek fun lexeme _ => ?_
  split
  · rename_i name _
    refine .known nofun fun _ _ => ?_
    split
    · exact .throw _
    · have ended (init : Option Expr) : Takes anywhere
          (peek >>= fun lexeme => if lexeme = .symbol .comma then
              throw .severalBindings >>= fun (_ : Unit) => pure (Statement.declaration name init)
            else pure (Statement.declaration name init))
          fun read _ => read.isDeclaration = true := by
        refine .peek fun lexeme _ => ?_
        split
        · exact .throw _
        · exact .pure rfl
      dsimp only
      refine .eat ?_ ?_
      · rw [if_pos rfl]
        refine .budget fun turns => ?_
        rw [map_eq_pure_bind, bind_assoc]
        exact .bind (expression_takes turns) fun init _ _ => ended (some init)
      · exact ended none
  · exact .throw _

/-- A statement that is no declaration is an expression. -/
theorem statement_takes :
    Takes anywhere statement fun read lexemes =>
      read.isDeclaration = false → EndsClosed lexemes := by
  have plain {starts : Lexeme → Prop} : Takes starts (budget >>= fun turns =>
      expression turns >>= fun expr => pure (Statement.expression expr))
      fun read lexemes => read.isDeclaration = false → EndsClosed lexemes := by
    refine .here (.budget fun turns => ?_)
    refine .bind (expression_takes turns) fun _ lexemes written => .pure fun _ => ?_
    rw [List.append_nil]
    exact written.endsClosed
  refine .peek fun lexeme _ => ?_
  split
  · exact .throw _
  · refine .known nofun fun _ _ cursor read after _ ran => ?_
    obtain ⟨taken, split, inner, declares⟩ := declaration_takes cursor read after trivial ran
    exact ⟨taken, split, inner, fun other => by rw [declares] at other; cases other⟩
  · dsimp only
    split
    · exact .throw _
    · exact plain
  · exact plain

/-! ## Texts -/

/-- A run of characters of another class does not hold the bracket. -/
theorem brace_notMem_takeWhile {belongs : Char → Bool} (outside : belongs '\x7b' = false)
    (text : List Char) : '\x7b' ∉ text.takeWhile belongs := by
  intro mem
  have inside := List.all_eq_true.1 List.all_takeWhile _ mem
  rw [outside] at inside
  cases inside

theorem brace_notMem_spelledNumber (text : List Char) : '\x7b' ∉ spelledNumber text := by
  rw [spelledNumber, List.mem_append, not_or]
  refine ⟨brace_notMem_takeWhile rfl text, ?_⟩
  rcases exponentPart_cases (text.dropWhile isNumberPart) with
    none | ⟨mark, sign, behind, same, marked, signed, digits⟩
  · rw [none]
    exact List.not_mem_nil
  · rw [same, exponentPart_marked marked signed digits, List.mem_cons, List.mem_append]
    have plain := brace_notMem_takeWhile (rfl : isAsciiDigit '\x7b' = false) behind
    rcases marked with rfl | rfl <;> rcases signed with rfl | rfl | rfl <;> simp [plain]

/-- Only the bracket itself is spelled with it at the end. -/
theorem spelling_closed : ∀ entry ∈ Symbol.spellings,
    entry.1.getLast? = some '\x7b' → entry.2 = .lBrace := by
  decide

/-- **A lexeme that ends with the bracket** is the bracket. -/
theorem scan_brace {text : List Char} {lexeme : Lexeme} (found : scan text = (.ok lexeme, []))
    (brace : text.getLast? = some '\x7b') : lexeme = .symbol .lBrace := by
  have mem := List.mem_of_getLast? brace
  cases text with
  | nil => cases brace
  | cons c text =>
    rw [scan] at found
    split at found
    · rw [scanNumber_eq] at found
      split at found
      · -- Nothing is left behind the number, so the text is the number.
        have none : (c :: text).drop (spelledNumber (c :: text)).length = [] :=
          congrArg Prod.snd found
        have all := List.prefix_iff_eq_append.1 (spelledNumber_starts (c :: text))
        rw [none, List.append_nil] at all
        exact absurd (all.symm ▸ mem) (brace_notMem_spelledNumber _)
      · cases found
    split at found
    · rename_i quoted
      obtain ⟨⟨inside, rfl, -⟩, -⟩ := scanString_split found
      rw [← List.cons_append, List.getLast?_concat] at brace
      cases brace
      cases quoted
    split at found
    · have none : (c :: text).dropWhile isWordPart = [] := congrArg Prod.snd found
      have all := List.takeWhile_append_dropWhile (p := isWordPart) (l := c :: text)
      rw [none, List.append_nil] at all
      exact absurd (all.symm ▸ mem) (brace_notMem_takeWhile rfl _)
    · rw [scanSymbol] at found
      split at found
      · rename_i here
        cases found
        obtain ⟨spelling, entry, split⟩ := symbolFrom_split here
        rw [split, List.append_nil] at brace
        exact congrArg _ (spelling_closed _ entry brace)
      · cases found

/-- No blanks in front change how a text ends, if it ends with none. -/
theorem getLast?_dropBlanks {text : List Char} {c : Char} (last : text.getLast? = some c)
    (notBlank : isBlank c = false) : (dropBlanks text).getLast? = some c := by
  obtain ⟨before, split, blank⟩ := dropBlanks_eq_append text
  rw [split, List.getLast?_append] at last
  cases behind : (dropBlanks text).getLast? with
  | some d => rwa [behind, Option.some_or] at last
  | none =>
    rw [behind, Option.none_or] at last
    have other := blank c (List.mem_of_getLast? last)
    rw [notBlank] at other
    cases other

/-- **A text that ends with the bracket** has it as its last lexeme before the end. -/
theorem Lexed.brace {length : Nat} {text : List Char} {tokens : List Token}
    {result : Except LexError (List Token)} (lexed : Lexed length text result)
    (found : result = .ok tokens) (brace : text.getLast? = some '\x7b') :
    ∃ before, tokens.map (·.lexeme) = before ++ [.symbol .lBrace, .finish] := by
  induction lexed generalizing tokens with
  | finish blank =>
    have last := getLast?_dropBlanks brace (by decide)
    rw [blank] at last
    cases last
  | fault scanned => cases found
  | @token text rest lexeme result nonempty scanned behind ih =>
    obtain ⟨taken, split, -, -, alone⟩ := scan_alone nonempty scanned
    have last := getLast?_dropBlanks brace (by decide)
    rw [split, List.getLast?_append] at last
    cases result with
    | error fault => cases found
    | ok more =>
      cases found
      cases rest with
      | nil =>
        rw [List.getLast?_nil, Option.none_or] at last
        cases (scan_brace alone last : lexeme = .symbol .lBrace)
        have ended : Except.ok more = .ok [⟨.finish, ⟨length, length⟩⟩] :=
          ((lexed_iff Nat.zero_lt_one).1 behind).trans (tokensFrom_finish dropBlanks_nil)
        cases ended
        exact ⟨[], rfl⟩
      | cons c rest =>
        rw [List.getLast?_cons, Option.some_or, ← List.getLast?_cons] at last
        obtain ⟨before, ends⟩ := ih rfl last
        exact ⟨lexeme :: before, congrArg (lexeme :: ·) ends⟩

/-! ## Statements -/

/-- **A statement that is no declaration does not end with a bracket that opens an
object.** -/
theorem readStatement_last {source : String} {read : Statement}
    (accepted : readStatement source = .ok read) (plain : read.isDeclaration = false) :
    source.toList.getLast? ≠ some '\x7b' := by
  intro brace
  rw [readStatement, Reader.onSnippet] at accepted
  cases found : tokenize source with
  | error fault =>
    rw [found] at accepted
    cases accepted
  | ok tokens =>
    rw [found] at accepted
    obtain ⟨body, rfl, inner⟩ := tokenize_ends found
    have last : (body.map (·.lexeme)).getLast? = some (.symbol .lBrace) := by
      obtain ⟨before, ends⟩ := (lexed_tokenize source).brace found brace
      rw [List.map_append, List.append_cons] at ends
      rw [List.append_cancel_right ends, List.getLast?_concat]
    obtain ⟨after, ran⟩ := run_of_onTokens accepted
    obtain ⟨between, first, second⟩ := finished_runs ran
    obtain ⟨lexemes, closed, taken⟩ :=
      taken_before_finish statement_takes inner rfl first second
    exact (closed plain).of_taken taken last

end ViewTemplate.Snippet
