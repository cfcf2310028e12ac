import ViewTemplate.Proofs.Snippet.Writing

/-!
# What is read was written

An expression that stands alone is read only from tokens that write it.  So no token
is skipped, read twice or left over, and what a tree groups was grouped in the text.

A reader is judged by the tokens between the cursor before it and the cursor behind
it (`Takes`).  One law for each primitive says what it takes; every production is
then a sequence of these laws, and each level of the grammar is closed by one
constructor of `Writes`.  Two loops build a tree to the left while they go: the links
of a chain and the operations of a level.  Their lemmas start from what was written
before the loop.

## Main Definitions

* `Takes` — what a reader returns is written by the tokens that it took

## Main Results

* `expression_takes` — expressions, nested to any depth
* `soleExpression_sound` — an expression that stands alone

-/

namespace ViewTemplate.Snippet

variable {α β : Type}

/-! ## What readers take -/

/-- **What a reader takes**, if the next lexeme is one with which it `starts`: whatever it
returns is written by the tokens that it took, none of which is the end. -/
def Takes (starts : Lexeme → Prop) (reader : Reader α) (writes : α → List Lexeme → Prop) : Prop :=
  ∀ (cursor : Cursor) (value : α) (after : Cursor), starts cursor.token.lexeme →
    reader.run cursor = .ok (value, after) →
    ∃ taken, cursor.tokens = taken ++ after.tokens ∧ (∀ token ∈ taken, token.lexeme ≠ .finish) ∧
      writes value (taken.map (·.lexeme))

/-- A reader may start with any lexeme. -/
abbrev anywhere : Lexeme → Prop := fun _ => True

namespace Takes

variable {starts : Lexeme → Prop} {writes : α → List Lexeme → Prop}
  {writes' : β → List Lexeme → Prop}

theorem pure {value : α} (h : writes value []) : Takes starts (Pure.pure value) writes := by
  rintro cursor _ _ - ⟨⟩
  exact ⟨[], rfl, by simp, h⟩

theorem throw (fault : Fault) : Takes starts (throw fault) writes := by
  rintro cursor value after - ⟨⟩

/-- **Sequences.**  What the second part takes stands behind what the first one took. -/
theorem bind {reader : Reader α} {next : α → Reader β} (first : Takes starts reader writes)
    (rest : ∀ value lexemes, writes value lexemes →
      Takes anywhere (next value) fun last more => writes' last (lexemes ++ more)) :
    Takes starts (reader >>= next) writes' := by
  intro cursor value after start ran
  rw [StateT.run_bind] at ran
  cases middle : reader.run cursor with
  | error fault =>
    rw [middle] at ran
    cases ran
  | ok result =>
    obtain ⟨found, between⟩ := result
    rw [middle] at ran
    obtain ⟨taken, split, inner, written⟩ := first cursor found between start middle
    obtain ⟨more, split', inner', written'⟩ :=
      rest found _ written between value after trivial ran
    refine ⟨taken ++ more, ?_, ?_, ?_⟩
    · rw [split, split', List.append_assoc]
    · exact List.forall_mem_append.mpr ⟨inner, inner'⟩
    · rw [List.map_append]
      exact written'

/-- A reader that takes from anywhere takes where it is known what comes next. -/
theorem here {reader : Reader α} (h : Takes anywhere reader writes) :
    Takes starts reader writes :=
  fun cursor value after _ ran => h cursor value after trivial ran

/-- **Looking.**  What follows knows the next lexeme. -/
theorem peek {next : Lexeme → Reader β}
    (rest : ∀ lexeme, starts lexeme → Takes (· = lexeme) (next lexeme) writes') :
    Takes starts (Snippet.peek >>= next) writes' :=
  fun cursor value after start ran => rest _ start cursor value after rfl ran

/-- A cursor before a token that is not the end is behind it when it was taken. -/
theorem tokens_eq_cons {cursor : Cursor} (inner : cursor.token.lexeme ≠ .finish) :
    cursor.tokens = cursor.token :: cursor.advance.tokens := by
  obtain ⟨tokens, lastStop⟩ := cursor
  cases tokens with
  | nil => exact absurd rfl inner
  | cons token rest =>
    have plain : ¬token.lexeme = .finish := inner
    simp [Cursor.token, Cursor.advance, plain]

/-- **Taking.**  What follows knows the token; at the end nothing is taken. -/
theorem next {next : Token → Reader β}
    (rest : ∀ token, starts token.lexeme → token.lexeme ≠ .finish →
      Takes anywhere (next token) fun last more => writes' last (token.lexeme :: more))
    (ended : ∀ token, starts .finish → token.lexeme = .finish →
      Takes anywhere (next token) writes') :
    Takes starts (Snippet.next >>= next) writes' := by
  intro cursor value after start ran
  change (next cursor.token).run cursor.advance = .ok (value, after) at ran
  by_cases finish : cursor.token.lexeme = .finish
  · have stays : cursor.advance = cursor := by
      obtain ⟨tokens, lastStop⟩ := cursor
      cases tokens with
      | nil => rfl
      | cons token rest =>
        have last : token.lexeme = .finish := finish
        simp [Cursor.advance, last]
    rw [stays] at ran
    exact ended _ (finish ▸ start) finish cursor value after trivial ran
  · obtain ⟨more, split, inner, written⟩ :=
      rest _ start finish cursor.advance value after trivial ran
    refine ⟨cursor.token :: more, ?_, ?_, written⟩
    · rw [tokens_eq_cons finish, split, List.cons_append]
    · exact List.forall_mem_cons.mpr ⟨finish, inner⟩

/-- Taking a token whose lexeme is known and not the end. -/
theorem known {lexeme : Lexeme} {next : Token → Reader β} (inner : lexeme ≠ .finish)
    (rest : ∀ token, token.lexeme = lexeme →
      Takes anywhere (next token) fun last more => writes' last (lexeme :: more)) :
    Takes (· = lexeme) (Snippet.next >>= next) writes' := by
  refine .next (fun token same _ => ?_) fun token same _ => absurd same.symm inner
  subst same
  exact rest token rfl

/-- The offset behind the last token is no token. -/
theorem lastStop {next : Nat → Reader β} (rest : ∀ stop, Takes starts (next stop) writes') :
    Takes starts (Snippet.lastStop >>= next) writes' :=
  fun cursor => rest cursor.lastStop cursor

/-- Neither is a bound on turns. -/
theorem budget {next : Nat → Reader β} (rest : ∀ turns, Takes starts (next turns) writes') :
    Takes starts (Snippet.budget >>= next) writes' :=
  fun cursor => rest (cursor.tokens.length + 1) cursor

/-- A symbol that may be there. -/
theorem eat {symbol : Symbol} {next : Bool → Reader β}
    (there : Takes anywhere (next true) fun last more => writes' last (.symbol symbol :: more))
    (missing : Takes starts (next false) writes') :
    Takes starts (Snippet.eat symbol >>= next) writes' := by
  unfold Snippet.eat
  rw [bind_assoc]
  refine .peek fun lexeme start => ?_
  by_cases same : lexeme = .symbol symbol
  · subst same
    rw [if_pos rfl, bind_assoc]
    exact .known (by simp) fun token _ => there
  · rw [if_neg same]
    intro cursor value after found ran
    exact missing cursor value after (found ▸ start) ran

/-- A symbol that has to be there. -/
theorem expect {symbol : Symbol} {next : Unit → Reader β}
    (there : Takes anywhere (next ()) fun last more => writes' last (.symbol symbol :: more)) :
    Takes starts (Snippet.expect symbol >>= next) writes' := by
  unfold Snippet.expect
  rw [bind_assoc]
  refine .peek fun lexeme start => ?_
  by_cases same : lexeme = .symbol symbol
  · subst same
    rw [if_pos rfl, bind_assoc]
    exact .known (by simp) fun token _ => there
  · rw [if_neg same]
    rintro cursor value after - ⟨⟩

end Takes

/-! ## Lists and names -/

theorem itemsUpTo_takes {close : Symbol} {item : Reader α} {writes : α → List Lexeme → Prop}
    (inner : Takes anywhere item writes) (turns : Nat) :
    Takes anywhere (itemsUpTo close item turns) (Listed writes) := by
  induction turns with
  | zero => exact .throw _
  | succ turns ih =>
    refine .peek fun lexeme _ => ?_
    split
    · exact .pure .nil
    · refine .here (.bind inner fun first lexemes written => ?_)
      refine .eat ?_ ?_
      · refine .bind ih fun others more listed => .pure ?_
        rw [List.append_nil]
        exact .cons written listed
      · refine .pure ?_
        rw [List.append_nil]
        exact .last written

/-- A list that is read was written, with the closing symbol behind it. -/
theorem listUpTo_takes {close : Symbol} {item : Reader α} {writes : α → List Lexeme → Prop}
    (inner : Takes anywhere item writes) :
    Takes anywhere (listUpTo close item) fun items lexemes =>
      ∃ listed, lexemes = listed ++ [.symbol close] ∧ Listed writes items listed := by
  refine .budget fun turns => .bind (itemsUpTo_takes inner turns) fun items listed written => ?_
  exact .expect (.pure ⟨listed, rfl, written⟩)

theorem memberName_takes :
    Takes anywhere memberName fun key lexemes =>
      ∃ span name lexeme, key = .string span name ∧ lexemes = [lexeme] ∧
        nameOf? lexeme = some name := by
  refine .next (fun token _ _ => ?_) fun token _ ended => ?_
  · cases lexeme : token.lexeme with
    | identifier name => exact .pure ⟨token.span, name, _, rfl, rfl, rfl⟩
    | keyword word => exact .pure ⟨token.span, word.word, _, rfl, rfl, rfl⟩
    | _ => exact .throw _
  · rw [ended]
    exact .throw _

/-! ## The levels of the grammar -/

section

variable {nested : Reader Expr}

theorem property_takes (inner : Takes anywhere nested (Writes Level.assignment)) :
    Takes anywhere (property nested) (WritesProperty (Writes Level.assignment)) := by
  refine .next (fun token _ _ => ?_) fun token _ ended => ?_
  · cases named : keyOf? token.lexeme with
    | none => exact .throw _
    | some key =>
      refine .eat ?_ ?_
      · exact .bind inner fun value lexemes written => .pure (by simpa using .pair named written)
      · cases lexeme : token.lexeme with
        | identifier name =>
          rw [lexeme] at named
          cases named
          exact .pure .shorthand
        | _ => exact .throw _
  · rw [ended]
    exact .throw _

theorem primary_takes (inner : Takes anywhere nested (Writes Level.assignment)) :
    Takes anywhere (primary nested) (Writes Level.primary) := by
  refine .next (fun token _ _ => ?_) fun token _ ended => ?_
  · cases lexeme : token.lexeme with
    | number value => exact .pure .number
    | string text => exact .pure .string
    | boolean value => exact .pure .boolean
    | identifier name => exact .pure .identifier
    | keyword word =>
      cases word with
      | null => exact .pure .null
      | undefined => exact .pure .undefined
      | this => exact .pure .this
      | _ => exact .throw _
    | symbol symbol =>
      cases symbol with
      | lParen =>
        exact .bind inner fun expr lexemes written => .expect (.pure (.grouped written))
      | lBracket =>
        refine .bind (listUpTo_takes inner) fun items lexemes listed => .lastStop fun stop => ?_
        obtain ⟨listed, rfl, written⟩ := listed
        refine .pure ?_
        rw [List.append_nil]
        exact .array written
      | lBrace =>
        refine .bind (listUpTo_takes (property_takes inner)) fun properties lexemes listed => ?_
        obtain ⟨listed, rfl, written⟩ := listed
        refine .lastStop fun stop => .pure ?_
        rw [List.append_nil]
        exact .object written
      | _ => exact .throw _
    | finish => exact .throw _
  · rw [ended]
    exact .throw _

/-- A key in brackets is any expression. -/
theorem bracketedKey_takes (inner : Takes anywhere nested (Writes Level.assignment)) :
    Takes anywhere (bracketedKey nested) fun key lexemes =>
      ∃ written, lexemes = written ++ [.symbol .rBracket] ∧ Writes Level.assignment key written :=
  .bind inner fun _ lexemes written => .expect (.pure ⟨lexemes, rfl, written⟩)

/-- **Step of a chain.**  A link behind what was written makes something longer that was
written. -/
theorem link_takes (inner : Takes anywhere nested (Writes Level.assignment)) {target : Expr}
    {before : List Lexeme} (written : Writes Level.chain target before) :
    Takes anywhere (link nested target) fun longer? lexemes =>
      match longer? with
      | some longer => Writes Level.chain longer (before ++ lexemes)
      | none => lexemes = [] := by
  refine .peek fun lexeme _ => ?_
  split
  · refine .known nofun fun token _ => .bind memberName_takes fun key lexemes named => .pure ?_
    obtain ⟨span, name, lexeme, rfl, rfl, named⟩ := named
    exact .member (Nat.le_refl _) written named
  · refine .known nofun fun token _ => .eat ?_ ?_
    · refine .bind (bracketedKey_takes inner) fun key lexemes keyed => .pure ?_
      obtain ⟨lexemes, rfl, keyed⟩ := keyed
      rw [List.append_nil]
      exact .computed (Nat.le_refl _) written keyed
    · refine .peek fun lexeme _ => ?_
      split
      · exact .throw _
      · refine .here (.bind memberName_takes fun key lexemes named => .pure ?_)
        obtain ⟨span, name, lexeme, rfl, rfl, named⟩ := named
        exact .member (Nat.le_refl _) written named
  · refine .known nofun fun token _ => .bind (bracketedKey_takes inner) fun key lexemes keyed => ?_
    obtain ⟨lexemes, rfl, keyed⟩ := keyed
    refine .pure ?_
    rw [List.append_nil]
    exact .computed (Nat.le_refl _) written keyed
  · refine .known nofun fun token _ => ?_
    refine .bind (listUpTo_takes inner) fun arguments lexemes listed => ?_
    obtain ⟨lexemes, rfl, listed⟩ := listed
    refine .lastStop fun stop => .pure ?_
    rw [List.append_nil]
    exact .call (Nat.le_refl _) written listed
  · exact .pure rfl

/-- **Run of a chain.** -/
theorem links_takes (inner : Takes anywhere nested (Writes Level.assignment)) (turns : Nat)
    {target : Expr} {before : List Lexeme} (written : Writes Level.chain target before) :
    Takes anywhere (links nested turns target) fun expr lexemes =>
      Writes Level.chain expr (before ++ lexemes) := by
  induction turns generalizing target before with
  | zero => exact .throw _
  | succ turns ih =>
    refine .bind (link_takes inner written) fun longer? lexemes linked => ?_
    cases longer? with
    | some longer => simpa only [List.append_assoc] using ih linked
    | none =>
      subst linked
      exact .pure (by simpa using written)

theorem chain_takes (inner : Takes anywhere nested (Writes Level.assignment)) :
    Takes anywhere (chain nested) (Writes Level.chain) := by
  refine .bind (primary_takes inner) fun target lexemes written => .budget fun turns => ?_
  exact links_takes inner turns (written.loosen (by decide))

theorem postfixed_takes (inner : Takes anywhere nested (Writes Level.assignment)) :
    Takes anywhere (postfixed nested) (Writes Level.update) := by
  refine .bind (chain_takes inner) fun target lexemes written => .peek fun lexeme _ => ?_
  cases spells : UpdateOp.ofLexeme? lexeme with
  | none => exact .pure (by simpa using written.loosen (by decide))
  | some op =>
    refine .known ?_ fun token _ => ?_
    · rintro rfl
      cases spells
    · cases target with
      | identifier span name => exact .pure (.update (Nat.le_refl _) written.name spells)
      | _ => exact .throw _

theorem unaryUpTo_takes (inner : Takes anywhere nested (Writes Level.assignment)) (turns : Nat) :
    Takes anywhere (unaryUpTo nested turns) (Writes Level.unary) := by
  induction turns with
  | zero => exact .throw _
  | succ turns ih =>
    refine .peek fun lexeme _ => ?_
    cases spells : UnaryOp.ofLexeme? lexeme with
    | some op =>
      refine .known ?_ fun token _ => .bind ih fun operand lexemes written => .pure ?_
      · rintro rfl
        cases spells
      · rw [List.append_nil]
        exact .unary (Nat.le_refl _) spells written
    | none =>
      dsimp only
      split
      · exact .throw _
      · intro cursor value after _ ran
        obtain ⟨taken, split, plain, written⟩ :=
          postfixed_takes inner cursor value after trivial ran
        exact ⟨taken, split, plain, written.loosen (by decide)⟩

/-- **Run of a level.**  The operations of a tightness behind what was written group to the
left. -/
theorem operations_takes {operand : Reader Expr} {tightness : Nat}
    (inner : Takes anywhere operand (Writes (Level.binary tightness + 1))) (turns : Nat)
    {left : Expr} {before : List Lexeme} (written : Writes (Level.binary tightness) left before) :
    Takes anywhere (operations operand tightness turns left) fun expr lexemes =>
      Writes (Level.binary tightness) expr (before ++ lexemes) := by
  induction turns generalizing left before with
  | zero => exact .throw _
  | succ turns ih =>
    refine .peek fun lexeme _ => ?_
    cases spelled : BinaryOp.ofLexeme? tightness lexeme with
    | none => exact .pure (by simpa using written)
    | some op =>
      obtain ⟨symbol, rfl, spells⟩ := BinaryOp.ofLexeme?_eq_some_iff.mp spelled
      refine .known nofun fun token _ => .bind inner fun right lexemes given => ?_
      have longer : Writes (Level.binary tightness)
          (.binary ⟨left.span.start, right.span.stop⟩ op left right)
          (before ++ .symbol symbol :: lexemes) :=
        .binary (Nat.le_refl _) spells written given
      simpa only [List.append_assoc, List.cons_append] using ih longer

theorem binaryUpTo_takes (inner : Takes anywhere nested (Writes Level.assignment)) {levels : Nat}
    (few : levels ≤ tightest) :
    Takes anywhere (binaryUpTo nested levels) (Writes (Level.unary - levels)) := by
  induction levels with
  | zero => exact .budget fun turns => unaryUpTo_takes inner turns
  | succ levels ih =>
    have tighter := ih (Nat.le_of_succ_le few)
    have level : Level.unary - levels = Level.binary (tightest - levels) + 1 := by
      simp only [Level.unary, Level.binary, tightest] at few ⊢
      omega
    have here : Level.unary - (levels + 1) = Level.binary (tightest - levels) := by omega
    rw [level] at tighter
    rw [here]
    refine .bind tighter fun left lexemes written => .budget fun turns => ?_
    exact operations_takes tighter turns (written.loosen (Nat.le_succ _))

theorem ternary_takes (inner : Takes anywhere nested (Writes Level.assignment)) :
    Takes anywhere (ternary nested) (Writes Level.ternary) := by
  refine .bind (binaryUpTo_takes inner (Nat.le_refl _)) fun condition first test => .eat ?_ ?_
  · refine .bind inner fun consequent second chosen => .expect ?_
    refine .bind inner fun alternate third other => .pure ?_
    simpa using .ternary (Nat.le_refl _) test chosen other
  · exact .pure (by simpa using test.loosen (by decide))

theorem assignment_takes (inner : Takes anywhere nested (Writes Level.assignment)) :
    Takes anywhere (assignment nested) (Writes Level.assignment) := by
  refine .bind (ternary_takes inner) fun target lexemes written => .peek fun lexeme _ => ?_
  cases spells : AssignOp.ofLexeme? lexeme with
  | none => exact .pure (by simpa using written.loosen (by decide))
  | some op =>
    refine .known ?_ fun token _ => .bind inner fun value more given => ?_
    · rintro rfl
      cases spells
    · cases target with
      | identifier span name => exact .pure (by simpa using .assignment written.name spells given)
      | _ => exact .throw _

end

/-- **Whatever is read as an expression was written as one**, by induction on how deep
expressions are nested. -/
theorem expression_takes (depth : Nat) :
    Takes anywhere (expression depth) (Writes Level.assignment) := by
  induction depth with
  | zero => exact .throw _
  | succ depth ih => exact assignment_takes ih

/-! ## Expressions that stand alone -/

/-- Behind an expression that stands alone a semicolon is taken at most, and what stands
there then is the end. -/
theorem finish_takes :
    Takes anywhere (finish >>= fun _ => peek) fun lexeme lexemes =>
      lexeme = .finish ∧ (lexemes = [] ∨ lexemes = [.symbol .semicolon]) := by
  have ended {last : Lexeme → Reader Unit} {writes : Lexeme → List Lexeme → Prop}
      (passes : last .finish = Pure.pure ())
      (refuses : ∀ lexeme, lexeme ≠ .finish → ∃ fault, last lexeme = throw fault)
      (nothing : writes .finish []) :
      Takes anywhere ((peek >>= last) >>= fun _ => peek) writes := by
    rw [bind_assoc]
    refine .peek fun lexeme _ => ?_
    by_cases same : lexeme = .finish
    · rw [same, passes]
      rintro cursor _ _ here ⟨⟩
      exact ⟨[], rfl, by simp, here ▸ nothing⟩
    · obtain ⟨fault, thrown⟩ := refuses lexeme same
      rw [thrown]
      exact .throw fault
  unfold finish
  rw [bind_assoc]
  refine .eat ?_ (ended rfl ?_ ⟨rfl, .inl rfl⟩)
  · simp only [if_true, bind_assoc]
    refine .peek fun lexeme _ => ?_
    split
    · exact .throw _
    · refine .here (ended rfl (fun lexeme inner => ?_) ⟨rfl, .inr rfl⟩)
      split
      · exact absurd rfl inner
      · exact ⟨_, rfl⟩
      · exact ⟨_, rfl⟩
  · intro lexeme inner
    split
    · exact absurd rfl inner
    · exact ⟨_, rfl⟩
    · exact ⟨_, rfl⟩

/-- A reading of something and of the end behind it is two readings, one behind the
other. -/
theorem finished_runs {α : Type} {reader : Reader α} {cursor after : Cursor} {value : α}
    (ran : (reader >>= fun found => finish >>= fun _ => pure found).run cursor
      = .ok (value, after)) :
    ∃ between, reader.run cursor = .ok (value, between) ∧
      (finish >>= fun _ => peek).run between = .ok (after.token.lexeme, after) := by
  rw [StateT.run_bind] at ran
  cases first : reader.run cursor with
  | error fault =>
    rw [first] at ran
    cases ran
  | ok result =>
    obtain ⟨found, between⟩ := result
    rw [first] at ran
    change (finish >>= fun _ => pure found).run between = .ok (value, after) at ran
    rw [StateT.run_bind] at ran
    cases second : finish.run between with
    | error fault =>
      rw [second] at ran
      cases ran
    | ok result =>
      rw [second] at ran
      cases ran
      refine ⟨between, rfl, ?_⟩
      rw [StateT.run_bind, second]
      rfl

/-- A reading of an expression that stands alone is a reading of an expression, and of
the end behind it. -/
theorem soleExpression_runs {cursor after : Cursor} {expr : Expr}
    (ran : soleExpression.run cursor = .ok (expr, after)) :
    ∃ depth between, (expression depth).run cursor = .ok (expr, between) ∧
      (finish >>= fun _ => peek).run between = .ok (after.token.lexeme, after) := by
  refine ⟨cursor.tokens.length + 1, ?_⟩
  unfold soleExpression at ran
  rw [StateT.run_bind] at ran
  change StateT.run (if cursor.token.lexeme = .finish then throw .expectedExpression
    else budget >>= fun turns => expression turns >>= fun expr => finish >>= fun _ => pure expr)
    cursor = .ok (expr, after) at ran
  split at ran
  · cases ran
  · exact finished_runs ran

/-- Tokens without an end, before one, are the tokens before the first end. -/
theorem takeWhile_inner {body : List Token} {cursor : Cursor}
    (inner : ∀ token ∈ body, token.lexeme ≠ .finish) (last : cursor.token.lexeme = .finish) :
    (body ++ cursor.tokens).takeWhile (·.lexeme ≠ .finish) = body := by
  have nothing : cursor.tokens.takeWhile (·.lexeme ≠ .finish) = [] := by
    obtain ⟨tokens, lastStop⟩ := cursor
    cases tokens with
    | nil => rfl
    | cons token rest =>
      have ended : token.lexeme = .finish := last
      simp [ended]
  rw [List.takeWhile_append_of_pos (by simpa using inner), nothing, List.append_nil]

/-- What a reader finds in tokens, it finds in a run over them. -/
theorem run_of_onTokens {α : Type} {reader : Reader α} {tokens : List Token} {value : α}
    (read : reader.onTokens tokens = .ok value) :
    ∃ after, reader.run ⟨tokens, 0⟩ = .ok (value, after) := by
  unfold Reader.onTokens at read
  cases ran : reader.run ⟨tokens, 0⟩ with
  | error fault =>
    rw [ran] at read
    cases read
  | ok result =>
    rw [ran] at read
    cases read
    exact ⟨result.2, rfl⟩

/-- **What is read before the end** takes all tokens before it, but for a semicolon. -/
theorem taken_before_finish {α : Type} {reader : Reader α} {writes : α → List Lexeme → Prop}
    {body : List Token} {stop : Token} {value : α} {between after : Cursor}
    (takes : Takes anywhere reader writes) (inner : ∀ token ∈ body, token.lexeme ≠ .finish)
    (last : stop.lexeme = .finish)
    (first : reader.run ⟨body ++ [stop], 0⟩ = .ok (value, between))
    (second : (finish >>= fun _ => peek).run between = .ok (after.token.lexeme, after)) :
    ∃ lexemes, writes value lexemes ∧ (body.map (·.lexeme) = lexemes
      ∨ body.map (·.lexeme) = lexemes ++ [.symbol .semicolon]) := by
  obtain ⟨taken, split, plain, written⟩ := takes _ _ _ trivial first
  obtain ⟨more, split', plain', ended, behind⟩ := finish_takes _ _ _ trivial second
  have whole : body = taken ++ more := by
    have tokens : body ++ [stop] = (taken ++ more) ++ after.tokens := by
      rw [List.append_assoc, ← split', ← split]
    calc body
        = (body ++ [stop]).takeWhile (·.lexeme ≠ .finish) :=
          (@takeWhile_inner body ⟨[stop], 0⟩ inner last).symm
      _ = taken ++ more := by
          rw [tokens]
          exact takeWhile_inner (List.forall_mem_append.mpr ⟨plain, plain'⟩) ended
  refine ⟨taken.map (·.lexeme), written, ?_⟩
  rw [whole, List.map_append]
  obtain none | semicolon := behind
  · rw [none, List.append_nil]
    exact .inl rfl
  · rw [semicolon]
    exact .inr rfl

/-- **An expression that stands alone is read only from tokens that write it.**  The
tokens before the end are those of a writing of the expression, perhaps with a semicolon
behind it: none of them is passed over, taken twice or left. -/
theorem soleExpression_sound {body : List Token} {stop : Token} {expr : Expr}
    (inner : ∀ token ∈ body, token.lexeme ≠ .finish) (last : stop.lexeme = .finish)
    (read : soleExpression.onTokens (body ++ [stop]) = .ok expr) :
    WritesSnippet expr (body.map (·.lexeme)) := by
  obtain ⟨after, ran⟩ := run_of_onTokens read
  obtain ⟨depth, between, first, second⟩ := soleExpression_runs ran
  obtain ⟨lexemes, written, all | semicolon⟩ :=
    taken_before_finish (expression_takes depth) inner last first second
  · rw [all]
    exact .plain written
  · rw [semicolon]
    exact .semicolon written

/-- `a = (b)` with a semicolon: the brackets are part of the writing and not of the tree. -/
theorem soleExpression_sound_grouped :
    WritesSnippet
      (.assignment ⟨0, 6⟩ .assign "a" (.identifier ⟨5, 6⟩ "b"))
      [.identifier "a", .symbol .eq, .symbol .lParen, .identifier "b", .symbol .rParen,
        .symbol .semicolon] :=
  @soleExpression_sound
    [⟨.identifier "a", ⟨0, 1⟩⟩, ⟨.symbol .eq, ⟨2, 3⟩⟩, ⟨.symbol .lParen, ⟨4, 5⟩⟩,
      ⟨.identifier "b", ⟨5, 6⟩⟩, ⟨.symbol .rParen, ⟨6, 7⟩⟩, ⟨.symbol .semicolon, ⟨7, 8⟩⟩]
    ⟨.finish, ⟨8, 8⟩⟩ _ (by decide) rfl rfl

end ViewTemplate.Snippet
