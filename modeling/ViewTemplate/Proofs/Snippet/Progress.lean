import ViewTemplate.Proofs.Repetition
import ViewTemplate.Proofs.Snippet.Soundness

/-!
# The parser of snippets ends

No budget of the parser runs out.  An expression that is read takes at least one token, so
wherever a production reads another expression inside it there are fewer tokens left, and
a depth above the number of tokens is enough (`expression_consumes`).  Every loop is a turn
that is repeated, and a turn with which the loop goes on takes a token (`Advances`).

A reader is judged at one cursor (`EndsWith`): it fails, though not because a budget ran out,
or it returns and leaves no more tokens than there were.  What productions need of the
reader of nested expressions is that it takes something wherever fewer tokens are left
(`ConsumesBelow`).

## Main Definitions

* `EndsWith` — a reader that does not run out at a cursor
* `Consumes`, `ConsumesBelow` — a reader that takes a token if it returns
* `Advances` — a loop that takes a token in each turn but the last
* `LoopsAdvance` — the loops of the grammar do so

## Main Results

* `expression_consumes` — expressions, nested below a depth
* `soleExpression_ends`, `soleStatement_ends` — whole snippets

-/

namespace ViewTemplate.Snippet

variable {α β σ : Type} {cursor : Cursor} {bound : Nat}

/-- How many tokens are left. -/
def Cursor.left (cursor : Cursor) : Nat :=
  cursor.tokens.length

theorem Cursor.advance_lt (inner : cursor.token.lexeme ≠ .finish) :
    cursor.advance.left < cursor.left := by
  rw [left, left, Takes.tokens_eq_cons inner]
  exact Nat.lt_succ_self _

/-- Behind a token that is known not to be the end fewer tokens are left. -/
theorem Cursor.advance_lt_of_eq {lexeme : Lexeme} (here : cursor.token.lexeme = lexeme)
    (inner : lexeme ≠ .finish) : cursor.advance.left < cursor.left :=
  advance_lt (here ▸ inner)

theorem Cursor.advance_le (cursor : Cursor) : cursor.advance.left ≤ cursor.left := by
  by_cases inner : cursor.token.lexeme = .finish
  · obtain ⟨tokens, lastStop⟩ := cursor
    cases tokens with
    | nil => exact Nat.le_refl _
    | cons token rest =>
      have last : token.lexeme = .finish := inner
      simp [advance, last]
  · exact Nat.le_of_lt (advance_lt inner)

/-! ## Readers at a cursor -/

/-- **A reader ends at a cursor**: it fails with a fault other than that of a budget, or it
returns, leaves no more tokens than there were, and has a property. -/
structure EndsWith (reader : Reader α) (cursor : Cursor) (property : α → Cursor → Prop) : Prop where
  returns : ∀ {value after}, reader.run cursor = .ok (value, after) →
    after.left ≤ cursor.left ∧ property value after
  fails : ∀ {fault}, reader.run cursor = .error fault → fault ≠ .exhausted

/-- A reader takes a token if it returns. -/
abbrev Consumes (reader : Reader α) (cursor : Cursor) : Prop :=
  EndsWith reader cursor fun _ after => after.left < cursor.left

/-- A reader takes a token wherever fewer tokens are left than a bound. -/
def ConsumesBelow (reader : Reader α) (bound : Nat) : Prop :=
  ∀ cursor : Cursor, cursor.left < bound → Consumes reader cursor

theorem ConsumesBelow.mono {reader : Reader α} {bound' : Nat} (le : bound' ≤ bound)
    (h : ConsumesBelow reader bound) : ConsumesBelow reader bound' :=
  fun cursor few => h cursor (Nat.lt_of_lt_of_le few le)

namespace EndsWith

variable {property : α → Cursor → Prop} {property' : β → Cursor → Prop}

theorem pure {value : α} (h : property value cursor) :
    EndsWith (Pure.pure value) cursor property where
  returns := by
    rintro _ _ ⟨⟩
    exact ⟨Nat.le_refl _, h⟩
  fails := nofun

theorem throw {fault : Fault} (other : fault ≠ .exhausted) :
    EndsWith (throw fault) cursor property where
  returns := nofun
  fails := by
    rintro _ ⟨⟩
    exact other

theorem mono {wider : α → Cursor → Prop} {reader : Reader α} (h : EndsWith reader cursor property)
    (widen : ∀ value after, after.left ≤ cursor.left → property value after → wider value after) :
    EndsWith reader cursor wider where
  returns ran := ⟨(h.returns ran).1, widen _ _ (h.returns ran).1 (h.returns ran).2⟩
  fails := h.fails

/-- **Sequences.**  The second part starts where the first one stops. -/
theorem bind {reader : Reader α} {next : α → Reader β} (first : EndsWith reader cursor property)
    (rest : ∀ value after, after.left ≤ cursor.left → property value after →
      EndsWith (next value) after property') :
    EndsWith (reader >>= next) cursor property' := by
  constructor
  · intro value after ran
    rw [StateT.run_bind] at ran
    cases middle : reader.run cursor with
    | error fault =>
      rw [middle] at ran
      cases ran
    | ok result =>
      rw [middle] at ran
      obtain ⟨less, h⟩ := first.returns middle
      obtain ⟨less', h'⟩ := (rest _ _ less h).returns ran
      exact ⟨Nat.le_trans less' less, h'⟩
  · intro fault ran
    rw [StateT.run_bind] at ran
    cases middle : reader.run cursor with
    | error fault' =>
      rw [middle] at ran
      cases ran
      exact first.fails middle
    | ok result =>
      rw [middle] at ran
      obtain ⟨less, h⟩ := first.returns middle
      exact (rest _ _ less h).fails ran

/-! ### Looking and taking -/

/-- A part that may be left out before the rest. -/
theorem optional {condition : Prop} [Decidable condition] {next longer : Reader α}
    (rest : ∀ cursor, EndsWith next cursor property)
    (before : (∀ cursor, EndsWith next cursor property) → EndsWith longer cursor property) :
    EndsWith (if condition then longer else next) cursor property := by
  split
  · exact before rest
  · exact rest cursor

theorem peek {next : Lexeme → Reader β}
    (rest : EndsWith (next cursor.token.lexeme) cursor property') :
    EndsWith (Snippet.peek >>= next) cursor property' :=
  ⟨rest.returns, rest.fails⟩

theorem lastStop {next : Nat → Reader β} (rest : EndsWith (next cursor.lastStop) cursor property') :
    EndsWith (Snippet.lastStop >>= next) cursor property' :=
  ⟨rest.returns, rest.fails⟩

theorem budget {next : Nat → Reader β} (rest : EndsWith (next (cursor.left + 1)) cursor property') :
    EndsWith (Snippet.budget >>= next) cursor property' :=
  ⟨rest.returns, rest.fails⟩

theorem next {next : Token → Reader β}
    (rest : EndsWith (next cursor.token) cursor.advance property') :
    EndsWith (Snippet.next >>= next) cursor property' where
  returns ran := ⟨Nat.le_trans (rest.returns ran).1 cursor.advance_le, (rest.returns ran).2⟩
  fails ran := rest.fails ran

/-- A symbol that may be there; if it is, a token was taken. -/
theorem eat (symbol : Symbol) :
    EndsWith (Snippet.eat symbol) cursor fun eaten after =>
      (eaten = true → after.left < cursor.left) ∧ (eaten = false → after = cursor) := by
  refine .peek ?_
  split
  · rename_i here
    exact .next (.pure ⟨fun _ => Cursor.advance_lt_of_eq here nofun, nofun⟩)
  · exact .pure ⟨nofun, fun _ => rfl⟩

theorem expect (symbol : Symbol) : EndsWith (Snippet.expect symbol) cursor fun _ _ => True := by
  refine .peek ?_
  split
  · exact .next (.pure trivial)
  · exact .throw nofun

end EndsWith

/-! ## Loops -/

/-- **A loop that takes a token in each turn.**  It is a turn that is repeated, and wherever
fewer tokens are left than a bound, a turn ends; if the loop goes on, the turn has taken a
token. -/
def Advances (bound : Nat) (loop : Nat → σ → Reader α) : Prop :=
  ∃ turn : σ → Reader (LoopTurn σ α), loop = loopOf (throw .exhausted) turn ∧
    ∀ (state : σ) (cursor : Cursor), cursor.left < bound →
      EndsWith (turn state) cursor fun decided after =>
        decided.Holds (after.left < cursor.left) True

theorem Advances.mono {loop : Nat → σ → Reader α} {bound' : Nat} (le : bound' ≤ bound)
    (advances : Advances bound loop) : Advances bound' loop := by
  obtain ⟨turn, same, steps⟩ := advances
  exact ⟨turn, same, fun state cursor few => steps state cursor (Nat.lt_of_lt_of_le few le)⟩

/-- **Runs of a loop.**  If each turn takes a token, as many turns as there are tokens left,
and one more, are enough.  What holds of the cursors before and behind the loop, as soon as
a token was taken or by the last turn, is a parameter. -/
theorem loopOf_ends {around : Cursor → Cursor → Prop}
    (taken : ∀ {first middle last : Cursor}, middle.left < first.left → last.left ≤ middle.left →
      around first last)
    {turn : σ → Reader (LoopTurn σ α)}
    (steps : ∀ (state : σ) (cursor : Cursor), cursor.left < bound →
      EndsWith (turn state) cursor fun decided after =>
        decided.Holds (after.left < cursor.left) (around cursor after))
    {turns : Nat} {state : σ} (few : cursor.left < bound) (enough : cursor.left < turns) :
    EndsWith (loopOf (throw .exhausted) turn turns state) cursor fun _ after =>
      around cursor after := by
  induction turns generalizing cursor state with
  | zero => exact absurd enough (Nat.not_lt_zero _)
  | succ turns ih =>
    refine .bind (steps state cursor few) fun decided between less holds => ?_
    cases decided with
    | ends result => exact .pure holds
    | goesOn next change =>
      have lt : between.left < cursor.left := holds
      refine .bind (ih (by omega) (by omega)) fun rest after less' _ => .pure ?_
      exact taken lt less'

theorem Advances.ends {loop : Nat → σ → Reader α} (advances : Advances bound loop) {turns : Nat}
    (state : σ) (few : cursor.left < bound) (enough : cursor.left < turns) :
    EndsWith (loop turns state) cursor fun _ _ => True := by
  obtain ⟨turn, rfl, steps⟩ := advances
  exact loopOf_ends (fun _ _ => trivial) steps few enough

/-! ## Lists and names -/

/-- A turn of a list reads an item, if the closing symbol is not there, and goes on behind
a comma. -/
def itemTurn (close : Symbol) (item : Reader α) : Reader (LoopTurn Unit (List α)) := do
  if (← peek) = .symbol close then
    return .ends []
  else
    let first ← item
    if ← eat .comma then
      return .goesOn () (first :: ·)
    else
      return .ends [first]

theorem itemsUpTo_eq (close : Symbol) (item : Reader α) :
    (fun turns (_ : Unit) => itemsUpTo close item turns)
      = loopOf (throw .exhausted) fun _ => itemTurn close item := by
  refine eq_loopOf (fun _ => rfl) fun turns _ => ?_
  simp only [itemsUpTo, itemTurn, bind_assoc, ite_bind, pure_bind, bind_pure_comp]

theorem itemsUpTo_advances {close : Symbol} {item : Reader α} (inner : ConsumesBelow item bound) :
    Advances bound fun turns (_ : Unit) => itemsUpTo close item turns := by
  refine ⟨_, itemsUpTo_eq close item, fun _ cursor few => .peek ?_⟩
  split
  · exact .pure trivial
  · refine .bind (inner cursor few) fun first behind _ lt => .bind (.eat _) ?_
    intro eaten after le _
    split
    · exact .pure (Nat.lt_of_le_of_lt le lt)
    · exact .pure trivial

theorem listUpTo_ends {close : Symbol} {item : Reader α} (inner : ConsumesBelow item bound)
    (few : cursor.left < bound) : EndsWith (listUpTo close item) cursor fun _ _ => True := by
  refine .budget (.bind ((itemsUpTo_advances inner).ends () few (Nat.lt_succ_self _)) ?_)
  exact fun items _ _ _ => .bind (.expect _) fun _ _ _ _ => .pure trivial

theorem memberName_ends : EndsWith memberName cursor fun _ _ => True := by
  refine .next ?_
  split
  · exact .pure trivial
  · exact .pure trivial
  · exact .throw nofun

/-! ## The levels of the grammar -/

variable {nested : Reader Expr}

theorem property_consumes (inner : ConsumesBelow nested bound) :
    ConsumesBelow (property nested) (bound + 1) := by
  intro cursor few
  refine .next ?_
  cases named : keyOf? cursor.token.lexeme with
  | none => exact .throw nofun
  | some key =>
    have more : cursor.advance.left < cursor.left := by
      refine Cursor.advance_lt fun last => ?_
      rw [last] at named
      cases named
    refine .bind (.eat _) fun eaten between le _ => ?_
    split
    · refine .bind (inner between (by omega)) fun value after le' _ => .pure ?_
      omega
    · split
      · exact .pure (Nat.lt_of_le_of_lt le more)
      · exact .throw nofun

theorem primary_consumes (inner : ConsumesBelow nested bound) :
    ConsumesBelow (primary nested) (bound + 1) := by
  intro cursor few
  refine .next ?_
  cases here : cursor.token.lexeme with
  | number value | string text | boolean value | identifier name =>
    exact .pure (Cursor.advance_lt_of_eq here nofun)
  | keyword word =>
    cases word with
    | null | undefined | this => exact .pure (Cursor.advance_lt_of_eq here nofun)
    | _ => exact .throw nofun
  | symbol symbol =>
    have lt := Cursor.advance_lt_of_eq here nofun
    cases symbol with
    | lParen =>
      refine .bind (inner _ (by omega)) fun expr between le _ => ?_
      exact .bind (.expect _) fun _ after le' _ => .pure (by omega)
    | lBracket =>
      refine .bind (listUpTo_ends inner (by omega)) fun items after le _ => .lastStop (.pure ?_)
      omega
    | lBrace =>
      refine .bind (listUpTo_ends (property_consumes inner) (by omega)) fun _ after le _ => ?_
      exact .lastStop (.pure (by omega))
    | arrow => exact .throw nofun
    | _ => exact .throw nofun
  | finish => exact .throw nofun

theorem bracketedKey_ends (inner : ConsumesBelow nested bound) (few : cursor.left < bound) :
    EndsWith (bracketedKey nested) cursor fun _ _ => True :=
  .bind (inner cursor few) fun _ _ _ _ => .bind (.expect _) fun _ _ _ _ => .pure trivial

/-- A link takes a token if there is one. -/
theorem link_ends (inner : ConsumesBelow nested bound) (target : Expr)
    (few : cursor.left < bound + 1) :
    EndsWith (link nested target) cursor fun longer? after =>
      longer?.isSome → after.left < cursor.left := by
  refine .peek ?_
  split
  · rename_i here
    have lt := Cursor.advance_lt_of_eq here nofun
    exact .next (.bind memberName_ends fun _ after le _ => .pure fun _ => by omega)
  · rename_i here
    have lt := Cursor.advance_lt_of_eq here nofun
    refine .next (.bind (.eat _) fun eaten between le _ => ?_)
    split
    · refine .bind (bracketedKey_ends inner (by omega)) fun _ after le' _ => .pure fun _ => ?_
      omega
    · refine .peek ?_
      split
      · exact .throw nofun
      · exact .bind memberName_ends fun _ after le' _ => .pure fun _ => by omega
  · rename_i here
    have lt := Cursor.advance_lt_of_eq here nofun
    refine .next (.bind (bracketedKey_ends inner (by omega)) fun _ after le _ => .pure fun _ => ?_)
    omega
  · rename_i here
    have lt := Cursor.advance_lt_of_eq here nofun
    refine .next (.bind (listUpTo_ends inner (by omega)) fun _ after le _ => .lastStop ?_)
    exact .pure fun _ => by omega
  · exact .pure nofun

/-- A turn of a chain reads a link. -/
def linkTurn (nested : Reader Expr) (target : Expr) : Reader (LoopTurn Expr Expr) := do
  match ← link nested target with
  | some longer => return .goesOn longer id
  | none => return .ends target

theorem links_eq (nested : Reader Expr) :
    links nested = loopOf (throw .exhausted) (linkTurn nested) := by
  refine eq_loopOf (fun _ => rfl) fun turns target => ?_
  rw [links, linkTurn, bind_assoc]
  refine bind_congr fun longer? => ?_
  cases longer? <;> simp

theorem links_advances (inner : ConsumesBelow nested bound) :
    Advances (bound + 1) (links nested) := by
  refine ⟨_, links_eq nested, fun target cursor few => ?_⟩
  refine .bind (link_ends inner target few) fun longer? after _ taken => ?_
  cases longer? with
  | some longer => exact .pure (taken rfl)
  | none => exact .pure trivial

theorem chain_consumes (inner : ConsumesBelow nested bound) :
    ConsumesBelow (chain nested) (bound + 1) := by
  intro cursor few
  refine .bind (primary_consumes inner cursor few) fun target between _ lt => .budget ?_
  refine ((links_advances inner).ends target (by omega) (Nat.lt_succ_self _)).mono ?_
  exact fun _ after le _ => Nat.lt_of_le_of_lt le lt

theorem postfixed_consumes (inner : ConsumesBelow nested bound) :
    ConsumesBelow (postfixed nested) (bound + 1) := by
  intro cursor few
  refine .bind (chain_consumes inner cursor few) fun target between _ lt => .peek ?_
  split
  · exact .pure lt
  · refine .next ?_
    have le := between.advance_le
    split
    · exact .pure (Nat.lt_of_le_of_lt le lt)
    · exact .throw nofun

/-- A turn of the operators in front of an operand reads an operator, or the operand. -/
def unaryTurn (nested : Reader Expr) : Reader (LoopTurn Unit Expr) := do
  let lexeme ← peek
  match UnaryOp.ofLexeme? lexeme with
  | some op =>
    let token ← next
    return .goesOn () fun operand => .unary ⟨token.span.start, operand.span.stop⟩ op operand
  | none =>
    if lexeme = .symbol .plusPlus ∨ lexeme = .symbol .minusMinus then
      throw .updateInFront
    else
      return .ends (← postfixed nested)

theorem unaryUpTo_eq (nested : Reader Expr) :
    (fun turns (_ : Unit) => unaryUpTo nested turns)
      = loopOf (throw .exhausted) fun _ => unaryTurn nested := by
  refine eq_loopOf (fun _ => rfl) fun turns _ => ?_
  rw [unaryUpTo, unaryTurn, bind_assoc]
  refine bind_congr fun lexeme => ?_
  cases UnaryOp.ofLexeme? lexeme with
  | some op => simp
  | none =>
    dsimp only
    split
    · rfl
    · simp

/-- Both an operator and the operand take a token. -/
theorem unaryTurn_ends (inner : ConsumesBelow nested bound) (few : cursor.left < bound + 1) :
    EndsWith (unaryTurn nested) cursor fun decided after =>
      decided.Holds (after.left < cursor.left) (after.left < cursor.left) := by
  refine .peek ?_
  cases spells : UnaryOp.ofLexeme? cursor.token.lexeme with
  | some op =>
    refine .next (.pure (Cursor.advance_lt fun last => ?_))
    rw [last] at spells
    cases spells
  | none =>
    dsimp only
    split
    · exact .throw nofun
    · exact .bind (postfixed_consumes inner cursor few) fun _ _ _ lt => .pure lt

theorem unaryUpTo_advances (inner : ConsumesBelow nested bound) :
    Advances (bound + 1) fun turns (_ : Unit) => unaryUpTo nested turns := by
  refine ⟨_, unaryUpTo_eq nested, fun _ cursor few => ?_⟩
  refine (unaryTurn_ends inner few).mono fun decided after _ holds => ?_
  cases decided with
  | goesOn next change => exact holds
  | ends result => exact trivial

theorem unary_consumes (inner : ConsumesBelow nested bound) :
    ConsumesBelow (unary nested) (bound + 1) := by
  intro cursor few
  refine .budget ?_
  have same := congrFun (congrFun (unaryUpTo_eq nested) (cursor.left + 1)) ()
  rw [same]
  refine loopOf_ends (fun lt le => Nat.lt_of_le_of_lt le lt)
    (fun _ cursor few => unaryTurn_ends inner few) few (Nat.lt_succ_self _)

/-- A turn of a level reads an operator and its right operand. -/
def operationTurn (operand : Reader Expr) (level : Nat) (left : Expr) :
    Reader (LoopTurn Expr Expr) := do
  match BinaryOp.ofLexeme? level (← peek) with
  | none => return .ends left
  | some op =>
    let _ ← next
    let right ← operand
    return .goesOn (.binary ⟨left.span.start, right.span.stop⟩ op left right) id

theorem operations_eq (operand : Reader Expr) (level : Nat) :
    operations operand level = loopOf (throw .exhausted) (operationTurn operand level) := by
  refine eq_loopOf (fun _ => rfl) fun turns left => ?_
  rw [operations, operationTurn, bind_assoc]
  refine bind_congr fun lexeme => ?_
  cases BinaryOp.ofLexeme? level lexeme <;> simp

theorem operations_advances {operand : Reader Expr} (inner : ConsumesBelow operand bound)
    (level : Nat) : Advances bound (operations operand level) := by
  refine ⟨_, operations_eq operand level, fun left cursor few => .peek ?_⟩
  cases spells : BinaryOp.ofLexeme? level cursor.token.lexeme with
  | none => exact .pure trivial
  | some op =>
    have le := cursor.advance_le
    refine .next (.bind (inner _ (by omega)) fun right after _ lt => .pure ?_)
    exact Nat.lt_of_lt_of_le lt le

theorem binaryUpTo_consumes (inner : ConsumesBelow nested bound) (levels : Nat) :
    ConsumesBelow (binaryUpTo nested levels) (bound + 1) := by
  induction levels with
  | zero => exact unary_consumes inner
  | succ levels ih =>
    intro cursor few
    refine .bind (ih cursor few) fun left between _ lt => .budget ?_
    refine ((operations_advances ih _).ends left (by omega) (Nat.lt_succ_self _)).mono ?_
    exact fun _ after le _ => Nat.lt_of_le_of_lt le lt

theorem ternary_consumes (inner : ConsumesBelow nested bound) :
    ConsumesBelow (ternary nested) (bound + 1) := by
  intro cursor few
  refine .bind (binaryUpTo_consumes inner tightest cursor few) fun condition o₁ _ lt => ?_
  refine .bind (.eat _) fun eaten o₂ le₂ _ => ?_
  split
  · refine .bind (inner o₂ (by omega)) fun consequent o₃ le₃ _ => ?_
    refine .bind (.expect _) fun _ o₄ le₄ _ => ?_
    exact .bind (inner o₄ (by omega)) fun alternate o₅ le₅ _ => .pure (by omega)
  · exact .pure (Nat.lt_of_le_of_lt le₂ lt)

theorem assignment_consumes (inner : ConsumesBelow nested bound) :
    ConsumesBelow (assignment nested) (bound + 1) := by
  intro cursor few
  refine .bind (ternary_consumes inner cursor few) fun target between _ lt => .peek ?_
  split
  · exact .pure lt
  · have le := between.advance_le
    refine .next (.bind (inner _ (by omega)) fun value after le' _ => ?_)
    split
    · exact .pure (by omega)
    · exact .throw nofun
    · exact .throw nofun

/-- **An expression takes a token**, and its depth does not run out if it is above the number
of tokens: by induction on the depth, as every expression inside it starts behind a token. -/
theorem expression_consumes (depth : Nat) : ConsumesBelow (expression depth) depth := by
  induction depth with
  | zero => exact fun _ few => absurd few (Nat.not_lt_zero _)
  | succ depth ih => exact assignment_consumes ih

/-- An expression that is read takes a token whatever its depth is: it was written by the
tokens that it took. -/
theorem expression_lt {depth : Nat} {after : Cursor} {expr : Expr}
    (ran : (expression depth).run cursor = .ok (expr, after)) :
    after.tokens.length < cursor.tokens.length := by
  obtain ⟨taken, split, -, written⟩ := expression_takes depth cursor expr after trivial ran
  have some : taken ≠ [] := fun none => written.ne_nil (by rw [none]; rfl)
  have longer := List.length_pos_iff.2 some
  rw [split, List.length_append]
  omega

/-- **The loops of the grammar** take a token in each turn, below a number of tokens. -/
structure LoopsAdvance (nested : Reader Expr) (bound : Nat) : Prop where
  items : ∀ close, Advances bound fun turns (_ : Unit) => itemsUpTo close nested turns
  properties : ∀ close,
    Advances bound fun turns (_ : Unit) => itemsUpTo close (property nested) turns
  links : Advances bound (links nested)
  operators : Advances bound fun turns (_ : Unit) => unaryUpTo nested turns
  operations : ∀ levels level, Advances bound (operations (binaryUpTo nested levels) level)

theorem ConsumesBelow.loopsAdvance (inner : ConsumesBelow nested bound) :
    LoopsAdvance nested bound where
  items _ := itemsUpTo_advances inner
  properties _ := itemsUpTo_advances ((property_consumes inner).mono (Nat.le_succ bound))
  links := (links_advances inner).mono (Nat.le_succ bound)
  operators := (unaryUpTo_advances inner).mono (Nat.le_succ bound)
  operations levels level :=
    operations_advances ((binaryUpTo_consumes inner levels).mono (Nat.le_succ bound)) level

/-! ## Snippets -/

/-- What stands behind the last thing of a snippet. -/
theorem finish_ends : EndsWith finish cursor fun _ _ => True := by
  refine .bind (.eat _) fun _ between _ _ => .optional (fun last => ?_) fun rest => .peek ?_
  · refine .peek ?_
    split
    · exact .pure trivial
    · exact .throw nofun
    · exact .throw nofun
  · split
    · exact .throw nofun
    · exact rest between

/-- An expression whose depth is bounded by the number of tokens, before the rest. -/
theorem EndsWith.expression {next : Expr → Reader β} {property : β → Cursor → Prop}
    (rest : ∀ expr after, EndsWith (next expr) after property) :
    EndsWith (Snippet.budget >>= fun turns => Snippet.expression turns >>= next) cursor property :=
  .budget (.bind (expression_consumes _ cursor (Nat.lt_succ_self _)) fun expr after _ _ =>
    rest expr after)

theorem soleExpression_ends : EndsWith soleExpression cursor fun _ _ => True := by
  refine .peek ?_
  split
  · exact .throw nofun
  · exact .expression fun _ _ => .bind finish_ends fun _ _ _ _ => .pure trivial

theorem declaration_ends : EndsWith declaration cursor fun _ _ => True := by
  refine .peek ?_
  split
  · rename_i name _
    refine .next ?_
    split
    · exact .throw nofun
    · have last (init : Option Expr) {cursor : Cursor} : EndsWith (do
          if (← peek) = .symbol .comma then
            throw .severalBindings
          return Statement.declaration name init) cursor fun _ _ => True := by
        refine .peek ?_
        split
        · exact .throw nofun
        · exact .pure trivial
      refine .bind (.eat _) fun binds between _ _ => ?_
      split
      · have init :
            EndsWith (some <$> Snippet.expression (between.left + 1)) between fun _ _ => True :=
          .bind (expression_consumes _ between (Nat.lt_succ_self _)) fun _ _ _ _ => .pure trivial
        exact .budget (.bind init fun init _ _ _ => last init)
      · exact last none
  · exact .throw nofun

theorem statement_ends : EndsWith statement cursor fun _ _ => True := by
  refine .peek ?_
  split
  · exact .throw nofun
  · exact .next declaration_ends
  · split
    · exact .throw nofun
    · exact .expression fun _ _ => .pure trivial
  · exact .expression fun _ _ => .pure trivial

theorem soleStatement_ends : EndsWith soleStatement cursor fun _ _ => True :=
  .bind statement_ends fun _ _ _ _ => .bind finish_ends fun _ _ _ _ => .pure trivial

/-- What ends at every cursor never runs out on the tokens of a snippet. -/
theorem onTokens_ne_exhausted {reader : Reader α}
    (ends : ∀ cursor, EndsWith reader cursor fun _ _ => True) (tokens : List Token) :
    reader.onTokens tokens ≠ .error .exhausted := by
  intro ran
  rw [Reader.onTokens] at ran
  cases result : reader.run ⟨tokens, 0⟩ with
  | error fault =>
    rw [result] at ran
    cases ran
    exact (ends _).fails result rfl
  | ok result' =>
    rw [result] at ran
    cases ran

theorem onSnippet_ne_exhausted {reader : Reader α}
    (ends : ∀ cursor, EndsWith reader cursor fun _ _ => True) (snippet : String) :
    reader.onSnippet snippet ≠ .error .exhausted := by
  rw [Reader.onSnippet]
  split
  · exact nofun
  · exact onTokens_ne_exhausted ends _

end ViewTemplate.Snippet
