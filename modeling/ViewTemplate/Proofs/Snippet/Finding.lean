import ViewTemplate.Proofs.Snippet.Writing

/-!
# What readers find

What a reader finds in lexemes depends on what stands behind them: `a + b` is not the
left operand of `a + b * c`.  A judgement about a reader therefore says which lexemes may
follow (`Finds`), and a place of the grammar admits those that make nothing longer that
may stand there (`Stops`).

In a sequence the lexemes of the second part follow those of the first.  Where the second
part may take nothing, what follows it follows the first part too, so the law for
sequences speaks of the first lexeme of the one and the other together.

## Main Definitions

* `Stops` — lexemes that end an expression at a place
* `Finds` — a reader takes lexemes and returns what they write, whatever follows
* `Opens` — lexemes that begin as an expression does
-/

namespace ViewTemplate.Snippet

variable {α β : Type}

/-! ## What may follow -/

/-- The level of the expressions that a lexeme makes longer from behind. -/
def Lexeme.continues? : Lexeme → Option Nat
  | .symbol .dot | .symbol .optionalChain | .symbol .lBracket | .symbol .lParen =>
    some Level.chain
  | .symbol .plusPlus | .symbol .minusMinus => some Level.update
  | .symbol .question | .symbol .eq | .symbol .plusEq | .symbol .minusEq | .symbol .starEq
  | .symbol .slashEq => some Level.ternary
  | .symbol mark => (BinaryOp.ofSymbol? mark).map fun spelled => Level.binary spelled.2
  | _ => none

/-- **What ends an expression** at a place: a lexeme that makes no expression longer that
may stand there. -/
def Stops (place : Nat) (lexeme : Lexeme) : Prop :=
  ∀ level, lexeme.continues? = some level → level < place

/-- Tightness is counted from one. -/
theorem BinaryOp.ofSymbol?_bounds {symbol : Symbol} {op : BinaryOp} {tightness : Nat}
    (spells : ofSymbol? symbol = some (op, tightness)) :
    1 ≤ tightness ∧ tightness ≤ tightest := by
  cases symbol <;> cases spells <;> decide

namespace Stops

variable {place : Nat} {lexeme : Lexeme}

theorem mono {tighter : Nat} (stop : Stops place lexeme) (le : place ≤ tighter) :
    Stops tighter lexeme :=
  fun level same => Nat.lt_of_lt_of_le (stop level same) le

/-- What makes nothing but choices and assignments longer makes nothing longer. -/
theorem of_ternary (stop : Stops Level.ternary lexeme) : Stops place lexeme := by
  intro level same
  have low := stop level same
  cases lexeme with
  | symbol mark => cases mark <;> cases same <;> exact absurd low (by decide)
  | _ => cases same

theorem not_update (stop : Stops Level.update lexeme) : UpdateOp.ofLexeme? lexeme = none := by
  unfold UpdateOp.ofLexeme?
  split
  · exact absurd (stop _ rfl) (Nat.lt_irrefl _)
  · exact absurd (stop _ rfl) (Nat.lt_irrefl _)
  · rfl

theorem continues?_of_spells {symbol : Symbol} {op : BinaryOp} {tightness : Nat}
    (spells : BinaryOp.ofSymbol? symbol = some (op, tightness)) :
    (Lexeme.symbol symbol).continues? = some (Level.binary tightness) := by
  cases symbol <;> cases spells <;> rfl

theorem not_binary {tightness : Nat} (stop : Stops (Level.binary tightness) lexeme) :
    BinaryOp.ofLexeme? tightness lexeme = none := by
  cases spelled : BinaryOp.ofLexeme? tightness lexeme with
  | none => rfl
  | some op =>
    obtain ⟨symbol, rfl, spells⟩ := BinaryOp.ofLexeme?_eq_some_iff.mp spelled
    exact absurd (stop _ (continues?_of_spells spells)) (Nat.lt_irrefl _)

/-- A binary operator ends every tighter operand before it. -/
theorem of_spells {symbol : Symbol} {op : BinaryOp} {tightness : Nat}
    (spells : BinaryOp.ofSymbol? symbol = some (op, tightness)) :
    Stops (Level.binary tightness + 1) (.symbol symbol) := by
  intro level same
  rw [continues?_of_spells spells] at same
  cases same
  exact Nat.lt_succ_self _

theorem not_question (stop : Stops Level.ternary lexeme) : lexeme ≠ .symbol .question := by
  rintro rfl
  exact absurd (stop _ rfl) (Nat.lt_irrefl _)

theorem not_assignment (stop : Stops Level.ternary lexeme) : AssignOp.ofLexeme? lexeme = none := by
  unfold AssignOp.ofLexeme?
  split
  · exact absurd (stop _ rfl) (Nat.lt_irrefl _)
  · exact absurd (stop _ rfl) (Nat.lt_irrefl _)
  · exact absurd (stop _ rfl) (Nat.lt_irrefl _)
  · exact absurd (stop _ rfl) (Nat.lt_irrefl _)
  · exact absurd (stop _ rfl) (Nat.lt_irrefl _)
  · rfl

/-- An assignment operator ends what can be tested or assigned to. -/
theorem of_assignment {op : AssignOp} (spells : AssignOp.ofLexeme? lexeme = some op) :
    Stops (Level.binary 1) lexeme := by
  intro level same
  unfold AssignOp.ofLexeme? at spells
  split at spells <;> cases spells <;> cases same <;> decide

/-- An update operator ends what can be updated. -/
theorem of_update {op : UpdateOp} (spells : UpdateOp.ofLexeme? lexeme = some op) :
    Stops Level.chain lexeme := by
  intro level same
  unfold UpdateOp.ofLexeme? at spells
  split at spells <;> cases spells <;> cases same <;> decide

end Stops

/-! ## What readers find -/

/-- **What a reader finds** in lexemes: whatever stands behind them and is one of `stops`,
the reader takes them, leaves the rest and returns a value that `found` admits. -/
def Finds (reader : Reader α) (lexemes : List Lexeme) (stops : Lexeme → Prop)
    (found : α → Prop) : Prop :=
  ∀ (taken rest : List Token) (lastStop : Nat), taken.map (·.lexeme) = lexemes →
    stops ((rest.map (·.lexeme)).headD .finish) →
    ∃ value stop, reader.run ⟨taken ++ rest, lastStop⟩ = .ok (value, ⟨rest, stop⟩) ∧ found value

/-- Any lexeme may follow. -/
abbrev anything : Lexeme → Prop := fun _ => True

/-- The lexeme at a cursor is the first of the lexemes that are left. -/
theorem Cursor.token_lexeme (tokens : List Token) (lastStop : Nat) :
    (Cursor.token ⟨tokens, lastStop⟩).lexeme = (tokens.map (·.lexeme)).headD .finish := by
  cases tokens with
  | nil => rfl
  | cons token tokens => rfl

/-- What stands first in two lists. -/
theorem headD_append (first second : List α) (other : α) :
    (first ++ second).headD other = first.headD (second.headD other) := by
  cases first with
  | nil => rfl
  | cons item items => rfl

namespace Finds

variable {stops stops' : Lexeme → Prop} {found : α → Prop} {found' : β → Prop}
  {lexemes more : List Lexeme}

theorem pure {value : α} (h : found value) : Finds (Pure.pure value) [] stops found := by
  intro taken rest lastStop none _
  rw [List.map_eq_nil_iff] at none
  subst none
  exact ⟨value, lastStop, rfl, h⟩

/-- Fewer lexemes may follow. -/
theorem followed {reader : Reader α} (h : Finds reader lexemes stops found)
    (fewer : ∀ lexeme, stops' lexeme → stops lexeme) : Finds reader lexemes stops' found :=
  fun taken rest lastStop same stop => h taken rest lastStop same (fewer _ stop)

/-- **Sequences.**  What the second part finds has to begin with a lexeme that may follow
the first part. -/
theorem bind {reader : Reader α} {next : α → Reader β} (first : Finds reader lexemes stops found)
    (meets : ∀ lexeme, stops' lexeme → stops (more.headD lexeme))
    (second : ∀ value, found value → Finds (next value) more stops' found') :
    Finds (reader >>= next) (lexemes ++ more) stops' found' := by
  intro taken rest lastStop same stop
  obtain ⟨before, behind, rfl, rfl, rfl⟩ := List.map_eq_append_iff.mp same
  obtain ⟨value, between, ran, admitted⟩ := first before (behind ++ rest) lastStop rfl (by
    rw [List.map_append, headD_append]
    exact meets _ stop)
  obtain ⟨last, after, ran', admitted'⟩ := second value admitted behind rest between rfl stop
  refine ⟨last, after, ?_, admitted'⟩
  rw [List.append_assoc, StateT.run_bind, ran]
  exact ran'

/-- A sequence whose second part takes nothing. -/
theorem last {reader : Reader α} {next : α → Reader β} (first : Finds reader lexemes stops found)
    (meets : ∀ lexeme, stops' lexeme → stops lexeme)
    (second : ∀ value, found value → Finds (next value) [] stops' found') :
    Finds (reader >>= next) lexemes stops' found' := by
  rw [← List.append_nil lexemes]
  exact .bind first meets second

/-- **Looking.** -/
theorem peek {next : Lexeme → Reader β}
    (rest : ∀ lexeme, stops lexeme →
      Finds (next (lexemes.headD lexeme)) lexemes (· = lexeme) found') :
    Finds (Snippet.peek >>= next) lexemes stops found' := by
  intro taken left lastStop same stop
  have ran := rest _ stop taken left lastStop same rfl
  rw [← same, ← headD_append, ← List.map_append, ← Cursor.token_lexeme _ lastStop] at ran
  exact ran

/-- Looking at a lexeme that is there. -/
theorem seen {lexeme : Lexeme} {next : Lexeme → Reader β}
    (rest : Finds (next lexeme) (lexeme :: lexemes) stops found') :
    Finds (Snippet.peek >>= next) (lexeme :: lexemes) stops found' :=
  .peek fun _ stop => rest.followed fun _ same => same ▸ stop

/-- **Taking** a lexeme that is not the end. -/
theorem next {lexeme : Lexeme} {next : Token → Reader β} (inner : lexeme ≠ .finish)
    (rest : ∀ token, token.lexeme = lexeme → Finds (next token) lexemes stops found') :
    Finds (Snippet.next >>= next) (lexeme :: lexemes) stops found' := by
  intro taken left lastStop same stop
  obtain ⟨token, taken, rfl, rfl, rfl⟩ := List.map_eq_cons_iff.mp same
  obtain ⟨value, after, ran, admitted⟩ := rest token rfl taken left token.span.stop rfl stop
  refine ⟨value, after, ?_, admitted⟩
  rw [← ran]
  change (next token).run (Cursor.advance ⟨token :: (taken ++ left), lastStop⟩) = _
  simp only [Cursor.advance, if_neg inner]

theorem lastStop {next : Nat → Reader β}
    (rest : ∀ stop, Finds (next stop) lexemes stops found') :
    Finds (Snippet.lastStop >>= next) lexemes stops found' :=
  fun taken left lastStop => rest lastStop taken left lastStop

/-- A bound on turns exceeds the number of lexemes. -/
theorem budget {next : Nat → Reader β}
    (rest : ∀ turns, lexemes.length < turns → Finds (next turns) lexemes stops found') :
    Finds (Snippet.budget >>= next) lexemes stops found' := by
  intro taken left lastStop same
  refine rest ((taken ++ left).length + 1) ?_ taken left lastStop same
  rw [← same, List.length_map, List.length_append]
  omega

/-- A symbol that may be there and is. -/
theorem eat {symbol : Symbol} {next : Bool → Reader β}
    (rest : Finds (next true) lexemes stops found') :
    Finds (Snippet.eat symbol >>= next) (.symbol symbol :: lexemes) stops found' := by
  unfold Snippet.eat
  rw [bind_assoc]
  refine .seen ?_
  rw [if_pos rfl, bind_assoc]
  exact .next nofun fun token _ => rest

/-- A symbol that may be there and is not. -/
theorem missing {symbol : Symbol} {next : Bool → Reader β}
    (other : ∀ lexeme, stops lexeme → lexemes.headD lexeme ≠ .symbol symbol)
    (rest : Finds (next false) lexemes stops found') :
    Finds (Snippet.eat symbol >>= next) lexemes stops found' := by
  unfold Snippet.eat
  rw [bind_assoc]
  refine .peek fun lexeme stop => ?_
  rw [if_neg (other _ stop)]
  exact rest.followed fun _ same => same ▸ stop

/-- A symbol that has to be there. -/
theorem expect {symbol : Symbol} {next : Unit → Reader β}
    (rest : Finds (next ()) lexemes stops found') :
    Finds (Snippet.expect symbol >>= next) (.symbol symbol :: lexemes) stops found' := by
  unfold Snippet.expect
  rw [bind_assoc]
  refine .seen ?_
  rw [if_pos rfl, bind_assoc]
  exact .next nofun fun token _ => rest

end Finds

/-! ## With what writings begin -/

/-- A lexeme with which a name, a literal or a bracket begins. -/
def Lexeme.opensPrimary : Lexeme → Bool
  | .number _ | .string _ | .boolean _ | .identifier _ => true
  | .keyword .null | .keyword .undefined | .keyword .this => true
  | .symbol .lParen | .symbol .lBracket | .symbol .lBrace => true
  | _ => false

/-- A lexeme with which an expression begins: that of something primary, or an operator
in front of an operand where one may stand. -/
def Begins (place : Nat) (lexeme : Lexeme) : Prop :=
  lexeme.opensPrimary = true ∨ place ≤ Level.unary ∧ ∃ op, UnaryOp.ofLexeme? lexeme = some op

/-- Lexemes the first of which begins an expression at a place. -/
def Opens (place : Nat) (lexemes : List Lexeme) : Prop :=
  ∃ first rest, lexemes = first :: rest ∧ Begins place first

theorem Opens.append {place tighter : Nat} {lexemes more : List Lexeme}
    (h : Opens tighter lexemes) (le : place ≤ tighter) : Opens place (lexemes ++ more) := by
  obtain ⟨first, rest, rfl, begins⟩ := h
  refine ⟨first, rest ++ more, rfl, begins.imp_right fun spelled => ?_⟩
  exact ⟨Nat.le_trans le spelled.1, spelled.2⟩

/-- **A writing begins** with the lexeme of something primary or with an operator in front
of one, by recursion into what stands leftmost. -/
theorem Writes.opens {place : Nat} {expr : Expr} {lexemes : List Lexeme}
    (written : Writes place expr lexemes) : Opens place lexemes := by
  cases written with
  | number => exact ⟨_, _, rfl, .inl rfl⟩
  | string => exact ⟨_, _, rfl, .inl rfl⟩
  | boolean => exact ⟨_, _, rfl, .inl rfl⟩
  | null => exact ⟨_, _, rfl, .inl rfl⟩
  | undefined => exact ⟨_, _, rfl, .inl rfl⟩
  | this => exact ⟨_, _, rfl, .inl rfl⟩
  | identifier => exact ⟨_, _, rfl, .inl rfl⟩
  | grouped inner => exact ⟨_, _, rfl, .inl rfl⟩
  | array listed => exact ⟨_, _, rfl, .inl rfl⟩
  | object listed => exact ⟨_, _, rfl, .inl rfl⟩
  | member admits receiver named => exact receiver.opens.append admits
  | computed admits receiver inner => exact receiver.opens.append admits
  | call admits receiver listed => exact receiver.opens.append admits
  | update admits changed spells =>
    exact changed.opens.append (Nat.le_trans admits (by decide))
  | unary admits spells inner => exact ⟨_, _, rfl, .inr ⟨admits, _, spells⟩⟩
  | binary admits spells before behind => exact before.opens.append admits
  | ternary admits test chosen other =>
    exact test.opens.append (Nat.le_trans admits (by decide))
  | assignment changed spells given => exact changed.opens.append (by decide)
termination_by lexemes.length

/-- Closing brackets. -/
def Symbol.closes : Symbol → Bool
  | .rParen | .rBracket | .rBrace => true
  | _ => false

/-- No expression begins with a closing bracket. -/
theorem Begins.ne_close {place : Nat} {lexeme : Lexeme} {close : Symbol}
    (opens : Begins place lexeme) (closes : close.closes = true) : lexeme ≠ .symbol close := by
  rintro rfl
  cases close <;> cases closes <;>
    simp [Begins, Lexeme.opensPrimary, UnaryOp.ofLexeme?] at opens

/-- Nor does one begin at the end. -/
theorem Begins.ne_finish {place : Nat} {lexeme : Lexeme} (opens : Begins place lexeme) :
    lexeme ≠ .finish := by
  rintro rfl
  simp [Begins, Lexeme.opensPrimary, UnaryOp.ofLexeme?] at opens

/-- What is too tight for an operator in front of it begins with none, and with no update
either. -/
theorem Begins.plain {lexeme : Lexeme} (opens : Begins Level.update lexeme) :
    UnaryOp.ofLexeme? lexeme = none ∧
      ¬(lexeme = .symbol .plusPlus ∨ lexeme = .symbol .minusMinus) := by
  obtain opens | ⟨le, -⟩ := opens
  · unfold Lexeme.opensPrimary at opens
    split at opens <;> simp [UnaryOp.ofLexeme?] at opens ⊢
  · exact absurd le (by decide)

end ViewTemplate.Snippet
