import ViewTemplate.Proofs.Snippet.Finding

/-!
# What was written is read

Every writing of an expression that stands alone is read, as that expression.  So
brackets are needed nowhere but where the levels of the grammar ask for them, operations
of one tightness group to the left, and choices and assignments to the right.

Members, calls and the operations of a level are read in loops that build the tree while
they go, and a writing of the tree starts inside such a loop.  What leads to the loop is
stated with the rest of the loop as a parameter (`Leads`), so that each link or operation
adds one turn.  The levels are then gone through from the tightest to the loosest, each
finding what the one before it finds and what is written on its own (`Found`).

## Main Definitions

* `ReadsNested` — nested expressions are found up to a length
* `Leads` — a reader takes lexemes and is then in the middle of a loop
* `Found` — what the levels of the grammar find of a writing

## Main Results

* `Writes.found` — one more level of nesting
* `soleExpression_complete` — an expression that stands alone

-/

namespace ViewTemplate.Snippet

variable {α : Type}

/-! ## Lists and names -/

/-- Items may end at a comma and at the symbol behind the last of them. -/
abbrev endsItem (close : Symbol) : Lexeme → Prop :=
  fun lexeme => lexeme = .symbol .comma ∨ lexeme = .symbol close

/-- Where items are found, a list of them is: each item does not begin with the closing
symbol, and `view` is what of it has to be found again. -/
def ReadsItems {γ : Type} (close : Symbol) (item : Reader α) (writes : α → List Lexeme → Prop)
    (view : α → γ) (bound : Nat) : Prop :=
  ∀ value lexemes, writes value lexemes → lexemes.length ≤ bound →
    (∃ first rest, lexemes = first :: rest ∧ first ≠ .symbol close) ∧
      Finds item lexemes (endsItem close) fun other => view other = view value

/-- **Run of a list.**  All items are found, up to the closing symbol. -/
theorem itemsUpTo_finds {γ : Type} {close : Symbol} {item : Reader α}
    {writes : α → List Lexeme → Prop} {view : α → γ} {bound : Nat}
    (reads : ReadsItems close item writes view bound) (closes : close.closes = true)
    {items : List α} {lexemes : List Lexeme} (listed : Listed writes items lexemes)
    (short : lexemes.length ≤ bound) {turns : Nat} (enough : lexemes.length < turns) :
    Finds (itemsUpTo close item turns) lexemes (· = .symbol close)
      fun others => others.map view = items.map view := by
  induction listed generalizing turns with
  | nil =>
    obtain ⟨turns, rfl⟩ := Nat.exists_eq_add_one_of_ne_zero (Nat.ne_zero_of_lt enough)
    refine .peek fun lexeme same => ?_
    rw [List.headD_nil, if_pos same]
    exact .pure rfl
  | @last value lexemes only =>
    obtain ⟨turns, rfl⟩ := Nat.exists_eq_add_one_of_ne_zero (Nat.ne_zero_of_lt enough)
    obtain ⟨⟨first, rest, rfl, open'⟩, found⟩ := reads _ _ only short
    refine .seen ?_
    rw [if_neg open']
    refine .last found (fun lexeme same => .inr same) fun other same => ?_
    refine .missing ?_ (.pure (by simp [same]))
    rintro lexeme rfl
    cases close <;> cases closes <;> simp
  | @cons value items lexemes rest only others ih =>
    obtain ⟨turns, rfl⟩ := Nat.exists_eq_add_one_of_ne_zero (Nat.ne_zero_of_lt enough)
    rw [List.length_append, List.length_cons] at short enough
    obtain ⟨⟨first, inner, rfl, open'⟩, found⟩ := reads _ _ only (by omega)
    rw [List.cons_append]
    refine .seen ?_
    rw [if_neg open', ← List.cons_append]
    refine .bind found (fun lexeme _ => .inl rfl) fun other same => .eat ?_
    refine .last (ih (by omega) (by omega)) (fun lexeme stop => stop) fun more sames => .pure ?_
    simp [same, sames]

/-- A list is found with the closing symbol behind it. -/
theorem listUpTo_finds {γ : Type} {close : Symbol} {item : Reader α}
    {writes : α → List Lexeme → Prop} {view : α → γ} {bound : Nat}
    (reads : ReadsItems close item writes view bound) (closes : close.closes = true)
    {items : List α} {lexemes : List Lexeme} (listed : Listed writes items lexemes)
    (short : lexemes.length ≤ bound) :
    Finds (listUpTo close item) (lexemes ++ [.symbol close]) anything
      fun others => others.map view = items.map view := by
  refine .budget fun turns enough => ?_
  rw [List.length_append] at enough
  refine .bind (itemsUpTo_finds reads closes listed short (by omega)) (fun _ _ => rfl) ?_
  exact fun others same => .expect (.pure same)

theorem memberName_finds {lexeme : Lexeme} {name : String} {span : Span}
    (named : nameOf? lexeme = some name) :
    Finds memberName [lexeme] anything (Matches (.string span name)) := by
  refine .next ?_ fun token same => ?_
  · rintro rfl
    cases named
  · rw [same]
    cases lexeme with
    | identifier name => cases named; exact .pure rfl
    | keyword word => cases named; exact .pure rfl
    | _ => cases named

/-! ## The levels of the grammar -/

/-- Nested expressions are found, up to a bound on the lexemes. -/
def ReadsNested (nested : Reader Expr) (bound : Nat) : Prop :=
  ∀ expr lexemes, Writes Level.assignment expr lexemes → lexemes.length ≤ bound →
    Finds nested lexemes (Stops Level.assignment) (Matches expr)

theorem Stops.of_none {place : Nat} {lexeme : Lexeme} (none : lexeme.continues? = none) :
    Stops place lexeme := by
  intro level same
  rw [none] at same
  cases same

/-- Items end where expressions do. -/
theorem Stops.of_endsItem {place : Nat} {close : Symbol} (closes : close.closes = true)
    {lexeme : Lexeme} (ends : endsItem close lexeme) : Stops place lexeme := by
  obtain rfl | rfl := ends
  · exact .of_none rfl
  · cases close <;> cases closes <;> exact .of_none rfl

section

variable {nested : Reader Expr} {bound : Nat}

theorem readsItems_nested (deep : ReadsNested nested bound) {close : Symbol}
    (closes : close.closes = true) :
    ReadsItems close nested (Writes Level.assignment) Expr.unspanned bound := by
  intro value lexemes written short
  constructor
  · obtain ⟨first, rest, same, begins⟩ := written.opens
    exact ⟨first, rest, same, begins.ne_close closes⟩
  · exact (deep _ _ written short).followed fun lexeme => Stops.of_endsItem closes

theorem readsItems_property (deep : ReadsNested nested bound) :
    ReadsItems .rBrace (property nested) (WritesProperty (Writes Level.assignment))
      Property.unspanned bound := by
  intro value lexemes written short
  cases written with
  | @pair lexeme key value lexemes named given =>
    constructor
    · refine ⟨_, _, rfl, ?_⟩
      rintro rfl
      cases named
    · refine .next ?_ fun token same => ?_
      · rintro rfl
        cases named
      · rw [List.length_cons, List.length_cons] at short
        rw [same, named]
        refine .eat (.last (deep _ _ given (by omega)) (fun _ => Stops.of_endsItem rfl) ?_)
        intro other same
        rw [Matches] at same
        exact .pure (by simp [Property.unspanned, same])
  | shorthand =>
    constructor
    · exact ⟨_, _, rfl, Lexeme.noConfusion⟩
    · refine .next Lexeme.noConfusion fun token same => ?_
      rw [same]
      refine .missing ?_ (.pure rfl)
      rintro lexeme (rfl | rfl) <;> simp

/-- **Names, literals and brackets are found** whatever follows them. -/
theorem primary_finds (deep : ReadsNested nested bound) {expr : Expr} {lexemes : List Lexeme}
    (written : Writes Level.primary expr lexemes) (short : lexemes.length ≤ bound + 1) :
    Finds (primary nested) lexemes anything (Matches expr) := by
  cases written with
  | number => exact .next Lexeme.noConfusion fun token same => same ▸ .pure rfl
  | string => exact .next Lexeme.noConfusion fun token same => same ▸ .pure rfl
  | boolean => exact .next Lexeme.noConfusion fun token same => same ▸ .pure rfl
  | null => exact .next Lexeme.noConfusion fun token same => same ▸ .pure rfl
  | undefined => exact .next Lexeme.noConfusion fun token same => same ▸ .pure rfl
  | this => exact .next Lexeme.noConfusion fun token same => same ▸ .pure rfl
  | identifier => exact .next Lexeme.noConfusion fun token same => same ▸ .pure rfl
  | grouped inner =>
    simp only [List.length_cons, List.length_append, List.length_nil] at short
    refine .next Lexeme.noConfusion fun token same => ?_
    rw [same]
    refine .bind (deep _ _ inner (by omega)) (fun _ _ => .of_none rfl) fun other same => ?_
    exact .expect (.pure same)
  | array listed =>
    simp only [List.length_cons, List.length_append, List.length_nil] at short
    refine .next Lexeme.noConfusion fun token same => ?_
    rw [same]
    refine .last (listUpTo_finds (readsItems_nested deep rfl) rfl listed (by omega))
      (fun _ _ => trivial) fun _ sames => .lastStop fun _ => .pure (.array sames)
  | object listed =>
    simp only [List.length_cons, List.length_append, List.length_nil] at short
    refine .next Lexeme.noConfusion fun token same => ?_
    rw [same]
    refine .last (listUpTo_finds (readsItems_property deep) rfl listed (by omega))
      (fun _ _ => trivial) fun _ sames => .lastStop fun _ => .pure (.object sames)
  | member admits | computed admits | call admits | update admits | unary admits
    | ternary admits => exact absurd admits (by decide)
  | binary admits spells =>
    have := (BinaryOp.ofSymbol?_bounds spells).2
    simp only [Level.primary, Level.binary, tightest] at admits this
    omega

/-! ### Members and calls -/

/-- **What leads to a loop.**  A reader that starts with an operand and goes on in a loop
finds the operand first, and is then where the loop is: whatever the loop finds behind the
operand, the reader finds behind the lexemes of the operand.  What stands there has to be
`apart` from the operand. -/
def Leads (reader : Reader Expr) (loop : Nat → Expr → Reader Expr) (apart : Lexeme → Prop)
    (expr : Expr) (lexemes : List Lexeme) : Prop :=
  ∀ (more : List Lexeme) (stops : Lexeme → Prop) (found : Expr → Prop),
    (∀ lexeme, stops lexeme → apart (more.headD lexeme)) →
    (∀ turns other, more.length < turns → Matches expr other →
      Finds (loop turns other) more stops found) →
    Finds reader (lexemes ++ more) stops found

/-- The start of a loop: what finds the operand leads to it. -/
theorem Finds.leads {operand : Reader Expr} {loop : Nat → Expr → Reader Expr}
    {apart : Lexeme → Prop} {expr : Expr} {lexemes : List Lexeme}
    (h : Finds operand lexemes apart (Matches expr)) :
    Leads (operand >>= fun first => Snippet.budget >>= fun turns => loop turns first) loop apart
      expr lexemes :=
  fun _ _ _ meets rest =>
    .bind h meets fun other same => .budget fun turns enough => rest turns other enough same

/-- The end of a loop: where the loop goes on no longer, the whole is found. -/
theorem Leads.finds {reader : Reader Expr} {loop : Nat → Expr → Reader Expr}
    {apart stops : Lexeme → Prop} {expr : Expr} {lexemes : List Lexeme}
    (h : Leads reader loop apart expr lexemes) (ends : ∀ lexeme, stops lexeme → apart lexeme)
    (ended : ∀ turns other, Finds (loop (turns + 1) other) [] stops (· = other)) :
    Finds reader lexemes stops (Matches expr) := by
  rw [← List.append_nil lexemes]
  refine h [] stops _ ends fun turns other enough same => ?_
  obtain ⟨turns, rfl⟩ := Nat.exists_eq_add_one_of_ne_zero (Nat.ne_zero_of_lt enough)
  intro taken rest lastStop none stop
  obtain ⟨value, after, ran, rfl⟩ := ended turns other taken rest lastStop none stop
  exact ⟨_, after, ran, same⟩

/-- **Step of a chain.**  A link behind what is found makes the longer chain found. -/
theorem Leads.link {target expr : Expr} {before lexemes : List Lexeme}
    {apart : Lexeme → Prop} (h : Leads (chain nested) (links nested) (anything) target before)
    (some' : lexemes ≠ [])
    (linked : ∀ other, Matches target other →
      Finds (link nested other) lexemes (anything)
        fun longer? => ∃ longer, longer? = some longer ∧ Matches expr longer) :
    Leads (chain nested) (links nested) apart expr (before ++ lexemes) := by
  intro more stops found _ rest
  rw [List.append_assoc]
  refine h _ stops found (fun _ _ => trivial) fun turns other enough same => ?_
  obtain ⟨turns, rfl⟩ := Nat.exists_eq_add_one_of_ne_zero (Nat.ne_zero_of_lt enough)
  refine .bind (linked other same) (fun _ _ => trivial) ?_
  rintro _ ⟨longer, rfl, same⟩
  refine rest turns longer ?_ same
  have := List.length_pos_iff.mpr some'
  rw [List.length_append] at enough
  omega

theorem bracketedKey_finds (deep : ReadsNested nested bound) {key : Expr} {lexemes : List Lexeme}
    (written : Writes Level.assignment key lexemes)
    (short : lexemes.length ≤ bound) :
    Finds (bracketedKey nested) (lexemes ++ [.symbol .rBracket]) anything (Matches key) :=
  .bind (deep _ _ written short) (fun _ _ => .of_none rfl) fun _ same => .expect (.pure same)

theorem member_finds {target other : Expr} {span keySpan : Span} {optional : Bool} {name : String}
    {lexeme : Lexeme} (named : nameOf? lexeme = some name) (same : Matches target other) :
    Finds (link nested other) [.symbol (memberMark optional), lexeme] (anything)
      fun longer? => ∃ longer, longer? = some longer ∧
        Matches (.member span target (.string keySpan name) false optional) longer := by
  have key : Finds memberName [lexeme] anything (Matches (.string keySpan name)) :=
    memberName_finds named
  cases optional with
  | false =>
    refine .seen (.next Lexeme.noConfusion fun token _ => .last key (fun _ stop => stop) fun _ keySame => ?_)
    exact .pure ⟨_, rfl, .member same keySame⟩
  | true =>
    refine .seen (.next Lexeme.noConfusion fun token _ => .missing ?_ (.seen ?_))
    · rintro _ - rfl
      cases named
    · rw [if_neg]
      · refine .last key (fun _ stop => stop) fun _ keySame => ?_
        exact .pure ⟨_, rfl, .member same keySame⟩
      · rintro rfl
        cases named

theorem computed_finds (deep : ReadsNested nested bound) {target other key : Expr} {span : Span}
    {optional : Bool} {lexemes : List Lexeme} (written : Writes Level.assignment key lexemes)
    (short : lexemes.length ≤ bound) (same : Matches target other) :
    Finds (link nested other) (keyMark optional ++ (lexemes ++ [.symbol .rBracket])) anything
      fun longer? => ∃ longer, longer? = some longer ∧
        Matches (.member span target key true optional) longer := by
  have keyed := bracketedKey_finds deep written short
  cases optional with
  | false =>
    refine .seen (.next Lexeme.noConfusion fun token _ => .last keyed (fun _ stop => stop) fun _ keySame => ?_)
    exact .pure ⟨_, rfl, .member same keySame⟩
  | true =>
    refine .seen (.next Lexeme.noConfusion fun token _ => .eat ?_)
    refine .last keyed (fun _ stop => stop) fun _ keySame => ?_
    exact .pure ⟨_, rfl, .member same keySame⟩

theorem call_finds (deep : ReadsNested nested bound) {callee other : Expr} {span : Span}
    {arguments : List Expr} {lexemes : List Lexeme}
    (listed : Listed (Writes Level.assignment) arguments lexemes)
    (short : lexemes.length ≤ bound) (same : Matches callee other) :
    Finds (link nested other) (.symbol .lParen :: (lexemes ++ [.symbol .rParen])) anything
      fun longer? => ∃ longer, longer? = some longer ∧
        Matches (.call span callee arguments) longer := by
  have items : ReadsItems .rParen nested (Writes Level.assignment) Expr.unspanned bound :=
    readsItems_nested deep rfl
  have found := listUpTo_finds items rfl listed short
  refine .seen (.next Lexeme.noConfusion fun token _ => ?_)
  refine .last found (fun _ _ => trivial) fun others sames => .lastStop fun stop => .pure ?_
  exact ⟨_, rfl, .call same sames⟩

/-- Behind a chain there is no further link. -/
theorem links_over (turns : Nat) (other : Expr) :
    Finds (links nested (turns + 1) other) [] (Stops Level.chain) (· = other) := by
  have nothing : Finds (link nested other) [] (Stops Level.chain) (· = none) := by
    refine .peek fun lexeme stop => ?_
    rw [List.headD_nil]
    split
    · exact absurd (stop _ rfl) (Nat.lt_irrefl _)
    · exact absurd (stop _ rfl) (Nat.lt_irrefl _)
    · exact absurd (stop _ rfl) (Nat.lt_irrefl _)
    · exact absurd (stop _ rfl) (Nat.lt_irrefl _)
    · exact .pure rfl
  refine .last nothing (fun _ stop => stop) ?_
  rintro _ rfl
  exact .pure rfl

/-! ### Operators -/

/-- What leads to the links of a chain is found with no update behind it. -/
theorem postfixed_finds {expr : Expr} {lexemes : List Lexeme}
    (h : Leads (chain nested) (links nested) anything expr lexemes) :
    Finds (postfixed nested) lexemes (Stops Level.update) (Matches expr) := by
  have target := h.finds (fun _ (_ : Stops Level.chain _) => trivial) links_over
  refine .last target (fun lexeme stop => stop.mono (by decide)) fun other same => ?_
  refine .peek fun lexeme stop => ?_
  rw [List.headD_nil, stop.not_update]
  exact .pure same

/-- A variable is found with an update behind it. -/
theorem update_finds {span nameSpan : Span} {name : String} {op : UpdateOp}
    {lexemes : List Lexeme} {lexeme : Lexeme}
    (h : Leads (chain nested) (links nested) anything (.identifier nameSpan name) lexemes)
    (spells : UpdateOp.ofLexeme? lexeme = some op) :
    Finds (postfixed nested) (lexemes ++ [lexeme]) (Stops Level.update)
      (Matches (.update span op name)) := by
  have target := h.finds (fun _ (_ : Stops Level.chain _) => trivial) links_over
  refine .bind target (fun _ _ => .of_update spells) fun other same => .seen ?_
  obtain ⟨span', rfl⟩ := same.eq_identifier
  rw [spells]
  refine .next ?_ fun token _ => .pure rfl
  rintro rfl
  cases spells

/-- Where no operator stands in front, the operand is all. -/
theorem unaryUpTo_finds {expr : Expr} {lexemes : List Lexeme}
    (opens : Opens Level.update lexemes)
    (h : Finds (postfixed nested) lexemes (Stops Level.update) (Matches expr)) {turns : Nat}
    (enough : lexemes.length < turns) :
    Finds (unaryUpTo nested turns) lexemes (Stops Level.unary) (Matches expr) := by
  obtain ⟨turns, rfl⟩ := Nat.exists_eq_add_one_of_ne_zero (Nat.ne_zero_of_lt enough)
  obtain ⟨first, rest, rfl, begins⟩ := opens
  refine .seen ?_
  rw [begins.plain.1]
  dsimp only
  rw [if_neg begins.plain.2]
  exact h.followed fun lexeme stop => stop.mono (by decide)

/-- An operator is found in front of what is found. -/
theorem unaryUpTo_operator {span : Span} {operand : Expr} {op : UnaryOp} {lexeme : Lexeme}
    {lexemes : List Lexeme} (spells : UnaryOp.ofLexeme? lexeme = some op)
    (h : ∀ turns, lexemes.length < turns →
      Finds (unaryUpTo nested turns) lexemes (Stops Level.unary) (Matches operand))
    {turns : Nat} (enough : (lexeme :: lexemes).length < turns) :
    Finds (unaryUpTo nested turns) (lexeme :: lexemes) (Stops Level.unary)
      (Matches (.unary span op operand)) := by
  obtain ⟨turns, rfl⟩ := Nat.exists_eq_add_one_of_ne_zero (Nat.ne_zero_of_lt enough)
  refine .seen ?_
  rw [spells]
  refine .next ?_ fun token _ => ?_
  · rintro rfl
    cases spells
  · refine .last (h turns (by simpa using enough)) (fun _ stop => stop) fun other same => ?_
    exact .pure same.unary

/-- Behind the operations of a level there is no further one. -/
theorem operations_over {operand : Reader Expr} {tightness : Nat} (turns : Nat) (other : Expr) :
    Finds (operations operand tightness (turns + 1) other) [] (Stops (Level.binary tightness))
      (· = other) := by
  refine .peek fun lexeme stop => ?_
  rw [List.headD_nil, stop.not_binary]
  exact .pure rfl

/-- **Step of a level.**  An operation whose right operand is found makes the longer
operation found. -/
theorem Leads.operation {operand : Reader Expr} {reader : Reader Expr} {span : Span}
    {tightness : Nat} {left right : Expr} {op : BinaryOp} {symbol : Symbol}
    {first second : List Lexeme}
    (h : Leads reader (operations operand tightness) (Stops (Level.binary tightness + 1)) left
      first)
    (spells : BinaryOp.ofSymbol? symbol = some (op, tightness))
    (behind : Finds operand second (Stops (Level.binary tightness + 1)) (Matches right)) :
    Leads reader (operations operand tightness) (Stops (Level.binary tightness + 1))
      (.binary span op left right) (first ++ .symbol symbol :: second) := by
  intro more stops found meets rest
  rw [List.append_assoc, List.cons_append]
  refine h _ stops found (fun _ _ => .of_spells spells) fun turns other enough same => ?_
  obtain ⟨turns, rfl⟩ := Nat.exists_eq_add_one_of_ne_zero (Nat.ne_zero_of_lt enough)
  have spelled : BinaryOp.ofLexeme? tightness (.symbol symbol) = some op :=
    BinaryOp.ofLexeme?_eq_some_iff.mpr ⟨symbol, rfl, spells⟩
  refine .seen ?_
  rw [spelled]
  refine .next Lexeme.noConfusion fun token _ => .bind behind meets fun other' same' => ?_
  refine rest turns _ ?_ (same.binary same')
  rw [List.length_cons, List.length_append] at enough
  omega

/-- What can be tested is found with no test behind it. -/
theorem ternary_finds {expr : Expr} {lexemes : List Lexeme}
    (h : Finds (binary nested) lexemes (Stops (Level.binary 1)) (Matches expr)) :
    Finds (ternary nested) lexemes
      (fun lexeme => Stops (Level.binary 1) lexeme ∧ lexeme ≠ .symbol .question)
      (Matches expr) :=
  .last h (fun _ stop => stop.1) fun _ same => .missing (fun _ stop => stop.2) (.pure same)

theorem ternary_choice (deep : ReadsNested nested bound) {span : Span}
    {condition consequent alternate : Expr} {first second third : List Lexeme}
    (test : Finds (binary nested) first (Stops (Level.binary 1)) (Matches condition))
    (chosen : Writes Level.assignment consequent second)
    (other : Writes Level.assignment alternate third)
    (short : (second ++ third).length ≤ bound) :
    Finds (ternary nested) (first ++ .symbol .question :: (second ++ .symbol .colon :: third))
      (Stops Level.ternary) (Matches (.ternary span condition consequent alternate)) := by
  rw [List.length_append] at short
  refine .bind test (fun _ _ => ?_) fun condition' same => .eat ?_
  · rintro level ⟨⟩
    decide
  · refine .bind (deep _ _ chosen (by omega)) (fun _ _ => .of_none rfl) ?_
    intro consequent' same'
    refine .expect (.last (deep _ _ other (by omega)) (fun _ stop => stop.of_ternary) ?_)
    exact fun alternate' same'' => .pure (same.ternary same' same'')

/-- A variable is found with an assignment behind it. -/
theorem assignment_target (deep : ReadsNested nested bound) {span nameSpan : Span}
    {name : String} {op : AssignOp} {value : Expr} {lexeme : Lexeme} {lexemes more : List Lexeme}
    (h : Finds (binary nested) lexemes (Stops (Level.binary 1))
      (Matches (.identifier nameSpan name)))
    (spells : AssignOp.ofLexeme? lexeme = some op) (given : Writes Level.assignment value more)
    (short : more.length ≤ bound) :
    Finds (assignment nested) (lexemes ++ lexeme :: more) (Stops Level.assignment)
      (Matches (.assignment span op name value)) := by
  refine .bind (ternary_finds h) (fun _ _ => ⟨.of_assignment spells, ?_⟩) fun other same => ?_
  · rintro rfl
    cases spells
  · obtain ⟨span', rfl⟩ := same.eq_identifier
    refine .seen ?_
    rw [spells]
    refine .next ?_ fun token _ => .last (deep _ _ given short) (fun _ stop => stop) ?_
    · rintro rfl
      cases spells
    · exact fun other same => .pure same.assignment

end

/-! ### From level to level -/

/-- What leads to the operations of a level, counted from the tightest. -/
def LeadsLevel (nested : Reader Expr) (levels : Nat) (expr : Expr) (lexemes : List Lexeme) :
    Prop :=
  Leads (binaryUpTo nested (levels + 1)) (operations (binaryUpTo nested levels) (tightest - levels))
    (Stops (Level.unary - levels)) expr lexemes

namespace LeadsLevel

variable {nested : Reader Expr} {levels : Nat} {expr : Expr} {lexemes : List Lexeme}

/-- The level looser than an operand's. -/
theorem unary_sub (few : levels < tightest) :
    Level.unary - levels = Level.binary (tightest - levels) + 1 := by
  simp only [Level.unary, Level.binary, tightest] at few ⊢
  omega

theorem of_operand
    (h : Finds (binaryUpTo nested levels) lexemes (Stops (Level.unary - levels)) (Matches expr)) :
    LeadsLevel nested levels expr lexemes :=
  h.leads

theorem finds (h : LeadsLevel nested levels expr lexemes) (few : levels < tightest) :
    Finds (binaryUpTo nested (levels + 1)) lexemes (Stops (Level.unary - (levels + 1)))
      (Matches expr) := by
  have level : Level.unary - (levels + 1) = Level.binary (tightest - levels) := by
    have := unary_sub few
    omega
  rw [level]
  refine Leads.finds h (fun _ stop => stop.mono ?_) operations_over
  rw [unary_sub few]
  exact Nat.le_succ _

/-- What leads to the operations of a level leads to those of any looser one. -/
theorem looser (h : LeadsLevel nested levels expr lexemes) {more : Nat} (le : levels ≤ more)
    (few : more < tightest) : LeadsLevel nested more expr lexemes := by
  induction le with
  | refl => exact h
  | step le ih => exact .of_operand ((ih (Nat.lt_of_succ_lt few)).finds (Nat.lt_of_succ_lt few))

end LeadsLevel

/-- **What is found of a writing** that may stand at a place: the levels that are as tight
as the place or looser find it. -/
structure Found (nested : Reader Expr) (place : Nat) (expr : Expr) (lexemes : List Lexeme) :
    Prop where
  chain : Level.chain ≤ place → Leads (chain nested) (links nested) anything expr lexemes
  postfixed : Level.update ≤ place →
    Finds (postfixed nested) lexemes (Stops Level.update) (Matches expr)
  unary : Level.unary ≤ place → ∀ turns, lexemes.length < turns →
    Finds (unaryUpTo nested turns) lexemes (Stops Level.unary) (Matches expr)
  binary : ∀ levels < tightest, Level.binary (tightest - levels) ≤ place →
    LeadsLevel nested levels expr lexemes
  ternary : Level.ternary ≤ place →
    Finds (ternary nested) lexemes (Stops Level.ternary) (Matches expr)
  assignment : Finds (assignment nested) lexemes (Stops Level.assignment) (Matches expr)

namespace Found

variable {nested : Reader Expr} {place : Nat} {expr : Expr} {lexemes : List Lexeme}

/-- The operands of a level are found. -/
theorem operand (h : Found nested place expr lexemes) {levels : Nat} (few : levels ≤ tightest)
    (admits : Level.unary - levels ≤ place) :
    Finds (binaryUpTo nested levels) lexemes (Stops (Level.unary - levels)) (Matches expr) := by
  cases levels with
  | zero => exact .budget fun turns enough => h.unary admits turns enough
  | succ levels =>
    refine (h.binary levels few ?_).finds few
    have := LeadsLevel.unary_sub few
    omega

/-- Fewer levels find what may stand at a looser place. -/
theorem loosen {looser : Nat} (h : Found nested place expr lexemes) (le : looser ≤ place) :
    Found nested looser expr lexemes where
  chain admits := h.chain (Nat.le_trans admits le)
  postfixed admits := h.postfixed (Nat.le_trans admits le)
  unary admits := h.unary (Nat.le_trans admits le)
  binary levels few admits := h.binary levels few (Nat.le_trans admits le)
  ternary admits := h.ternary (Nat.le_trans admits le)
  assignment := h.assignment

theorem of_assignment
    (h : Finds (Snippet.assignment nested) lexemes (Stops Level.assignment) (Matches expr)) :
    Found nested Level.assignment expr lexemes where
  chain admits := absurd admits (by decide)
  postfixed admits := absurd admits (by decide)
  unary admits := absurd admits (by decide)
  binary levels _ admits := by
    simp only [Level.binary, Level.assignment] at admits
    omega
  ternary admits := absurd admits (by decide)
  assignment := h

/-- A choice is found as an assignment without a target. -/
theorem of_ternary
    (h : Finds (Snippet.ternary nested) lexemes (Stops Level.ternary) (Matches expr)) :
    Found nested Level.ternary expr lexemes where
  chain admits := absurd admits (by decide)
  postfixed admits := absurd admits (by decide)
  unary admits := absurd admits (by decide)
  binary levels few admits := by
    simp only [Level.binary, Level.ternary, tightest] at few admits
    omega
  ternary _ := h
  assignment := by
    refine .last h (fun _ stop => stop.mono (by decide)) fun other same => ?_
    refine .peek fun lexeme stop => ?_
    have stop : Stops Level.ternary lexeme := stop.mono (by decide)
    rw [List.headD_nil, stop.not_assignment]
    exact .pure same

/-- An operation is found on every looser level, and as a choice without a test. -/
theorem of_binary {levels : Nat} (h : LeadsLevel nested levels expr lexemes)
    (few : levels < tightest) : Found nested (Level.binary (tightest - levels)) expr lexemes where
  chain admits := by
    simp only [Level.binary, Level.chain, tightest] at admits
    omega
  postfixed admits := by
    simp only [Level.binary, Level.update, tightest] at admits
    omega
  unary admits := by
    simp only [Level.binary, Level.unary, tightest] at admits
    omega
  binary more few' admits := by
    refine h.looser ?_ few'
    simp only [Level.binary] at admits
    omega
  ternary _ := ternary h
  assignment := (of_ternary (ternary h)).assignment
where
  ternary (h : LeadsLevel nested levels expr lexemes) :
      Finds (Snippet.ternary nested) lexemes (Stops Level.ternary) (Matches expr) := by
    have whole := (h.looser (Nat.le_sub_one_of_lt few) (by decide)).finds (by decide)
    exact (ternary_finds whole).followed fun _ stop => ⟨stop.mono (by decide), stop.not_question⟩

/-- An operand with the operators in front of it is found on every level of operations. -/
theorem of_unary
    (h : ∀ turns, lexemes.length < turns →
      Finds (unaryUpTo nested turns) lexemes (Stops Level.unary) (Matches expr)) :
    Found nested Level.unary expr lexemes := by
  have operand : Finds (binaryUpTo nested 0) lexemes (Stops Level.unary) (Matches expr) :=
    .budget h
  have operation := of_binary (LeadsLevel.of_operand operand) (by decide)
  exact {
    chain := fun admits => absurd admits (by decide)
    postfixed := fun admits => absurd admits (by decide)
    unary := fun _ => h
    binary := fun levels few _ => operation.binary levels few (by simp only [Level.binary]; omega)
    ternary := fun _ => operation.ternary (by decide)
    assignment := operation.assignment }

/-- What begins with no operator is found without one. -/
theorem of_update
    (opens : Opens Level.update lexemes)
    (h : Finds (Snippet.postfixed nested) lexemes (Stops Level.update) (Matches expr)) :
    Found nested Level.update expr lexemes := by
  have operand := of_unary fun turns enough => unaryUpTo_finds opens h enough
  exact {
    chain := fun admits => absurd admits (by decide)
    postfixed := fun _ => h
    unary := fun _ => operand.unary (Nat.le_refl _)
    binary := fun levels few _ => operand.binary levels few (by
      simp only [Level.binary, Level.unary, tightest]
      omega)
    ternary := fun _ => operand.ternary (by decide)
    assignment := operand.assignment }

/-- What has no link behind it is found without one, at any place. -/
theorem of_chain
    (opens : Opens Level.update lexemes)
    (h : Leads (Snippet.chain nested) (links nested) anything expr lexemes) :
    Found nested place expr lexemes := by
  have updated := of_update opens (postfixed_finds h)
  exact {
    chain := fun _ => h
    postfixed := fun _ => updated.postfixed (Nat.le_refl _)
    unary := fun _ => updated.unary (by decide)
    binary := fun levels few _ => updated.binary levels few (by
      simp only [Level.binary, Level.update, tightest]
      omega)
    ternary := fun _ => updated.ternary (by decide)
    assignment := updated.assignment }

theorem of_primary
    (opens : Opens Level.update lexemes)
    (h : Finds (primary nested) lexemes anything (Matches expr)) :
    Found nested place expr lexemes :=
  of_chain opens h.leads

/-- A link behind what is found is found with it. -/
theorem of_link {target : Expr} {before : List Lexeme}
    (receiver : Found nested Level.chain target before) (opens : Opens Level.chain before)
    (some' : lexemes ≠ [])
    (linked : ∀ other, Matches target other →
      Finds (link nested other) lexemes anything
        fun longer? => ∃ longer, longer? = some longer ∧ Matches expr longer) :
    Found nested place expr (before ++ lexemes) :=
  of_chain (opens.append (by decide)) ((receiver.chain (Nat.le_refl _)).link some' linked)

end Found

/-! ## Expressions -/

/-- **Step of nesting.**  If nested expressions are found up to a length, every writing one
lexeme longer is found, by recursion into the operands that stand at the same depth. -/
theorem Writes.found {nested : Reader Expr} {bound place : Nat} {expr : Expr}
    {lexemes : List Lexeme} (deep : ReadsNested nested bound)
    (written : Writes place expr lexemes) (short : lexemes.length ≤ bound + 1) :
    Found nested place expr lexemes := by
  have primary {expr : Expr} {lexemes : List Lexeme} (written : Writes Level.primary expr lexemes)
      (short : lexemes.length ≤ bound + 1) : Found nested place expr lexemes :=
    .of_primary (written.loosen (by decide)).opens (primary_finds deep written short)
  cases written with
  | number => exact primary .number short
  | string => exact primary .string short
  | boolean => exact primary .boolean short
  | null => exact primary .null short
  | undefined => exact primary .undefined short
  | this => exact primary .this short
  | identifier => exact primary .identifier short
  | grouped inner => exact primary (.grouped inner) short
  | array listed => exact primary (.array listed) short
  | object listed => exact primary (.object listed) short
  | member admits receiver named =>
    rw [List.length_append] at short
    have target := receiver.found deep (by omega)
    exact .of_link target receiver.opens (by simp) fun _ => member_finds named
  | computed admits receiver inner =>
    simp only [List.length_append, List.length_cons, List.length_nil] at short
    have target := receiver.found deep (by omega)
    exact .of_link target receiver.opens (by simp) fun _ =>
      computed_finds deep inner (by omega)
  | call admits receiver listed =>
    simp only [List.length_append, List.length_cons, List.length_nil] at short
    have target := receiver.found deep (by omega)
    exact .of_link target receiver.opens (by simp) fun _ =>
      call_finds deep listed (by omega)
  | update admits changed spells =>
    rw [List.length_append] at short
    have target := changed.found deep (by omega)
    refine Found.loosen (.of_update (changed.opens.append (by decide)) ?_) admits
    exact update_finds (target.chain (by decide)) spells
  | unary admits spells inner =>
    rw [List.length_cons] at short
    have operand := inner.found deep (by omega)
    refine Found.loosen (.of_unary fun turns enough => ?_) admits
    exact unaryUpTo_operator spells (operand.unary (Nat.le_refl _)) enough
  | @binary _ _ _ tightness _ _ _ _ _ admits spells before behind =>
    rw [List.length_append, List.length_cons] at short
    have left := before.found deep (by omega)
    have right := behind.found deep (by omega)
    obtain ⟨levels, few, rfl⟩ : ∃ levels < tightest, tightness = tightest - levels := by
      have bounds := BinaryOp.ofSymbol?_bounds spells
      refine ⟨tightest - tightness, ?_, ?_⟩ <;> omega
    have level := LeadsLevel.unary_sub few
    have operand := right.operand (Nat.le_of_lt few) (Nat.le_of_eq level)
    have leads := left.binary levels few (Nat.le_refl _)
    rw [LeadsLevel, level] at leads
    rw [level] at operand
    refine Found.loosen (.of_binary ?_ few) admits
    rw [LeadsLevel, level]
    exact leads.operation spells operand
  | ternary admits test chosen other =>
    simp only [List.length_append, List.length_cons] at short
    have condition := (test.found deep (by omega)).operand (Nat.le_refl _) (by decide)
    refine Found.loosen (.of_ternary ?_) admits
    exact ternary_choice deep condition chosen other (by rw [List.length_append]; omega)
  | assignment changed spells given =>
    rw [List.length_append, List.length_cons] at short
    have target := (changed.found deep (by omega)).operand (Nat.le_refl _) (by decide)
    refine .of_assignment ?_
    exact assignment_target deep target spells given (by omega)
termination_by lexemes.length

/-- **Nested expressions are found**, as deep as lexemes allow: by induction on the depth,
which the length of a writing bounds. -/
theorem expression_finds (depth : Nat) : ReadsNested (expression depth) depth := by
  induction depth with
  | zero =>
    intro expr lexemes written short
    exact absurd (List.length_eq_zero_iff.mp (Nat.le_zero.mp short)) written.ne_nil
  | succ depth ih => exact fun expr lexemes written short => (written.found ih short).assignment

/-! ## Expressions that stand alone -/

/-- Nothing but a semicolon may stand behind an expression, and then the end. -/
theorem finish_finds {lexemes : List Lexeme}
    (ends : lexemes = [] ∨ lexemes = [.symbol .semicolon]) :
    Finds finish lexemes (· = .finish) fun _ => True := by
  have ended {last : Lexeme → Reader Unit} (passes : last .finish = Pure.pure ()) :
      Finds (peek >>= last) [] (· = .finish) fun _ => True := by
    refine .peek fun lexeme same => ?_
    rw [List.headD_nil, same, passes]
    exact .pure trivial
  unfold finish
  obtain rfl | rfl := ends
  · refine .missing ?_ (ended rfl)
    rintro lexeme rfl
    simp
  · refine .eat (.peek fun lexeme same => ?_)
    rw [List.headD_nil, if_neg (not_not_intro same)]
    exact (ended rfl).followed fun _ again => again.trans same

/-- A writing of an expression that stands alone is found before the end. -/
theorem soleExpression_finds {expr : Expr} {lexemes : List Lexeme}
    (written : WritesSnippet expr lexemes) :
    Finds soleExpression lexemes (· = .finish) (Matches expr) := by
  obtain ⟨inner, ends, rfl, written, behind⟩ : ∃ inner ends, lexemes = inner ++ ends ∧
      Writes Level.assignment expr inner ∧ (ends = [] ∨ ends = [.symbol .semicolon]) := by
    cases written with
    | plain written => exact ⟨lexemes, [], by simp, written, .inl rfl⟩
    | semicolon written => exact ⟨_, _, rfl, written, .inr rfl⟩
  obtain ⟨first, rest, rfl, begins⟩ := written.opens
  rw [List.cons_append]
  refine .seen ?_
  rw [if_neg begins.ne_finish, ← List.cons_append]
  refine .budget fun turns enough => ?_
  rw [List.length_append] at enough
  refine .bind (expression_finds turns _ _ written (by omega)) ?_ fun other same => ?_
  · rintro lexeme rfl
    obtain rfl | rfl := behind <;> exact .of_none rfl
  · exact .last (finish_finds behind) (fun _ same => same) fun _ _ => .pure same

/-- **Every writing of an expression that stands alone is read as that expression**, but for
spans: with the end behind its tokens the reader returns, and returns it. -/
theorem soleExpression_complete {body : List Token} {stop : Token} {expr : Expr}
    (written : WritesSnippet expr (body.map (·.lexeme))) (last : stop.lexeme = .finish) :
    ∃ other, soleExpression.onTokens (body ++ [stop]) = .ok other ∧
      other.unspanned = expr.unspanned := by
  obtain ⟨other, after, ran, same⟩ := soleExpression_finds written body [stop] 0 rfl last
  refine ⟨other, ?_, same⟩
  rw [Reader.onTokens, ran]
  rfl

/-- `a - b - c` groups to the left. -/
theorem soleExpression_complete_left :
    ∃ other, soleExpression.onTokens
        ([⟨.identifier "a", ⟨0, 1⟩⟩, ⟨.symbol .minus, ⟨2, 3⟩⟩, ⟨.identifier "b", ⟨4, 5⟩⟩,
          ⟨.symbol .minus, ⟨6, 7⟩⟩, ⟨.identifier "c", ⟨8, 9⟩⟩] ++ [⟨.finish, ⟨9, 9⟩⟩]) = .ok other ∧
      other.unspanned = (Expr.binary default .sub
        (.binary default .sub (.identifier default "a") (.identifier default "b"))
        (.identifier default "c")).unspanned :=
  soleExpression_complete
    (.plain (.binary (by decide) rfl (.binary (by decide) rfl .identifier .identifier) .identifier))
    rfl

end ViewTemplate.Snippet
