import ViewTemplate.Proofs.Document.Tiling

/-!
# What readers recover from a text

A reader recovers something from a text if it returns it and stops where the text ends
and a given rest begins (`Recovers`).  The whole text that is left stands in the
statement, before the reader and behind it, so that a sequence of readers is followed
through the text part by part, and what a token asks of the characters behind it can be
read off.

The readers of tokens and values come first, and each is given the part of a writing that
it is meant for.  Positions are left open: a writing says nothing about them.

## Main Definitions

* `Recovers` — a reader goes from one text that is left to another
-/

namespace ViewTemplate.Document

open Template Text

variable {α β : Type} {input output rest : List Char}

/-- **What a reader recovers.**  Wherever it starts before a text, the reader stops before
another one, and what it returns is what was to be found. -/
def Recovers (reader : Reader α) (input output : List Char) (found : α → Prop) : Prop :=
  ∀ position, ∃ value after,
    (reader.run standard).run ⟨input, position⟩ = .ok (value, ⟨output, after⟩) ∧ found value

namespace Recovers

variable {found : α → Prop} {found' : β → Prop}

theorem pure {value : α} (h : found value) : Recovers (Pure.pure value) input input found :=
  fun position => ⟨value, position, rfl, h⟩

/-- **Sequences.**  What follows goes on where the first part stops. -/
theorem bind {middle : List Char} {reader : Reader α} {next : α → Reader β}
    (first : Recovers reader input middle found)
    (others : ∀ value, found value → Recovers (next value) middle output found') :
    Recovers (reader >>= next) input output found' := by
  intro position
  obtain ⟨value, between, ran, h⟩ := first position
  obtain ⟨result, after, ran', h'⟩ := others value h between
  refine ⟨result, after, ?_, h'⟩
  show ((reader.run standard).run ⟨input, position⟩).bind _ = _
  rw [ran]
  exact ran'

theorem mono {wider : α → Prop} {reader : Reader α} (h : Recovers reader input output found)
    (widen : ∀ value, found value → wider value) : Recovers reader input output wider := by
  intro position
  obtain ⟨value, after, ran, h⟩ := h position
  exact ⟨value, after, ran, widen value h⟩

theorem map {reader : Reader α} {change : α → β} (h : Recovers reader input output found)
    (others : ∀ value, found value → found' (change value)) :
    Recovers (change <$> reader) input output found' := by
  intro position
  obtain ⟨value, after, ran, h⟩ := h position
  refine ⟨change value, after, ?_, others value h⟩
  show ((reader.run standard).run ⟨input, position⟩).map _ = _
  rw [ran]
  rfl

/-! ### Looking -/

theorem place : Recovers Document.here input input fun _ => True :=
  fun position => ⟨position, position, rfl, trivial⟩

theorem here {next : Position → Reader β}
    (others : ∀ position, Recovers (next position) input output found') :
    Recovers (Document.here >>= next) input output found' :=
  fun position => others position position

theorem peek {next : Option Token → Reader β}
    (others : ∀ position, Recovers
      (next ((standard.scan input).map fun piece =>
        ⟨piece.kind, position, String.ofList piece.text, piece.tagName⟩)) input output found') :
    Recovers (Document.peek >>= next) input output found' :=
  fun position => others position position

/-- The kind of the next token is known. -/
theorem looks : Recovers Document.peekKind input input (· = firstKind input) := by
  refine .peek fun position => .pure ?_
  rw [firstKind, Option.map_map]
  rfl

theorem peekKind {next : Option TokenKind → Reader β}
    (others : Recovers (next (firstKind input)) input output found') :
    Recovers (Document.peekKind >>= next) input output found' :=
  looks.bind fun _ same => same ▸ others

/-- Whether the next token is of a kind is known too. -/
theorem looksFor (kind : TokenKind) :
    Recovers (Document.sees kind) input input (· = decide (firstKind input = some kind)) :=
  .peekKind (.pure rfl)

theorem sees {kind : TokenKind} {next : Bool → Reader β} (first : firstKind input = some kind)
    (others : Recovers (next true) input output found') :
    Recovers (Document.sees kind >>= next) input output found' :=
  (looksFor kind).bind fun _ same => by rwa [same, decide_eq_true first]

theorem misses {kind : TokenKind} {next : Bool → Reader β} (other : firstKind input ≠ some kind)
    (others : Recovers (next false) input output found') :
    Recovers (Document.sees kind >>= next) input output found' :=
  (looksFor kind).bind fun _ same => by rwa [same, decide_eq_false other]

theorem counts : Recovers Document.budget input input (· = input.length + 1) :=
  fun position => ⟨_, position, rfl, rfl⟩

theorem budget {next : Nat → Reader β}
    (others : Recovers (next (input.length + 1)) input output found') :
    Recovers (Document.budget >>= next) input output found' :=
  others

theorem settings {next : Lexicon → Reader β}
    (others : Recovers (next standard) input output found') :
    Recovers (read >>= next) input output found' :=
  others

theorem cursor {next : Template.Cursor → Reader β}
    (others : ∀ position, Recovers (next ⟨input, position⟩) input output found') :
    Recovers (get >>= next) input output found' :=
  fun position => others position position

/-- Going to another text without reading. -/
theorem moveTo {middle : List Char} {after : Position} {next : Unit → Reader β}
    (others : Recovers (next ()) middle output found') :
    Recovers (set (Cursor.mk middle after) >>= next) input output found' :=
  fun _ => others after

end Recovers

/-! ## Readers that come to others -/

/-- **What a reader comes to.**  From one text on it does what another reader does from a
later one.  That reader may depend on a value, of which something is known. -/
def LeadsTo (reader : Reader α) (input : List Char) (next : β → Reader α) (output : List Char)
    (given : β → Prop) : Prop :=
  ∀ position, ∃ value after, given value
    ∧ (reader.run standard).run ⟨input, position⟩
      = ((next value).run standard).run ⟨output, after⟩

namespace LeadsTo

variable {next : β → Reader α} {given : β → Prop} {found : α → Prop}

/-- A reader comes to itself. -/
theorem refl {reader : Reader α} (value : β) (h : given value) (same : reader = next value) :
    LeadsTo reader input next input given :=
  fun position => ⟨value, position, h, same ▸ rfl⟩

/-- **Sequences.**  A part that returns is passed. -/
theorem after {γ : Type} {found : γ → Prop} {middle : List Char} {first : Reader γ}
    {others : γ → Reader α} (recovers : Recovers first input middle found)
    (leads : ∀ value, found value → LeadsTo (others value) middle next output given) :
    LeadsTo (first >>= others) input next output given := by
  intro position
  obtain ⟨value, between, ran, h⟩ := recovers position
  obtain ⟨result, after, h', same⟩ := leads value h between
  refine ⟨result, after, h', ?_⟩
  show ((first.run standard).run ⟨input, position⟩).bind _ = _
  rw [ran]
  exact same

/-- What is read behind a reader is read behind the later one. -/
theorem followed {γ : Type} {reader : Reader α} {others : α → Reader γ}
    (leads : LeadsTo reader input next output given) :
    LeadsTo (reader >>= others) input (fun value => next value >>= others) output given := by
  intro position
  obtain ⟨value, after, h, same⟩ := leads position
  refine ⟨value, after, h, ?_⟩
  show ((reader.run standard).run ⟨input, position⟩).bind _
    = (((next value).run standard).run ⟨output, after⟩).bind _
  rw [same]

/-- The later reader may come to another one. -/
theorem trans {γ : Type} {reader : Reader α} {middle : List Char} {known : γ → Prop}
    {others : γ → Reader α} (leads : LeadsTo reader input others middle known)
    (further : ∀ value, known value → LeadsTo (others value) middle next output given) :
    LeadsTo reader input next output given := by
  intro position
  obtain ⟨value, between, h, same⟩ := leads position
  obtain ⟨result, after, h', same'⟩ := further value h between
  exact ⟨result, after, h', same.trans same'⟩

/-- What the later reader recovers, the first one does. -/
theorem recovers {reader : Reader α} (leads : LeadsTo reader input next output given)
    (others : ∀ value, given value → Recovers (next value) output rest found) :
    Recovers reader input rest found := by
  intro position
  obtain ⟨value, after, h, same⟩ := leads position
  rw [same]
  exact others value h after

end LeadsTo

/-! ## Single tokens -/

variable {piece : Piece}

theorem take_recovers (cuts : Cuts piece rest) :
    Recovers take (piece.text ++ rest) rest fun token =>
      token.kind = piece.kind ∧ token.text = String.ofList piece.text
        ∧ token.tagName = piece.tagName := by
  refine .peek fun start position => ?_
  rw [cuts, Option.map_some]
  let token : Token := ⟨piece.kind, start, String.ofList piece.text, piece.tagName⟩
  let cursor : Cursor := ⟨piece.text ++ rest, position⟩
  have left : (cursor.skipToken standard token).rest = rest := by
    show (piece.text ++ rest).drop (String.ofList piece.text).length = rest
    rw [String.length_ofList, List.drop_left]
  refine ⟨token, (cursor.skipToken standard token).position, ?_, rfl, rfl, rfl⟩
  exact congrArg (fun text =>
    Except.ok (token, Cursor.mk text (cursor.skipToken standard token).position)) left

theorem expect_recovers {kind : TokenKind} (cuts : Cuts piece rest) (same : piece.kind = kind) :
    Recovers (expect kind) (piece.text ++ rest) rest (·.tagName = piece.tagName) := by
  refine .bind (take_recovers cuts) fun token taken => ?_
  rw [if_pos (taken.1.trans same)]
  exact .pure taken.2.2

theorem eat_recovers {kind : TokenKind} (cuts : Cuts piece rest) (same : piece.kind = kind) :
    Recovers (eat kind) (piece.text ++ rest) rest (· = true) := by
  refine .sees (cuts.firstKind.trans (congrArg some same)) ?_
  exact .bind (take_recovers cuts) fun _ _ => .pure rfl

/-- A token of one character is taken. -/
theorem expect_mark {kind : TokenKind} {c : Char} (cuts : Cuts ⟨kind, [c], none⟩ rest) :
    Recovers (expect kind) (c :: rest) rest fun _ => True :=
  (expect_recovers cuts rfl).mono fun _ _ => trivial

theorem eat_mark {kind : TokenKind} {c : Char} (cuts : Cuts ⟨kind, [c], none⟩ rest) :
    Recovers (eat kind) (c :: rest) rest (· = true) :=
  eat_recovers cuts rfl

/-- A token of another kind is left. -/
theorem eat_leaves {kind : TokenKind} (other : firstKind input ≠ some kind) :
    Recovers (eat kind) input input (· = false) :=
  .misses other (.pure rfl)

theorem skipSpace_leaves (other : firstKind input ≠ some .whitespace) :
    Recovers skipSpace input input fun _ => True :=
  .bind (eat_leaves other) fun _ _ => .pure trivial

/-- All white space is taken. -/
theorem skipSpace_blanks {blanks : List Char} (all : ∀ c ∈ blanks, isSpace c = true)
    (stop : ∀ c ∈ rest.head?, isSpace c = false) (other : firstKind rest ≠ some .whitespace) :
    Recovers skipSpace (blanks ++ rest) rest fun _ => True := by
  by_cases none : blanks = []
  · rw [none]
    exact skipSpace_leaves other
  · exact .bind (eat_recovers (cuts_blanks none all stop) rfl) fun _ _ => .pure trivial

theorem skipSpace_recovers (count : Nat) (stop : ∀ c ∈ rest.head?, isSpace c = false)
    (other : firstKind rest ≠ some .whitespace) :
    Recovers skipSpace (List.replicate count ' ' ++ rest) rest fun _ => True :=
  skipSpace_blanks (fun _ mem => (List.mem_replicate.1 mem).2 ▸ rfl) stop other

/-! ## Runs of tokens -/

/-- **Every token of a text belongs**, wherever in it the token is cut. -/
def AllBelong (belongs : Token → Bool) (rest text : List Char) : Prop :=
  ∀ before piece behind position, text = before ++ (piece.text ++ behind) →
    Cuts piece (behind ++ rest) → belongs (piece.token position) = true

/-- A tiled text is taken token by token if its tokens belong and the one behind it does
not. -/
theorem textsWhile_recovers {belongs : Token → Bool} {text : List Char} (tiled : Tiled rest text)
    (inside : AllBelong belongs rest text)
    (stop : ∀ piece position, standard.scan rest = some piece →
      belongs (piece.token position) = false)
    {turns : Nat} (enough : text.length < turns) :
    Recovers (textsWhile belongs turns) (text ++ rest) rest fun pieces =>
      String.join pieces = String.ofList text := by
  induction tiled generalizing turns with
  | nil =>
    obtain ⟨turns, rfl⟩ := Nat.exists_eq_add_one_of_ne_zero (Nat.ne_zero_of_lt enough)
    refine .peek fun position => ?_
    rw [List.nil_append]
    cases found : standard.scan rest with
    | none => exact .pure rfl
    | some piece =>
      have other : belongs (piece.token position) = false := stop piece position found
      rw [Option.map_some]
      dsimp only
      rw [if_neg (Bool.eq_false_iff.1 other)]
      exact .pure rfl
  | @cons piece more cuts _ ih =>
    obtain ⟨turns, rfl⟩ := Nat.exists_eq_add_one_of_ne_zero (Nat.ne_zero_of_lt enough)
    have short : more.length < turns := by
      have some := List.length_pos_iff.2 (Lexicon.scan_covers standard_hasDelimiters cuts).nonempty
      rw [List.length_append] at enough
      omega
    have others : AllBelong belongs rest more := by
      rintro before other behind position rfl
      exact inside (piece.text ++ before) other behind position (by simp)
    refine .peek fun position => ?_
    have first : belongs (piece.token position) = true := inside [] piece more position rfl cuts
    rw [List.append_assoc, cuts, Option.map_some]
    dsimp only
    rw [if_pos first]
    refine .bind (take_recovers cuts) fun _ _ => ?_
    refine .bind (ih others short) fun pieces joined => .pure ?_
    rw [String.join_cons, joined, ← String.ofList_append]

theorem textWhile_recovers {belongs : Token → Bool} {text : List Char} (tiled : Tiled rest text)
    (inside : AllBelong belongs rest text)
    (stop : ∀ piece position, standard.scan rest = some piece →
      belongs (piece.token position) = false) :
    Recovers (textWhile belongs) (text ++ rest) rest (· = String.ofList text) := by
  refine .budget (.bind (textsWhile_recovers tiled inside stop ?_) fun _ joined => .pure joined)
  rw [List.length_append]
  omega

/-- The same where it is known of all suffixes of the text, and only kinds count. -/
theorem textWhile_recovers_of_covers {belongs : TokenKind → Bool} {text : List Char}
    (inside : ∀ front, front ≠ [] → front <:+ text → ∀ piece,
      standard.scan (front ++ rest) = some piece → piece.Covers front ∧ belongs piece.kind = true)
    (stop : ∀ kind ∈ firstKind rest, belongs kind = false) :
    Recovers (textWhile fun token => belongs token.kind) (text ++ rest) rest
      (· = String.ofList text) := by
  refine textWhile_recovers (.of_covers fun front nonempty within piece found => ?_) ?_ ?_
  · exact (inside front nonempty within piece found).1
  · rintro before piece behind position rfl cuts
    have some : piece.text ≠ [] := (Lexicon.scan_covers standard_hasDelimiters cuts).nonempty
    refine (inside (piece.text ++ behind) (by simp [some]) (List.suffix_append _ _) piece ?_).2
    rw [List.append_assoc]
    exact cuts
  · intro piece position found
    refine stop piece.kind ?_
    rw [firstKind, found]
    rfl

/-- A tiled text is taken up to what closes it, if that does not stand in it before. -/
theorem textUpTo_recovers {kind : TokenKind} {text closer : List Char}
    (fixed : standard.spelling? kind = some closer) (cuts : Cuts ⟨kind, closer, none⟩ rest)
    (tiled : Tiled (closer ++ rest) text) (absent : ¬ closer <:+: text) :
    Recovers (textUpTo kind) (text ++ (closer ++ rest)) rest (· = String.ofList text) := by
  refine .bind (@textWhile_recovers _ (·.kind != kind) _ tiled ?_ ?_) fun taken same => ?_
  · rintro before piece behind position rfl found
    refine bne_iff_ne.2 fun same => absent ?_
    have written : piece.text = closer :=
      (Lexicon.scan_spelled found).fixed closer (by rw [show piece.kind = kind from same, fixed]; rfl)
    rw [← written]
    exact List.infix_append before piece.text behind |>.trans (by rw [List.append_assoc])
  · intro piece position found
    obtain rfl := Option.some.inj (found.symm.trans cuts)
    exact bne_self_eq_false kind
  · subst same
    exact .bind (expect_recovers cuts rfl) fun _ _ => .pure rfl

/-! ## Values and snippets -/

/-- The quotes that values stand in. -/
inductive Quote where
  | double
  | single

namespace Quote

/-- The tokens that a quote makes up. -/
def kind : Quote → TokenKind
  | double => .doubleQuote
  | single => .singleQuote

/-- The character of a quote. -/
def character : Quote → Char
  | double => '"'
  | single => '\x27'

theorem cuts (quote : Quote) : Cuts ⟨quote.kind, [quote.character], none⟩ rest := by
  cases quote <;> rfl

theorem spelling (quote : Quote) : standard.spelling? quote.kind = some [quote.character] := by
  cases quote <;> rfl

theorem notSpace (quote : Quote) (rest : List Char) :
    ∀ c ∈ (quote.character :: rest).head?, isSpace c = false := by
  cases quote <;> (rintro _ ⟨⟩; rfl)

theorem recovers (quote : Quote) :
    Recovers expectQuote (quote.character :: rest) rest (· = quote.kind) := by
  have cuts : Cuts ⟨quote.kind, [quote.character], none⟩ rest := quote.cuts
  refine .bind (take_recovers cuts) fun token taken => ?_
  rw [taken.1]
  cases quote <;> exact .pure rfl

end Quote

theorem expectQuote_recovers : Recovers expectQuote ('"' :: rest) rest (· = .doubleQuote) :=
  Quote.double.recovers

/-- The start of a value: an equals sign and a double quote. -/
theorem Recovers.valueStart {next : TokenKind → Reader β} {found : β → Prop}
    (others : Recovers (next .doubleQuote) rest output found) :
    Recovers (skipSpace >>= fun _ => expect .equals >>= fun _ => skipSpace >>= fun _ =>
      expectQuote >>= next) ('=' :: '"' :: rest) output found := by
  refine .bind (skipSpace_leaves (cuts_equals.firstKind_ne (by decide))) fun _ _ => ?_
  refine .bind (expect_mark cuts_equals) fun _ _ => ?_
  refine .bind (skipSpace_leaves (cuts_doubleQuote.firstKind_ne (by decide))) fun _ _ => ?_
  refine .bind expectQuote_recovers fun _ same => ?_
  rwa [same]

/-- The raw text before a character that is not in it. -/
theorem rawUntil?_exact {value : List Char} {stop : Char} (outside : stop ∉ value)
    (rest : List Char) (position : Position) :
    ∃ after, Cursor.rawUntil? standard ⟨value ++ stop :: rest, position⟩ stop
      = some (String.ofList value, ⟨stop :: rest, after⟩) := by
  have raw : (value ++ stop :: rest).takeWhile (· != stop) = value := by
    refine takeWhile_exact (fun c mem => ?_) fun c first => ?_
    · exact bne_iff_ne.2 fun same => outside (same ▸ mem)
    · cases first
      simp
  refine ⟨(Cursor.skip standard ⟨value ++ stop :: rest, position⟩ value.length).position, ?_⟩
  rw [Cursor.rawUntil?, raw, if_pos (by simp), Cursor.skip]
  simp

/-- A value is taken as it is, up to the quote behind it. -/
theorem quotedValue_recovers {value : List Char} (noQuote : '"' ∉ value) :
    Recovers quotedValue (Writing.assigned value ++ rest) rest fun found =>
      found.text = String.ofList value := by
  have text : Writing.assigned value ++ rest = '=' :: '"' :: (value ++ '"' :: rest) := by
    simp [Writing.assigned]
  rw [text]
  refine .valueStart (.here fun place => .settings (.cursor fun position => ?_))
  obtain ⟨after, raw⟩ := rawUntil?_exact noQuote rest position
  rw [show quoteChar .doubleQuote = '"' from rfl, raw]
  refine .moveTo (.bind (expect_mark cuts_doubleQuote) fun _ _ => .pure rfl)

/-- A snippet that was read is captured with its text. -/
theorem captured_recovers {body : Type} {read : String → Except Snippet.Fault body}
    {source : String} {position : Position} {value : body} (accepted : read source = .ok value) :
    Recovers (captured (capture read source position)) input input
      (· = ⟨source, position, value⟩) := by
  rw [capture, accepted]
  exact .pure rfl

theorem blockExpression_recovers {handle : Expression} (legible : Node.Spellable.Legible handle) :
    Recovers blockExpression (Writing.assigned handle.source.toList ++ rest) rest
      (·.unplaced = handle.unplaced) := by
  obtain ⟨accepted, trimmed, noQuote, -⟩ := legible
  refine .bind (quotedValue_recovers noQuote) fun value text => ?_
  rw [text, String.ofList_toList, trimmed]
  exact (captured_recovers accepted).mono fun _ same => same ▸ rfl

theorem blockName_recovers {what name : String} (label : IsLabel name) :
    Recovers (blockName what) (Writing.assigned name.toList ++ rest) rest (· = name) := by
  refine .bind (quotedValue_recovers label.noQuote) fun value text => ?_
  rw [text, String.ofList_toList, label.trimmed]
  dsimp only
  rw [if_neg (by simpa using label.nonempty)]
  exact .pure rfl

/-! ## Names -/

/-- What stands behind a name in a list of names. -/
def EndsName (rest : List Char) : Prop :=
  ∃ d ∈ [',', ' ', '"'], ∃ more, rest = d :: more

namespace EndsName

theorem kind (ends : EndsName rest) : ∀ kind ∈ firstKind rest, continuesVariable kind = false := by
  obtain ⟨d, among, more, rfl⟩ := ends
  simp only [List.mem_cons, List.not_mem_nil, or_false] at among
  rcases among with rfl | rfl | rfl <;> (rintro _ ⟨⟩; rfl)

theorem apart {c : Char} (part : isNamePart c = true) (ends : EndsName rest) :
    ∀ d ∈ rest.head?, ¬ Joins c d := by
  have notSpace : isSpace c = false := isSpace_eq_false part (by decide)
  have notTag : c ≠ '<' := ne_of_class part rfl
  obtain ⟨d, among, more, rfl⟩ := ends
  rintro _ ⟨⟩
  simp only [List.mem_cons, List.not_mem_nil, or_false] at among
  rcases among with rfl | rfl | rfl <;>
    exact not_joins (by decide) (by simp [notSpace, notTag]) rfl rfl

theorem notLetter (ends : EndsName rest) : ∀ d ∈ rest.head?, isAsciiLetter d = false := by
  obtain ⟨d, among, more, rfl⟩ := ends
  rintro _ ⟨⟩
  simp only [List.mem_cons, List.not_mem_nil, or_false] at among
  rcases among with rfl | rfl | rfl <;> rfl

end EndsName

theorem ofWord?_eq_none {word : String} (other : word ∉ ["in", "of"]) :
    TokenKind.ofWord? word = none := by
  unfold TokenKind.ofWord?
  split
  · exact absurd (by simp) other
  · exact absurd (by simp) other
  · rfl

/-- The letters that a name begins with are a token of their own. -/
theorem cuts_leadingLetters {name : String} (some : name.toList.takeWhile isAsciiLetter ≠ [])
    (ends : EndsName rest) :
    Cuts ⟨(TokenKind.ofWord? (String.ofList (name.toList.takeWhile isAsciiLetter))).getD .letters,
      name.toList.takeWhile isAsciiLetter, none⟩ (name.toList.dropWhile isAsciiLetter ++ rest) := by
  refine cuts_letters some (fun c mem => List.all_eq_true.1 List.all_takeWhile c mem) ?_
  intro d first
  have other := List.head?_dropWhile_not isAsciiLetter name.toList
  cases left : name.toList.dropWhile isAsciiLetter with
  | nil =>
    rw [left] at first
    exact ends.notLetter d first
  | cons e more =>
    rw [left] at first other
    cases first
    simpa using other

/-- The first token of a name: a run of letters that is no word of loops, or a mark. -/
theorem firstToken_name {name : String} (named : IsVariable name) (ends : EndsName rest) :
    ∃ kind word more, name.toList = word ++ more ∧ startsVariable kind = true
      ∧ Cuts ⟨kind, word, none⟩ (more ++ rest) := by
  obtain ⟨c, others, same, start⟩ := named.start
  simp only [isNameStart, Bool.or_eq_true, beq_iff_eq] at start
  rcases start with (letter | rfl) | rfl
  · refine ⟨.letters, name.toList.takeWhile isAsciiLetter, name.toList.dropWhile isAsciiLetter,
      List.takeWhile_append_dropWhile.symm, rfl, ?_⟩
    have nonempty : name.toList.takeWhile isAsciiLetter ≠ [] := by
      rw [same, List.takeWhile_cons_of_pos letter]
      simp
    have cuts := cuts_leadingLetters nonempty ends
    rwa [ofWord?_eq_none named.noWord] at cuts
  · exact ⟨.underscore, ['_'], others, same, rfl, rfl⟩
  · exact ⟨.dollar, ['$'], others, same, rfl, rfl⟩

theorem variableName_recovers {name : String} (named : IsVariable name) (ends : EndsName rest) :
    Recovers variableName (name.toList ++ rest) rest (· = name) := by
  obtain ⟨kind, word, more, split, starts, cuts⟩ := firstToken_name named ends
  rw [split, List.append_assoc]
  refine .bind (take_recovers cuts) fun token taken => ?_
  rw [taken.1, taken.2.1, if_pos starts]
  refine .bind (textWhile_recovers_of_covers ?_ ends.kind) fun text same => .pure ?_
  · rintro front nonempty ⟨before, within⟩ piece found
    obtain ⟨c, front, rfl⟩ := List.exists_cons_of_ne_nil nonempty
    have parts (d : Char) (mem : d ∈ c :: front) : isNamePart d = true :=
      named.parts d (by simp [split, ← within, mem])
    have part : isNamePart c = true := parts c List.mem_cons_self
    constructor
    · refine scan_covers_front (absurd · (ne_of_class part rfl)) (fun after word => ?_)
        (ends.apart part) (absurd · (ne_of_class part rfl)) found
      exact absurd rfl (ne_of_class (parts '@' (word.subset List.mem_cons_self)) rfl)
    · obtain ⟨kind, first, continues⟩ := @firstKind_namePart c (front ++ rest) part
      have same : piece.kind = kind := by
        rw [firstKind, show standard.scan (c :: (front ++ rest)) = some piece from found] at first
        exact Option.some.inj first
      rw [same, continues]
  · rw [same, ← String.ofList_append, ← split, String.ofList_toList]

/-- White space ends before the characters of a name. -/
theorem skipSpace_parts {text : List Char} (some : text ≠ [])
    (parts : ∀ c ∈ text, isNamePart c = true) (count : Nat) (rest : List Char) :
    Recovers skipSpace (List.replicate count ' ' ++ (text ++ rest)) (text ++ rest)
      fun _ => True := by
  obtain ⟨c, others, rfl⟩ := List.exists_cons_of_ne_nil some
  have part : isNamePart c = true := parts c List.mem_cons_self
  refine skipSpace_recovers count ?_ ?_
  · rintro _ ⟨⟩
    exact isSpace_eq_false part (by decide)
  · obtain ⟨kind, first, continues⟩ := @firstKind_namePart c (others ++ rest) part
    refine firstKind_ne first ?_
    rintro rfl
    cases continues

/-- A name begins with no white space. -/
theorem skipSpace_name {name : String} (named : IsVariable name) (count : Nat)
    (rest : List Char) :
    Recovers skipSpace (List.replicate count ' ' ++ (name.toList ++ rest)) (name.toList ++ rest)
      fun _ => True := by
  obtain ⟨c, others, same, -⟩ := named.start
  exact skipSpace_parts (by simp [same]) named.parts count rest

/-- What follows a name in a list of names in quotes. -/
theorem endsName_following (gap : Nat) (names : List String) (rest : List Char) :
    EndsName (Writing.following gap names ++ '"' :: rest) := by
  cases names with
  | nil => exact ⟨'"', by simp, _, rfl⟩
  | cons name names => exact ⟨',', by simp, _, rfl⟩

/-- One more parameter of a print block. -/
theorem blockParameters_turn {names : List String} {name : String} {turns : Nat}
    {found : List String → Prop} (named : IsVariable name) (fresh : name ∉ names)
    (ends : EndsName rest)
    (others : Recovers (blockParameters .doubleQuote turns (names ++ [name])) rest output found) :
    Recovers (do
        let position ← here
        let name ← variableName
        if names.contains name then
          failAt position (.duplicateArgument name)
        else
          blockParameters .doubleQuote turns (names ++ [name]))
      (name.toList ++ rest) output found := by
  refine .here fun _ => .bind (variableName_recovers named ends) fun _ same => ?_
  subst same
  rw [if_neg (by simpa using fresh)]
  exact others

theorem blockParameters_following {gap turns : Nat} {names more : List String}
    (begun : names ≠ []) (distinct : (names ++ more).Nodup)
    (named : ∀ name ∈ more, IsVariable name) (enough : more.length < turns) :
    Recovers (blockParameters .doubleQuote turns names)
      (Writing.following gap more ++ '"' :: rest) rest (· = names ++ more) := by
  induction more generalizing names turns with
  | nil =>
    obtain ⟨turns, rfl⟩ := Nat.exists_eq_add_one_of_ne_zero (Nat.ne_zero_of_lt enough)
    refine .bind (skipSpace_leaves (cuts_doubleQuote.firstKind_ne (by decide)))
      fun _ _ => ?_
    refine .bind (eat_mark cuts_doubleQuote) fun _ same => ?_
    subst same
    exact .pure (List.append_nil names).symm
  | cons name more ih =>
    obtain ⟨turns, rfl⟩ := Nat.exists_eq_add_one_of_ne_zero (Nat.ne_zero_of_lt enough)
    obtain ⟨first, others⟩ := List.forall_mem_cons.1 named
    have fresh : name ∉ names := fun mem =>
      List.disjoint_of_nodup_append distinct mem List.mem_cons_self
    have text : Writing.following gap (name :: more) ++ '"' :: rest
        = ',' :: (List.replicate gap ' '
          ++ (name.toList ++ (Writing.following gap more ++ '"' :: rest))) := by
      simp [Writing.following]
    have whole : names ++ name :: more = (names ++ [name]) ++ more := by simp
    rw [text, whole]
    rw [whole] at distinct
    refine .bind (skipSpace_leaves (cuts_comma.firstKind_ne (by decide))) fun _ _ => ?_
    refine .bind (eat_leaves (cuts_comma.firstKind_ne (by decide))) fun _ same => ?_
    subst same
    rw [if_neg Bool.false_ne_true, if_pos (by simpa using begun)]
    refine .bind (expect_mark cuts_comma) fun _ _ => ?_
    refine .bind (skipSpace_name first gap _) fun _ _ => ?_
    exact blockParameters_turn first fresh (endsName_following gap more rest)
      (ih (by simp) distinct others (Nat.lt_of_succ_lt_succ enough))

/-- The parameters of a print block, up to the quote behind them. -/
theorem blockParameters_recovers {gap turns : Nat} {names : List String} (some : names ≠ [])
    (distinct : names.Nodup) (named : ∀ name ∈ names, IsVariable name)
    (enough : names.length < turns) :
    Recovers (blockParameters .doubleQuote turns [])
      (Writing.listed gap names ++ '"' :: rest) rest (· = names) := by
  obtain ⟨name, more, rfl⟩ := List.exists_cons_of_ne_nil some
  obtain ⟨turns, rfl⟩ := Nat.exists_eq_add_one_of_ne_zero (Nat.ne_zero_of_lt enough)
  obtain ⟨first, others⟩ := List.forall_mem_cons.1 named
  have notQuote : firstKind (name.toList ++ (Writing.following gap more ++ '"' :: rest))
      ≠ Option.some .doubleQuote := by
    obtain ⟨kind, word, behind, split, starts, cuts⟩ :=
      firstToken_name first (endsName_following gap more rest)
    rw [split, List.append_assoc]
    refine cuts.firstKind_ne ?_
    rintro rfl
    cases starts
  rw [Writing.listed, List.append_assoc]
  refine .bind (skipSpace_name first 0 _) fun _ _ => ?_
  refine .bind (eat_leaves notQuote) fun _ same => ?_
  subst same
  rw [if_neg Bool.false_ne_true, if_neg (by simp)]
  exact blockParameters_turn first (by simp) (endsName_following gap more rest)
    (blockParameters_following (by simp) distinct others (Nat.lt_of_succ_lt_succ enough))

/-- A list has a character for each of its names, but perhaps the first. -/
theorem length_listed (gap : Nat) (names : List String) :
    names.length ≤ (Writing.listed gap names).length + 1 := by
  have more (names : List String) : names.length ≤ (Writing.following gap names).length := by
    induction names with
    | nil => simp
    | cons name names ih =>
      rw [Writing.following] at ih ⊢
      rw [List.flatMap_cons, List.length_append, List.length_cons, List.length_cons]
      omega
  cases names with
  | nil => simp
  | cons name names =>
    have enough := more names
    rw [Writing.listed, List.length_append, List.length_cons]
    omega

/-- The word `@block` with the parameters of a print block. -/
theorem parameterList_recovers {gap : Nat} {names : List String} (some : names ≠ [])
    (distinct : names.Nodup) (named : ∀ name ∈ names, IsVariable name)
    (other : firstKind rest ≠ Option.some .whitespace) :
    Recovers parameterList
      ('@' :: ("block".toList ++ (Writing.assigned (Writing.listed gap names) ++ rest))) rest
      (· = names) := by
  have text : Writing.assigned (Writing.listed gap names) ++ rest
      = '=' :: '"' :: (Writing.listed gap names ++ '"' :: rest) := by
    simp [Writing.assigned]
  rw [text]
  refine .bind (expect_recovers cuts_block rfl) fun _ _ => ?_
  refine .valueStart (.budget ?_)
  refine .bind (blockParameters_recovers some distinct named ?_) fun _ same => ?_
  · have enough := length_listed gap names
    rw [List.length_append, List.length_cons]
    omega
  · subst same
    rw [if_neg (by simpa using some)]
    exact .bind (skipSpace_leaves other) fun _ _ => .pure rfl

/-! ## Loops over collections -/

/-- One more name of a loop. -/
theorem loopNames_turn {names : List String} {name : String} {turns : Nat}
    {found : List String → Prop} (named : IsVariable name) (fresh : name ∉ names)
    (few : names.length < 2) (ends : EndsName rest)
    (others : Recovers (do
        skipSpace
        if ← sees .comma then
          loopNames turns (names ++ [name])
        else
          return names ++ [name]) rest output found) :
    Recovers (do
        let position ← here
        let name ← variableName
        if names.contains name then
          failAt position (.duplicateIdentifier name)
        else if names.length = 2 then
          failAt position .tooManyIdentifiers
        else
          skipSpace
          if ← sees .comma then
            loopNames turns (names ++ [name])
          else
            return names ++ [name])
      (name.toList ++ rest) output found := by
  refine .here fun _ => .bind (variableName_recovers named ends) fun _ same => ?_
  subst same
  rw [if_neg (by simpa using fresh), if_neg (Nat.ne_of_lt few)]
  exact others

/-- The word of a loop before a space. -/
theorem cuts_loopWord (word : LoopWord) (rest : List Char) :
    ∃ kind, (kind = .inKeyword ∨ kind = .ofKeyword)
      ∧ Cuts ⟨kind, word.characters, none⟩ (' ' :: rest) := by
  cases word with
  | inWord => exact ⟨.inKeyword, .inl rfl, rfl⟩
  | ofWord => exact ⟨.ofKeyword, .inr rfl, rfl⟩

/-- Behind the last name of a loop stands a space, and then the word of the loop. -/
theorem loopNames_end {turns : Nat} {names : List String} (word : LoopWord) :
    Recovers (do
        skipSpace
        if ← sees .comma then
          loopNames turns names
        else
          return names)
      (' ' :: (word.characters ++ ' ' :: rest)) (word.characters ++ ' ' :: rest) (· = names) := by
  obtain ⟨kind, among, cuts⟩ := cuts_loopWord word rest
  have other (kind' : TokenKind) (ne : kind' ≠ .inKeyword ∧ kind' ≠ .ofKeyword) :
      firstKind (word.characters ++ ' ' :: rest) ≠ some kind' := by
    refine cuts.firstKind_ne ?_
    rintro rfl
    exact among.elim ne.1 ne.2
  have stop : ∀ c ∈ (word.characters ++ ' ' :: rest).head?, isSpace c = false := by
    cases word <;> (rintro _ ⟨⟩; rfl)
  refine .bind (skipSpace_recovers 1 stop (other _ (by decide))) fun _ _ => ?_
  exact .misses (other _ (by decide)) (.pure rfl)

/-- The names of a loop, up to the word behind them. -/
theorem loopNames_recovers {gap turns : Nat} {names : List String} (word : LoopWord)
    (few : names.length = 1 ∨ names.length = 2) (distinct : names.Nodup)
    (named : ∀ name ∈ names, IsVariable name) (enough : names.length ≤ turns) :
    Recovers (loopNames turns [])
      (Writing.listed gap names ++ ' ' :: (word.characters ++ ' ' :: rest))
      (word.characters ++ ' ' :: rest) (· = names) := by
  obtain ⟨turns, rfl⟩ : ∃ more, turns = more + 1 :=
    Nat.exists_eq_add_one_of_ne_zero (by omega)
  match names, few with
  | [name], _ =>
    obtain ⟨first, -⟩ := List.forall_mem_cons.1 named
    have ends : EndsName (' ' :: (word.characters ++ ' ' :: rest)) := ⟨' ', by simp, _, rfl⟩
    rw [Writing.listed, Writing.following, List.flatMap_nil, List.append_nil]
    rw [loopNames, if_neg (by simp)]
    refine .bind (skipSpace_name first 0 _) fun _ _ => ?_
    exact loopNames_turn first (by simp) (by simp) ends (loopNames_end word)
  | [name, other], _ =>
    obtain ⟨turns, rfl⟩ : ∃ more, turns = more + 1 :=
      Nat.exists_eq_add_one_of_ne_zero (by simp at enough; omega)
    obtain ⟨first, more⟩ := List.forall_mem_cons.1 named
    obtain ⟨second, -⟩ := List.forall_mem_cons.1 more
    have fresh : other ∉ [name] := by
      simp only [List.nodup_cons, List.mem_singleton] at distinct ⊢
      exact Ne.symm distinct.1
    have text : Writing.listed gap [name, other] ++ ' ' :: (word.characters ++ ' ' :: rest)
        = name.toList ++ ',' :: (List.replicate gap ' '
          ++ (other.toList ++ ' ' :: (word.characters ++ ' ' :: rest))) := by
      simp [Writing.listed, Writing.following]
    rw [text]
    rw [loopNames, if_neg (by simp)]
    refine .bind (skipSpace_name first 0 _) fun _ _ => ?_
    refine loopNames_turn first (by simp) (by simp) ⟨',', by simp, _, rfl⟩ ?_
    refine .bind (skipSpace_leaves (cuts_comma.firstKind_ne (by decide))) fun _ _ => ?_
    refine .sees cuts_comma.firstKind ?_
    rw [if_pos rfl, loopNames, if_pos (by simp)]
    refine .bind (expect_mark cuts_comma) fun _ _ => ?_
    refine .bind (skipSpace_name second gap _) fun _ _ => ?_
    exact loopNames_turn second fresh (by simp) ⟨' ', by simp, _, rfl⟩ (loopNames_end word)

/-- A text without quotes does not begin with white space once that is skipped. -/
theorem skipSpace_collection (quote : Quote) {text : List Char} :
    Recovers skipSpace (' ' :: (text ++ quote.character :: rest))
      (text.dropWhile isSpace ++ quote.character :: rest) fun _ => True := by
  have split : ' ' :: (text ++ quote.character :: rest)
      = (' ' :: text.takeWhile isSpace)
        ++ (text.dropWhile isSpace ++ quote.character :: rest) := by
    rw [List.cons_append, ← List.append_assoc, List.takeWhile_append_dropWhile]
  have stop : ∀ c ∈ (text.dropWhile isSpace ++ quote.character :: rest).head?,
      isSpace c = false := by
    have other := List.head?_dropWhile_not isSpace text
    cases left : text.dropWhile isSpace with
    | nil => exact quote.notSpace rest
    | cons c more =>
      rw [left] at other
      rintro _ ⟨⟩
      simpa using other
  rw [split]
  refine skipSpace_blanks (List.forall_mem_cons.2 ⟨rfl, fun c mem => ?_⟩) stop ?_
  · exact List.all_eq_true.1 List.all_takeWhile c mem
  · cases left : text.dropWhile isSpace ++ quote.character :: rest with
    | nil => exact nofun
    | cons c more => exact firstKind_ne_whitespace (stop c (by rw [left]; rfl)) more

/-- The collection of a loop, up to the quote behind it. -/
theorem collection_recovers (quote : Quote) {text : List Char} (noQuote : quote.character ∉ text)
    (tiled : Tiled (quote.character :: rest) text) :
    Recovers (textUpTo quote.kind) (text.dropWhile isSpace ++ quote.character :: rest) rest
      (· = String.ofList (text.dropWhile isSpace)) := by
  have absent : ¬ [quote.character] <:+: text.dropWhile isSpace := fun within =>
    noQuote ((within.trans (List.dropWhile_suffix _).isInfix).subset List.mem_cons_self)
  have whole : Tiled ([quote.character] ++ rest) (text.dropWhile isSpace) :=
    (Tiled.dropSpaces_iff (quote.notSpace rest)).2 tiled
  have taken : Recovers (textUpTo quote.kind)
      (text.dropWhile isSpace ++ ([quote.character] ++ rest)) rest
      (· = String.ofList (text.dropWhile isSpace)) :=
    textUpTo_recovers quote.spelling quote.cuts whole absent
  exact taken

/-- White space in front of a text is among the blanks that are dropped from it. -/
theorem trim_dropSpaces (text : List Char) :
    trim (String.ofList (text.dropWhile isSpace)) = trim (String.ofList text) := by
  have dropped : dropBlanks (text.dropWhile isSpace) = dropBlanks text := by
    induction text with
    | nil => rfl
    | cons c rest ih =>
      by_cases space : isSpace c = true
      · rw [List.dropWhile_cons_of_pos space, ih, dropBlanks, dropBlanks,
          List.dropWhile_cons_of_pos (isBlank_of_isSpace space)]
      · rw [List.dropWhile_cons_of_neg space]
  rw [trim, trim, String.toList_ofList, String.toList_ofList, trimChars, trimChars, dropped]

/-- A text in which every tag ends is tiled before a quote. -/
theorem Tiled.of_trailing {text : String} (trailing : Trailing text) :
    Tiled ('"' :: rest) text.toList :=
  .of_ends trailing.tagsEnd (.inl rfl) (fun _ => not_joins (by decide) (fun _ => rfl) rfl rfl)
    fun _ => by decide

theorem loopWord_recovers (word : LoopWord) :
    Recovers loopWord (word.characters ++ ' ' :: rest) (' ' :: rest) fun _ => True := by
  obtain ⟨kind, among, cuts⟩ := cuts_loopWord word rest
  refine .bind (take_recovers cuts) fun token taken => ?_
  rw [if_pos (by rw [taken.1]; exact among)]
  exact .pure trivial

/-! ## Embedded snippets -/

/-- The text of an embedded snippet, up to the delimiter behind it. -/
theorem spanText_recovers {text : String} (tiled : Tiled ('%' :: '\x7d' :: rest) text.toList)
    (absent : ¬ ['%', '\x7d'] <:+: text.toList) :
    Recovers spanText (text.toList ++ '%' :: '\x7d' :: rest) rest (·.1 = text) := by
  have taken : Recovers (textUpTo .expressionEnd) (text.toList ++ (['%', '\x7d'] ++ rest)) rest
      (· = String.ofList text.toList) :=
    textUpTo_recovers rfl cuts_printEnd tiled absent
  refine .here fun _ => .bind taken fun _ same => .pure ?_
  rw [same, String.ofList_toList]

/-- A text in which every tag and keyword ends is tiled before the delimiter. -/
theorem Tiled.of_spannable {text : String} (spannable : Spannable text)
    (closed : text.toList.getLast? ≠ some '\x7b') :
    Tiled ('%' :: '\x7d' :: rest) text.toList :=
  .of_ends spannable.tagsEnd (.inr spannable.wordsEnd)
    (fun _ => not_joins (by decide) (fun _ => rfl) rfl rfl) (absurd · closed)

end ViewTemplate.Document
