import Mathlib.Data.List.TakeWhile
import Mathlib.Tactic.SplitIfs
import ViewTemplate.Proofs.Snippet.Completeness
import ViewTemplate.Proofs.Snippet.Ending

/-!
# Blanks around a snippet

A snippet is read alike with the blanks at its ends and without them.

In front of a lexeme blanks are dropped before it is looked at.  Behind a snippet they
have to be kept apart from its last lexeme: no lexeme goes on with a blank, but for a
string, and a string that is closed ends with its quote.  So the scanner finds the same
in a text and in the text with blanks behind it (`scan_before`), lexeme by lexeme
(`Lexed.before`), and what is read depends on the lexemes alone, up to spans.

## Main Results

* `tokenize_trim` — the lexemes of a trimmed snippet
* `readExpression_trim` — the expression that it holds

-/

namespace ViewTemplate.Snippet

open ViewTemplate.Text ViewTemplate.Number

variable {text rest blanks : List Char} {lexeme : Lexeme}

/-! ## Blanks are of no other class -/

/-- The code points of blanks. -/
def blankCodes : List Nat :=
  [9, 10, 11, 12, 13, 0x20, 0x85, 0xA0, 0x1680, 0x2000, 0x2001, 0x2002, 0x2003, 0x2004, 0x2005,
    0x2006, 0x2007, 0x2008, 0x2009, 0x200A, 0x2028, 0x2029, 0x202F, 0x205F, 0x3000]

theorem mem_blankCodes {c : Char} (blank : isBlank c = true) : c.toNat ∈ blankCodes := by
  simp only [isBlank, Bool.or_eq_true, Bool.and_eq_true, decide_eq_true_eq, beq_iff_eq] at blank
  simp only [blankCodes, List.mem_cons, List.not_mem_nil, or_false]
  omega

/-- A class that no blank belongs to. -/
def ExcludesBlanks (belongs : Char → Bool) : Prop :=
  ∀ c, isBlank c = true → belongs c = false

/-- Whether a class holds a blank is decided by its code points. -/
theorem excludesBlanks_of_all {belongs : Char → Bool}
    (all : (blankCodes.all fun code => !belongs (Char.ofNat code)) = true) :
    ExcludesBlanks belongs := by
  intro c blank
  have other := List.all_eq_true.1 all _ (mem_blankCodes blank)
  rw [Char.ofNat_toNat] at other
  simpa using other

theorem isWordPart_excludesBlanks : ExcludesBlanks isWordPart :=
  excludesBlanks_of_all (by decide +kernel)

theorem isNumberPart_excludesBlanks : ExcludesBlanks isNumberPart :=
  excludesBlanks_of_all (by decide +kernel)

theorem isAsciiDigit_excludesBlanks : ExcludesBlanks isAsciiDigit :=
  excludesBlanks_of_all (by decide +kernel)

namespace ExcludesBlanks

variable {belongs : Char → Bool}

/-- A run of a class does not reach into blanks behind a text. -/
theorem takeWhile_append (excludes : ExcludesBlanks belongs) (text : List Char)
    (blank : ∀ c ∈ blanks, isBlank c = true) :
    (text ++ blanks).takeWhile belongs = text.takeWhile belongs := by
  induction text with
  | nil =>
    cases blanks with
    | nil => rfl
    | cons c more =>
      exact List.takeWhile_cons_of_neg (by simp [excludes c (blank c List.mem_cons_self)])
  | cons c text ih =>
    rw [List.cons_append, List.takeWhile_cons, List.takeWhile_cons, ih]

theorem dropWhile_append (excludes : ExcludesBlanks belongs) (text : List Char)
    (blank : ∀ c ∈ blanks, isBlank c = true) :
    (text ++ blanks).dropWhile belongs = text.dropWhile belongs ++ blanks := by
  have split : (text ++ blanks).takeWhile belongs ++ (text ++ blanks).dropWhile belongs
      = text.takeWhile belongs ++ (text.dropWhile belongs ++ blanks) := by
    rw [List.takeWhile_append_dropWhile, ← List.append_assoc, List.takeWhile_append_dropWhile]
  rw [excludes.takeWhile_append text blank] at split
  exact List.append_cancel_left split

end ExcludesBlanks

theorem startsWithDigit_append (text : List Char) (blank : ∀ c ∈ blanks, isBlank c = true) :
    startsWithDigit (text ++ blanks) = startsWithDigit text := by
  cases text with
  | cons c text => rfl
  | nil =>
    cases blanks with
    | nil => rfl
    | cons c more => exact isAsciiDigit_excludesBlanks c (blank c List.mem_cons_self)

/-! ## Lexemes before blanks -/

/-- A mark behind which no digit stands starts no exponent. -/
theorem exponentPart_append (text : List Char) (blank : ∀ c ∈ blanks, isBlank c = true) :
    exponentPart (text ++ blanks) = exponentPart text := by
  have digits (text : List Char) := isAsciiDigit_excludesBlanks.takeWhile_append text blank
  match text with
  | mark :: sign :: text =>
    have later := digits (sign :: text)
    rw [List.cons_append] at later
    simp only [List.cons_append, exponentPart, digits, later]
  | [mark] =>
    cases blanks with
    | nil => rfl
    | cons c more =>
      have first := blank c List.mem_cons_self
      have none : (c :: more).takeWhile isAsciiDigit = [] := digits []
      have notSign : ¬ (c = '+' ∨ c = '-') := by
        rintro (rfl | rfl) <;> cases first
      simp only [List.singleton_append, exponentPart, if_neg notSign, none]
      split <;> rfl
  | [] =>
    cases blanks with
    | nil => rfl
    | cons c more =>
      have notMark : ¬ (c = 'e' ∨ c = 'E') := by
        rintro (rfl | rfl) <;> cases blank _ List.mem_cons_self
      cases more with
      | nil => rfl
      | cons d more => simp only [List.nil_append, exponentPart, if_neg notMark]

/-- No number goes on with blanks. -/
theorem spelledNumber_append (text : List Char) (blank : ∀ c ∈ blanks, isBlank c = true) :
    spelledNumber (text ++ blanks) = spelledNumber text := by
  rw [spelledNumber, isNumberPart_excludesBlanks.takeWhile_append text blank,
    isNumberPart_excludesBlanks.dropWhile_append text blank, exponentPart_append _ blank]
  rfl

/-- **A lexeme that is found before blanks** is found without them. -/
def FoundBefore (blanks : List Char) (scanned before : Scanned) : Prop :=
  ∀ lexeme rest, before = (.ok lexeme, rest) →
    ∃ others, rest = others ++ blanks ∧ scanned = (.ok lexeme, others)

theorem scanNumber_before (text : List Char) (blank : ∀ c ∈ blanks, isBlank c = true) :
    FoundBefore blanks (scanNumber text) (scanNumber (text ++ blanks)) := by
  intro lexeme rest found
  have start := (spelledNumber_starts text).length_le
  rw [scanNumber_eq, spelledNumber_append text blank] at found
  rw [scanNumber_eq]
  cases read : readUnsigned? (spelledNumber text) with
  | none =>
    rw [read] at found
    cases found
  | some value =>
    rw [read] at found
    cases found
    exact ⟨_, List.drop_append_of_le_length start, rfl⟩

/-- A string that is closed before blanks is closed by its own quote. -/
theorem scanString_before {quote : Char} (value text : List Char) (notBlank : isBlank quote = false)
    (blank : ∀ c ∈ blanks, isBlank c = true) :
    FoundBefore blanks (scanString quote value text) (scanString quote value (text ++ blanks)) := by
  intro lexeme rest
  have unclosed (value : List Char) (lexeme : Lexeme) (rest : List Char) :
      scanString quote value blanks ≠ (.ok lexeme, rest) := by
    intro found
    obtain ⟨⟨inside, same, -⟩, -⟩ := scanString_split found
    have inner := blank quote (same ▸ List.mem_append_right _ List.mem_cons_self)
    rw [notBlank] at inner
    cases inner
  induction value, text using scanString.induct quote with
  | case1 value => exact fun found => absurd found (unclosed value lexeme rest)
  | case2 value text =>
    intro found
    rw [List.cons_append, scanString_quote] at found
    cases found
    exact ⟨text, rfl, scanString_quote text⟩
  | case3 value other =>
    intro found
    -- Behind the backslash stands a blank, and no quote behind that.
    cases blanks with
    | nil =>
      rw [List.append_nil, scanString, if_neg other, if_pos rfl] at found
      cases found
    | cons c more =>
      rw [List.singleton_append, scanString_escape other] at found
      obtain ⟨⟨inside, same, -⟩, -⟩ := scanString_split found
      have inner := blank quote (same ▸ by simp)
      rw [notBlank] at inner
      cases inner
  | case4 value d text other ih =>
    intro found
    rw [List.cons_append, List.cons_append, scanString_escape other] at found
    rw [scanString_escape other]
    exact ih found
  | case5 value c text other plain ih =>
    intro found
    rw [List.cons_append, scanString_plain other plain] at found
    rw [scanString_plain other plain]
    exact ih found

theorem scanWord_before (text : List Char) (blank : ∀ c ∈ blanks, isBlank c = true) :
    FoundBefore blanks (scanWord text) (scanWord (text ++ blanks)) := by
  intro lexeme rest found
  rw [scanWord, isWordPart_excludesBlanks.takeWhile_append text blank,
    isWordPart_excludesBlanks.dropWhile_append text blank] at found
  cases found
  exact ⟨_, rfl, rfl⟩

/-- A spelling without blanks that stands before blanks stands in the text. -/
theorem after?_append {spelling : List Char} (plain : ∀ c ∈ spelling, isBlank c = false)
    (text : List Char) (blank : ∀ c ∈ blanks, isBlank c = true) :
    after? spelling (text ++ blanks) = (after? spelling text).map (· ++ blanks) := by
  induction spelling generalizing text with
  | nil => simp
  | cons s spelling ih =>
    cases text with
    | nil =>
      cases blanks with
      | nil => rfl
      | cons c more =>
        have other : s ≠ c := by
          rintro rfl
          have inner := blank s List.mem_cons_self
          rw [plain s List.mem_cons_self] at inner
          cases inner
        exact if_neg other
    | cons c text =>
      rw [List.cons_append, after?, after?]
      split_ifs
      · exact ih (fun d mem => plain d (List.mem_cons_of_mem s mem)) text
      · rfl

theorem symbolFrom_append {table : List (List Char × Symbol)}
    (plain : ∀ entry ∈ table, ∀ c ∈ entry.1, isBlank c = false) (text : List Char)
    (blank : ∀ c ∈ blanks, isBlank c = true) :
    symbolFrom (text ++ blanks) table
      = (symbolFrom text table).map fun found => (found.1, found.2 ++ blanks) := by
  induction table with
  | nil => rfl
  | cons entry others ih =>
    obtain ⟨spelling, symbol⟩ := entry
    obtain ⟨first, later⟩ := List.forall_mem_cons.1 plain
    rw [symbolFrom, symbolFrom, after?_append first text blank]
    cases after? spelling text with
    | none => exact ih later
    | some rest =>
      rw [Option.map_some]
      dsimp only
      rw [startsWithDigit_append rest blank]
      split_ifs
      · exact ih later
      · rfl

theorem scanSymbol_before (c : Char) (text : List Char) (blank : ∀ c ∈ blanks, isBlank c = true) :
    FoundBefore blanks (scanSymbol c text) (scanSymbol c (text ++ blanks)) := by
  intro lexeme rest found
  have all : Symbol.spellings.all (fun entry => entry.1.all (!isBlank ·)) = true := by rfl
  have plain : ∀ entry ∈ Symbol.spellings, ∀ c ∈ entry.1, isBlank c = false := by
    intro entry mem c inside
    have each := List.all_eq_true.1 (List.all_eq_true.1 all entry mem) c inside
    rwa [Bool.not_eq_eq_eq_not] at each
  rw [scanSymbol, ← List.cons_append, symbolFrom_append plain _ blank] at found
  rw [scanSymbol]
  cases same : symbolFrom (c :: text) Symbol.spellings with
  | none =>
    rw [same] at found
    cases found
  | some symbol =>
    rw [same] at found
    cases found
    exact ⟨_, rfl, rfl⟩

/-- **A lexeme is found in a text** if it is found with blanks behind the text. -/
theorem scan_before (nonempty : text ≠ []) (blank : ∀ c ∈ blanks, isBlank c = true) :
    FoundBefore blanks (scan text) (scan (text ++ blanks)) := by
  obtain ⟨c, text, rfl⟩ := List.exists_cons_of_ne_nil nonempty
  intro lexeme rest found
  rw [List.cons_append, scan, startsWithDigit_append text blank] at found
  rw [scan]
  split_ifs at found ⊢ with number string word
  · exact scanNumber_before (c :: text) blank lexeme rest found
  · refine scanString_before [] text ?_ blank lexeme rest found
    simp only [isQuote, Bool.or_eq_true, beq_iff_eq] at string
    rcases string with (rfl | rfl) | rfl <;> decide
  · exact scanWord_before (c :: text) blank lexeme rest found
  · exact scanSymbol_before c text blank lexeme rest found

/-! ## Snippets -/

/-- The blanks in front of a text are dropped, whatever stands behind it. -/
theorem dropBlanks_append (text : List Char) (blank : ∀ c ∈ blanks, isBlank c = true) :
    dropBlanks (text ++ blanks) = if dropBlanks text = [] then [] else dropBlanks text ++ blanks := by
  induction text with
  | nil => exact List.dropWhile_eq_nil_iff.2 blank
  | cons c text ih =>
    by_cases first : isBlank c = true
    · have drops (others : List Char) : dropBlanks (c :: others) = dropBlanks others :=
        List.dropWhile_cons_of_pos first
      rw [List.cons_append, drops, drops, ih]
    · have keeps (others : List Char) : dropBlanks (c :: others) = c :: others :=
        List.dropWhile_cons_of_neg first
      rw [List.cons_append, keeps, keeps, if_neg (List.cons_ne_nil c text), List.cons_append]

/-- The lexemes of a text with blanks behind it are those of the text. -/
theorem Lexed.before {length : Nat} {whole : List Char} {tokens : List Token}
    {result : Except LexError (List Token)} (lexed : Lexed length whole result)
    (blank : ∀ c ∈ blanks, isBlank c = true)
    (same : dropBlanks whole = dropBlanks (text ++ blanks)) (found : result = .ok tokens)
    (length' : Nat) :
    ∃ others, Lexed length' text (.ok others)
      ∧ others.map (·.lexeme) = tokens.map (·.lexeme) := by
  induction lexed generalizing text tokens with
  | finish none =>
    cases found
    rw [none, dropBlanks_append text blank] at same
    by_cases empty : dropBlanks text = []
    · exact ⟨_, .finish empty, rfl⟩
    · rw [if_neg empty] at same
      exact absurd (List.append_eq_nil_iff.1 same.symm).1 empty
  | fault scanned => cases found
  | @token whole rest lexeme result nonempty scanned _ ih =>
    cases result with
    | error fault => cases found
    | ok more =>
      cases found
      rw [same, dropBlanks_append text blank] at nonempty scanned
      by_cases empty : dropBlanks text = []
      · exact absurd (if_pos empty) nonempty
      rw [if_neg empty] at scanned
      obtain ⟨others, rfl, found⟩ := scan_before empty blank lexeme rest scanned
      obtain ⟨later, behind, sames⟩ := ih rfl rfl
      exact ⟨_, .token empty found behind, congrArg (lexeme :: ·) sames⟩

/-- **A trimmed snippet has the same lexemes.** -/
theorem tokenize_trim {snippet : String} {tokens : List Token}
    (found : tokenize snippet = .ok tokens) :
    ∃ others, tokenize (trim snippet) = .ok others
      ∧ others.map (·.lexeme) = tokens.map (·.lexeme) := by
  obtain ⟨before, behind, split, blank⟩ := trim_eq_append snippet
  obtain ⟨front, back⟩ := List.forall_mem_append.1 blank
  have dropped : dropBlanks snippet.toList = dropBlanks ((trim snippet).toList ++ behind) := by
    rw [split, List.append_assoc, dropBlanks, List.dropWhile_append_of_pos front]
    rfl
  obtain ⟨others, lexed, sames⟩ :=
    (lexed_tokenize snippet).before back dropped found (trim snippet).toList.length
  exact ⟨others, ((lexed_iff (Nat.lt_succ_self _)).1 lexed).symm, sames⟩

/-- **A trimmed snippet holds the same expression**, but for spans. -/
theorem readExpression_trim {snippet : String} {expr : Expr}
    (accepted : readExpression snippet = .ok expr) :
    ∃ other, readExpression (trim snippet) = .ok other ∧ other.unspanned = expr.unspanned := by
  rw [readExpression, Reader.onSnippet] at accepted ⊢
  cases found : tokenize snippet with
  | error fault =>
    rw [found] at accepted
    cases accepted
  | ok tokens =>
    rw [found] at accepted
    obtain ⟨others, found', sames⟩ := tokenize_trim found
    obtain ⟨body, rfl, inner⟩ := tokenize_ends found
    obtain ⟨body', rfl, -⟩ := tokenize_ends found'
    have same : body'.map (·.lexeme) = body.map (·.lexeme) := by
      simp only [List.map_append, List.map_cons, List.map_nil] at sames
      exact List.append_cancel_right sames
    -- The expression is written by the lexemes before the end, and they are found again.
    obtain ⟨after, ran⟩ := run_of_onTokens accepted
    obtain ⟨depth, between, first, second⟩ := soleExpression_runs ran
    obtain ⟨lexemes, written, taken⟩ :=
      taken_before_finish (expression_takes depth) inner rfl first second
    have snippet : WritesSnippet expr (body'.map (·.lexeme)) := by
      rw [same]
      rcases taken with all | semicolon
      · rw [all]
        exact .plain written
      · rw [semicolon]
        exact .semicolon written
    obtain ⟨other, after', ran', matched⟩ :=
      soleExpression_finds snippet body' [⟨.finish, _⟩] 0 rfl rfl
    refine ⟨other, ?_, matched⟩
    rw [found']
    exact congrArg (Except.map (·.1)) ran'

end ViewTemplate.Snippet
