import Mathlib.Data.List.TakeWhile
import ViewTemplate.Snippet.Lexer

/-!
# Where the tokens of a snippet stand

The tokens of a snippet stand in it one behind the other, blanks are all that stands
between them, and what a token is can be read off its own characters.

The scanner looks ahead in many ways: for what a number or a word goes on with, for digits
behind the mark of an exponent, for the longest symbol, for a digit behind a question mark
and a point.  But whatever it looks at, the lexeme that it finds is the one that it finds
in the characters that it takes, with nothing behind them (`scan_alone`).  As every token
but the last takes a character, the steps end by themselves (`lexed_iff`).

## Main Definitions

* `Lexed` — what becomes of a text, step by step and without a bound on the steps
* `Tiles` — tokens that stand one behind the other, with blanks between them

## Main Results

* `scan_alone` — a lexeme is found in its own characters
* `lexed_iff` — the steps lead to what `tokensFrom` gives, and to nothing else
* `tokenize_tiles` — the places of the tokens of a snippet

-/

namespace ViewTemplate.Snippet

open ViewTemplate.Text ViewTemplate.Number

variable {text rest : List Char} {lexeme : Lexeme}

/-! ## Exponents -/

/-- A mark, an optional sign and at least one digit are an exponent, as far as there are
digits. -/
theorem exponentPart_marked {mark : Char} {sign : List Char} (marked : mark = 'e' ∨ mark = 'E')
    (signed : sign = [] ∨ sign = ['+'] ∨ sign = ['-']) (digits : text.takeWhile isAsciiDigit ≠ []) :
    exponentPart (mark :: (sign ++ text)) = mark :: (sign ++ text.takeWhile isAsciiDigit) := by
  obtain ⟨d, more, found⟩ := List.exists_cons_of_ne_nil digits
  rcases signed with rfl | signed
  · cases text with
    | nil => cases found
    | cons c text =>
      have notSign : ¬ (c = '+' ∨ c = '-') := by
        rintro (rfl | rfl) <;> exact digits rfl
      simp only [List.nil_append, exponentPart, if_pos marked, if_neg notSign, found]
  · rcases signed with rfl | rfl <;>
      simp only [List.singleton_append, exponentPart, if_pos marked, found, Char.reduceEq, or_true,
        true_or, if_true]

/-- Nothing else is an exponent. -/
theorem exponentPart_cases (text : List Char) :
    exponentPart text = [] ∨ ∃ mark sign behind, text = mark :: (sign ++ behind)
      ∧ (mark = 'e' ∨ mark = 'E') ∧ (sign = [] ∨ sign = ['+'] ∨ sign = ['-'])
      ∧ behind.takeWhile isAsciiDigit ≠ [] := by
  unfold exponentPart
  split
  · rename_i mark sign rest
    split
    · rename_i marked
      split
      · rename_i signed
        split
        · exact .inl rfl
        · rename_i digits
          exact .inr ⟨mark, [sign], rest, rfl, marked, .inr (by simpa using signed), digits⟩
      · split
        · exact .inl rfl
        · rename_i digits
          exact .inr ⟨mark, [], sign :: rest, rfl, marked, .inl rfl, digits⟩
    · exact .inl rfl
  · exact .inl rfl

theorem exponentPart_starts (text : List Char) : exponentPart text <+: text := by
  rcases exponentPart_cases text with none | ⟨mark, sign, behind, rfl, marked, signed, digits⟩
  · exact none ▸ List.nil_prefix
  · rw [exponentPart_marked marked signed digits, List.cons_prefix_cons]
    exact ⟨rfl, (List.prefix_append_right_inj sign).2 (List.takeWhile_prefix _)⟩

/-- An exponent is one with nothing behind it. -/
theorem exponentPart_idem (text : List Char) :
    exponentPart (exponentPart text) = exponentPart text := by
  rcases exponentPart_cases text with none | ⟨mark, sign, behind, rfl, marked, signed, digits⟩
  · rw [none]
    rfl
  · have again : (behind.takeWhile isAsciiDigit).takeWhile isAsciiDigit
        = behind.takeWhile isAsciiDigit := List.takeWhile_idem
    rw [exponentPart_marked marked signed digits,
      exponentPart_marked marked signed (again.symm ▸ digits), again]

/-- What stands before its mark does not go on into an exponent. -/
theorem takeWhile_exponentPart (text : List Char) :
    (exponentPart text).takeWhile isNumberPart = [] := by
  rcases exponentPart_cases text with none | ⟨mark, sign, behind, rfl, marked, signed, digits⟩
  · rw [none]
    rfl
  · rw [exponentPart_marked marked signed digits]
    rcases marked with rfl | rfl <;> rfl

/-! ## Lexemes on their own -/

/-- **A lexeme that is found on its own**: in the characters that it takes, some of which
there are, and with nothing behind them. -/
def FoundAlone (text : List Char) (lexeme : Lexeme) (rest : List Char) : Prop :=
  ∃ taken, text = taken ++ rest ∧ taken ≠ [] ∧ lexeme ≠ .finish
    ∧ scan taken = (.ok lexeme, [])

/-- The number at the start of a text: what it takes. -/
def spelledNumber (text : List Char) : List Char :=
  text.takeWhile isNumberPart ++ exponentPart (text.dropWhile isNumberPart)

theorem spelledNumber_starts (text : List Char) : spelledNumber text <+: text := by
  have exponent := exponentPart_starts (text.dropWhile isNumberPart)
  have whole := (List.prefix_append_right_inj (text.takeWhile isNumberPart)).2 exponent
  rwa [List.takeWhile_append_dropWhile] at whole

/-- The points and digits of a number end where its exponent starts. -/
theorem spelledNumber_idem (text : List Char) :
    spelledNumber (spelledNumber text) = spelledNumber text := by
  have parts (c : Char) (mem : c ∈ text.takeWhile isNumberPart) : isNumberPart c = true :=
    List.all_eq_true.1 List.all_takeWhile c mem
  have ends := takeWhile_exponentPart (text.dropWhile isNumberPart)
  have behind := List.takeWhile_append_dropWhile (p := isNumberPart)
    (l := exponentPart (text.dropWhile isNumberPart))
  rw [ends, List.nil_append] at behind
  rw [spelledNumber, spelledNumber, List.takeWhile_append_of_pos parts,
    List.dropWhile_append_of_pos parts, ends, behind, exponentPart_idem, List.append_nil]

theorem scanNumber_eq (text : List Char) :
    scanNumber text = match readUnsigned? (spelledNumber text) with
      | some value => (.ok (.number value), text.drop (spelledNumber text).length)
      | none => (.error (.invalidNumber (String.ofList (spelledNumber text))),
          text.drop (spelledNumber text).length) :=
  rfl

variable {c : Char}

/-- Whether a text starts with a number. -/
def startsNumber (c : Char) (text : List Char) : Bool :=
  isAsciiDigit c || (c == '.' && startsWithDigit text)

theorem scan_number (number : startsNumber c text = true) :
    scan (c :: text) = scanNumber (c :: text) :=
  if_pos number

theorem scan_string (quoted : isQuote c = true) : scan (c :: text) = scanString c [] text := by
  have notNumber : ¬ startsNumber c text = true := by
    simp only [isQuote, Bool.or_eq_true, beq_iff_eq] at quoted
    rcases quoted with (rfl | rfl) | rfl <;> exact Bool.false_ne_true
  exact (if_neg notNumber).trans (if_pos quoted)

/-- No word begins with a digit. -/
theorem isWordStart_notDigit (starts : isWordStart c = true) : isAsciiDigit c = false := by
  rw [Bool.eq_false_iff]
  intro digit
  simp only [isAsciiDigit, Bool.and_eq_true, decide_eq_true_eq] at digit
  have among : c.toNat ∈ List.range' 48 10 := by
    rw [List.mem_range'_1]
    omega
  have none : ∀ code ∈ List.range' 48 10, isWordStart (Char.ofNat code) = false := by decide
  have other := none _ among
  rw [Char.ofNat_toNat, starts] at other
  cases other

theorem isWordStart_notNumber (starts : isWordStart c = true) (text : List Char) :
    startsNumber c text = false := by
  have notPoint : c ≠ '.' := by
    rintro rfl
    cases starts
  simp [startsNumber, isWordStart_notDigit starts, notPoint]

theorem isWordStart_notQuote (starts : isWordStart c = true) : isQuote c = false := by
  rw [Bool.eq_false_iff]
  intro quoted
  simp only [isQuote, Bool.or_eq_true, beq_iff_eq] at quoted
  rcases quoted with (rfl | rfl) | rfl <;> cases starts

theorem scan_word (starts : isWordStart c = true) : scan (c :: text) = scanWord (c :: text) := by
  have notNumber : ¬ startsNumber c text = true :=
    Bool.eq_false_iff.1 (isWordStart_notNumber starts text)
  have notQuote : ¬ isQuote c = true := Bool.eq_false_iff.1 (isWordStart_notQuote starts)
  exact (if_neg notNumber).trans ((if_neg notQuote).trans (if_pos starts))

theorem scanNumber_alone (number : startsNumber c text = true)
    (found : scanNumber (c :: text) = (.ok lexeme, rest)) :
    FoundAlone (c :: text) lexeme rest := by
  rw [scanNumber_eq] at found
  split at found
  · rename_i value read
    cases found
    have first : isNumberPart c = true := by
      simp only [startsNumber, Bool.or_eq_true, Bool.and_eq_true] at number
      exact Bool.or_eq_true _ _ ▸ number.imp_right And.left
    -- The characters that are taken start as the text does.
    have taken : spelledNumber (c :: text) = c :: spelledNumber text := by
      rw [spelledNumber, List.takeWhile_cons_of_pos first, List.dropWhile_cons_of_pos first]
      rfl
    have still : startsNumber c (spelledNumber text) = true := by
      simp only [startsNumber, Bool.or_eq_true, Bool.and_eq_true] at number ⊢
      refine number.imp_right (And.imp_right fun digit => ?_)
      cases text with
      | nil => cases digit
      | cons d text =>
        have part : isNumberPart d = true := Bool.or_eq_true _ _ ▸ .inl digit
        rw [spelledNumber, List.takeWhile_cons_of_pos part]
        exact digit
    refine ⟨spelledNumber (c :: text),
      (List.prefix_iff_eq_append.1 (spelledNumber_starts _)).symm, by simp [taken], nofun, ?_⟩
    rw [taken, scan_number still, ← taken, scanNumber_eq, spelledNumber_idem, read, List.drop_length]
  · cases found

section

variable {quote : Char} {value : List Char}

theorem scanString_quote (rest : List Char) :
    scanString quote value (quote :: rest)
      = (.ok (.string (String.ofList value.reverse)), rest) := by
  rw [scanString.eq_def]
  exact if_pos rfl

theorem scanString_escape (other : ¬ '\\' = quote) (d : Char) (rest : List Char) :
    scanString quote value ('\\' :: d :: rest) = scanString quote (unescape d :: value) rest := by
  rw [scanString.eq_def]
  exact (if_neg other).trans (if_pos rfl)

theorem scanString_plain (other : ¬ c = quote) (plain : ¬ c = '\\') (rest : List Char) :
    scanString quote value (c :: rest) = scanString quote (c :: value) rest := by
  rw [scanString.eq_def]
  exact (if_neg other).trans (if_neg plain)

/-- A string ends with the quote that it began with, whatever stands behind it. -/
theorem scanString_split (found : scanString quote value text = (.ok lexeme, rest)) :
    (∃ inside, text = inside ++ quote :: rest
      ∧ ∀ other, scanString quote value (inside ++ quote :: other) = (.ok lexeme, other))
      ∧ lexeme ≠ .finish := by
  induction value, text using scanString.induct quote with
  | case1 => cases found
  | case2 value text =>
    rw [scanString_quote] at found
    cases found
    exact ⟨⟨[], rfl, scanString_quote⟩, nofun⟩
  | case3 value other =>
    rw [scanString, if_neg other, if_pos rfl] at found
    cases found
  | case4 value d text other ih =>
    rw [scanString_escape other] at found
    obtain ⟨⟨inside, rfl, alike⟩, inner⟩ := ih found
    exact ⟨⟨'\\' :: d :: inside, rfl,
      fun behind => (scanString_escape other d _).trans (alike behind)⟩, inner⟩
  | case5 value c text other plain ih =>
    rw [scanString_plain other plain] at found
    obtain ⟨⟨inside, rfl, alike⟩, inner⟩ := ih found
    exact ⟨⟨c :: inside, rfl,
      fun behind => (scanString_plain other plain _).trans (alike behind)⟩, inner⟩

end

theorem scanString_alone (quoted : isQuote c = true)
    (found : scanString c [] text = (.ok lexeme, rest)) : FoundAlone (c :: text) lexeme rest := by
  obtain ⟨⟨inside, rfl, alike⟩, inner⟩ := scanString_split found
  exact ⟨c :: (inside ++ [c]), by simp, List.cons_ne_nil _ _, inner,
    (scan_string quoted).trans (alike [])⟩

/-- What begins a word goes on with it. -/
theorem isWordPart_of_isWordStart (starts : isWordStart c = true) : isWordPart c = true := by
  simp only [isWordStart, isWordPart, Bool.or_eq_true] at starts ⊢
  rcases starts with (letter | mark) | mark
  · exact .inl (.inl (by simp [isLetterOrNumeral, letter]))
  · exact .inl (.inr mark)
  · exact .inr mark

theorem lexemeOfWord_ne_finish (word : String) : lexemeOfWord word ≠ .finish := by
  unfold lexemeOfWord
  split
  · exact nofun
  split
  · exact nofun
  split <;> exact nofun

theorem scanWord_alone (starts : isWordStart c = true)
    (found : scanWord (c :: text) = (.ok lexeme, rest)) : FoundAlone (c :: text) lexeme rest := by
  have first := isWordPart_of_isWordStart starts
  have all (d : Char) (mem : d ∈ text.takeWhile isWordPart) : isWordPart d = true :=
    List.all_eq_true.1 List.all_takeWhile d mem
  rw [scanWord, List.takeWhile_cons_of_pos first, List.dropWhile_cons_of_pos first] at found
  cases found
  refine ⟨c :: text.takeWhile isWordPart, ?_, List.cons_ne_nil _ _, lexemeOfWord_ne_finish _, ?_⟩
  · rw [List.cons_append, List.takeWhile_append_dropWhile]
  · rw [scan_word starts, scanWord, List.takeWhile_cons_of_pos first,
      List.dropWhile_cons_of_pos first, List.takeWhile_idem, List.dropWhile_eq_nil_iff.2 all]

/-- A symbol is found where one of its spellings stands. -/
theorem symbolFrom_split {table : List (List Char × Symbol)} {symbol : Symbol}
    (found : symbolFrom text table = some (symbol, rest)) :
    ∃ spelling, (spelling, symbol) ∈ table ∧ text = spelling ++ rest := by
  induction table with
  | nil => cases found
  | cons entry others ih =>
    obtain ⟨spelling, other⟩ := entry
    have later (found : symbolFrom text others = some (symbol, rest)) :
        ∃ spelling', (spelling', symbol) ∈ (spelling, other) :: others
          ∧ text = spelling' ++ rest := by
      obtain ⟨spelling', mem, split⟩ := ih found
      exact ⟨spelling', List.mem_cons_of_mem _ mem, split⟩
    rw [symbolFrom] at found
    split at found
    · rename_i behind here
      split at found
      · exact later found
      · cases found
        exact ⟨spelling, List.mem_cons_self, after?_eq_some_iff.1 here⟩
    · exact later found

/-- Every symbol is found in its spelling: no other one stands before it there. -/
theorem scan_spelling : ∀ entry ∈ Symbol.spellings,
    entry.1 ≠ [] ∧ scan entry.1 = (.ok (.symbol entry.2), []) := by
  decide +kernel

theorem scanSymbol_alone (found : scanSymbol c text = (.ok lexeme, rest)) :
    FoundAlone (c :: text) lexeme rest := by
  rw [scanSymbol] at found
  split at found
  · rename_i symbol behind here
    cases found
    obtain ⟨spelling, mem, split⟩ := symbolFrom_split here
    obtain ⟨nonempty, alone⟩ := scan_spelling _ mem
    exact ⟨spelling, split, nonempty, nofun, alone⟩
  · cases found

/-- **Every lexeme but the end is found in its own characters.** -/
theorem scan_alone (nonempty : text ≠ []) (found : scan text = (.ok lexeme, rest)) :
    FoundAlone text lexeme rest := by
  obtain ⟨c, text, rfl⟩ := List.exists_cons_of_ne_nil nonempty
  rw [scan] at found
  split at found
  · rename_i number
    exact scanNumber_alone number found
  split at found
  · rename_i quoted
    exact scanString_alone quoted found
  split at found
  · rename_i starts
    exact scanWord_alone starts found
  · exact scanSymbol_alone found

/-! ## Step by step -/

/-- **What becomes of a text** that ends a snippet of `length` characters, one lexeme at a
time: blanks are dropped, and the lexeme behind them is the end, is none, or is a token
behind which there is more. -/
inductive Lexed (length : Nat) : List Char → Except LexError (List Token) → Prop
  | finish {text : List Char} (blank : dropBlanks text = []) :
    Lexed length text (.ok [⟨.finish, ⟨length, length⟩⟩])
  | fault {text rest : List Char} {fault : LexFault}
    (scanned : scan (dropBlanks text) = (.error fault, rest)) :
    Lexed length text
      (.error ⟨fault, ⟨length - (dropBlanks text).length, length - rest.length⟩⟩)
  | token {text rest : List Char} {lexeme : Lexeme} {result : Except LexError (List Token)}
    (nonempty : dropBlanks text ≠ []) (scanned : scan (dropBlanks text) = (.ok lexeme, rest))
    (behind : Lexed length rest result) :
    Lexed length text
      (result.map (⟨lexeme, ⟨length - (dropBlanks text).length, length - rest.length⟩⟩ :: ·))

variable {length budget : Nat}

theorem tokensFrom_finish (blank : dropBlanks text = []) :
    tokensFrom length budget text = .ok [⟨.finish, ⟨length, length⟩⟩] := by
  cases budget with
  | zero => rfl
  | succ budget =>
    rw [tokensFrom, blank]
    rfl

theorem tokensFrom_fault {fault : LexFault}
    (scanned : scan (dropBlanks text) = (.error fault, rest)) :
    tokensFrom length (budget + 1) text
      = .error ⟨fault, ⟨length - (dropBlanks text).length, length - rest.length⟩⟩ := by
  rw [tokensFrom]
  simp only [scanned]

theorem tokensFrom_token (inner : lexeme ≠ .finish)
    (scanned : scan (dropBlanks text) = (.ok lexeme, rest)) :
    tokensFrom length (budget + 1) text
      = (tokensFrom length budget rest).map
        (⟨lexeme, ⟨length - (dropBlanks text).length, length - rest.length⟩⟩ :: ·) := by
  rw [tokensFrom]
  simp only [scanned]

/-- A token comes nearer to the end. -/
theorem scan_shortens (nonempty : dropBlanks text ≠ [])
    (scanned : scan (dropBlanks text) = (.ok lexeme, rest)) : rest.length < text.length := by
  obtain ⟨taken, split, some, -, -⟩ := scan_alone nonempty scanned
  have shorter : (dropBlanks text).length ≤ text.length :=
    (List.dropWhile_suffix isBlank).length_le
  have positive := List.length_pos_iff.2 some
  rw [split, List.length_append] at shorter
  omega

theorem tokensFrom_lexed (enough : text.length < budget) :
    Lexed length text (tokensFrom length budget text) := by
  induction budget generalizing text with
  | zero => exact absurd enough (Nat.not_lt_zero _)
  | succ budget ih =>
    by_cases blank : dropBlanks text = []
    · rw [tokensFrom_finish blank]
      exact .finish blank
    rcases scanned : scan (dropBlanks text) with ⟨fault | lexeme, rest⟩
    · rw [tokensFrom_fault scanned]
      exact .fault scanned
    · obtain ⟨-, -, -, inner, -⟩ := scan_alone blank scanned
      have shorter := scan_shortens blank scanned
      rw [tokensFrom_token inner scanned]
      exact .token blank scanned (ih (by omega))

/-- **The steps end by themselves**: a budget that a text does not use up changes nothing,
and no other outcome can be reached. -/
theorem lexed_iff {result : Except LexError (List Token)} (enough : text.length < budget) :
    Lexed length text result ↔ result = tokensFrom length budget text := by
  refine ⟨fun lexed => ?_, fun same => same ▸ tokensFrom_lexed enough⟩
  induction lexed generalizing budget with
  | finish blank => exact (tokensFrom_finish blank).symm
  | fault scanned =>
    obtain ⟨budget, rfl⟩ := Nat.exists_eq_add_one_of_ne_zero (Nat.ne_zero_of_lt enough)
    exact (tokensFrom_fault scanned).symm
  | token nonempty scanned _ ih =>
    obtain ⟨budget, rfl⟩ := Nat.exists_eq_add_one_of_ne_zero (Nat.ne_zero_of_lt enough)
    obtain ⟨-, -, -, inner, -⟩ := scan_alone nonempty scanned
    have shorter := scan_shortens nonempty scanned
    rw [tokensFrom_token inner scanned, ← ih (by omega)]

/-! ## Places -/

/-- The characters of a span. -/
def Span.slice (span : Span) (snippet : List Char) : List Char :=
  (snippet.drop span.start).take (span.stop - span.start)

/-- The characters between two offsets are those between what stands before and behind. -/
theorem Span.slice_append (before taken rest : List Char) :
    (⟨before.length, (before ++ taken).length⟩ : Span).slice (before ++ taken ++ rest) = taken := by
  rw [Span.slice, List.append_assoc, List.drop_left, List.length_append, Nat.add_sub_cancel_left,
    List.take_left]

/-- **Tokens one behind the other** in a snippet from `place` on. -/
structure Tiles (snippet : List Char) (place : Nat) (tokens : List Token) : Prop where
  /-- Every one takes some of the characters from there on. -/
  inside : ∀ token ∈ tokens, place ≤ token.span.start ∧ token.span.start < token.span.stop
    ∧ token.span.stop ≤ snippet.length
  /-- None reaches into a later one. -/
  ordered : tokens.Pairwise fun earlier later => earlier.span.stop ≤ later.span.start
  /-- None is the end, and each is what its characters are on their own. -/
  alone : ∀ token ∈ tokens, token.lexeme ≠ .finish
    ∧ tokenize (String.ofList (token.span.slice snippet))
      = .ok [⟨token.lexeme, ⟨0, token.span.stop - token.span.start⟩⟩,
        ⟨.finish, ⟨token.span.stop - token.span.start, token.span.stop - token.span.start⟩⟩]
  /-- Only blanks stand where none of them does. -/
  blank : ∀ (offset : Nat) (c : Char), place ≤ offset → snippet[offset]? = some c →
    (∀ token ∈ tokens, ¬ (token.span.start ≤ offset ∧ offset < token.span.stop)) →
    isBlank c = true

/-- The tokens of a text that is one lexeme. -/
theorem tokenize_single (starts : dropBlanks text = text) (inner : lexeme ≠ .finish)
    (alone : scan text = (.ok lexeme, [])) :
    tokenize (String.ofList text) = .ok [⟨lexeme, ⟨0, text.length⟩⟩,
      ⟨.finish, ⟨text.length, text.length⟩⟩] := by
  rw [tokenize, String.toList_ofList, tokensFrom_token inner (starts.symm ▸ alone),
    tokensFrom_finish dropBlanks_nil, starts, Nat.sub_self]
  rfl

namespace Tiles

variable {snippet : List Char} {place : Nat}

theorem nil (blank : ∀ c ∈ snippet.drop place, isBlank c = true) : Tiles snippet place [] where
  inside := nofun
  ordered := .nil
  alone := nofun
  blank offset c behind here _ := by
    refine blank c (List.mem_of_getElem? (i := offset - place) ?_)
    rwa [List.getElem?_drop, Nat.add_sub_cancel' behind]

/-- Tokens stand behind `before`, blanks and the characters of one more token. -/
theorem cons {before gap taken rest : List Char} {tokens : List Token}
    (blank : ∀ c ∈ gap, isBlank c = true) (some : taken ≠ []) (inner : lexeme ≠ .finish)
    (starts : dropBlanks taken = taken) (alone : scan taken = (.ok lexeme, []))
    (tiles : Tiles (before ++ gap ++ taken ++ rest) (before ++ gap ++ taken).length tokens) :
    Tiles (before ++ gap ++ taken ++ rest) before.length
      (⟨lexeme, ⟨(before ++ gap).length, (before ++ gap ++ taken).length⟩⟩ :: tokens) where
  inside := by
    have positive := List.length_pos_iff.2 some
    have here : before.length ≤ (before ++ gap).length
        ∧ (before ++ gap).length < (before ++ gap ++ taken).length
        ∧ (before ++ gap ++ taken).length ≤ (before ++ gap ++ taken ++ rest).length := by
      simp only [List.length_append]
      omega
    refine List.forall_mem_cons.2 ⟨here, fun token mem => ?_⟩
    obtain ⟨after, nonempty, within⟩ := tiles.inside token mem
    exact ⟨by omega, nonempty, within⟩
  ordered := .cons (fun later mem => (tiles.inside later mem).1) tiles.ordered
  alone := by
    refine List.forall_mem_cons.2 ⟨⟨inner, ?_⟩, tiles.alone⟩
    have length : (before ++ gap ++ taken).length - (before ++ gap).length = taken.length := by
      rw [List.length_append, Nat.add_sub_cancel_left]
    dsimp only
    rw [Span.slice_append, length]
    exact tokenize_single starts inner alone
  blank offset c behind here outside := by
    obtain ⟨notHere, elsewhere⟩ := List.forall_mem_cons.1 outside
    rcases Nat.lt_or_ge offset (before ++ gap).length with early | late
    · -- Before the token stands the gap.
      rw [List.append_assoc (before ++ gap), List.getElem?_append_left early,
        List.getElem?_append_right behind] at here
      exact blank c (List.mem_of_getElem? here)
    · refine tiles.blank offset c ?_ here elsewhere
      exact Nat.le_of_not_lt fun before => notHere ⟨late, before⟩

end Tiles

/-- **The tokens of a text** that ends a snippet stand behind what is before it. -/
theorem Lexed.tiles {snippet before : List Char} {tokens : List Token}
    {result : Except LexError (List Token)} (lexed : Lexed snippet.length text result)
    (split : snippet = before ++ text) (found : result = .ok tokens) :
    ∃ body, tokens = body ++ [⟨.finish, ⟨snippet.length, snippet.length⟩⟩]
      ∧ Tiles snippet before.length body := by
  induction lexed generalizing before tokens with
  | finish blank =>
    cases found
    refine ⟨[], rfl, .nil ?_⟩
    rw [split, List.drop_left]
    exact List.dropWhile_eq_nil_iff.1 blank
  | fault scanned => cases found
  | @token text rest lexeme result nonempty scanned _ ih =>
    cases result with
    | error fault => cases found
    | ok more =>
      cases found
      obtain ⟨gap, front, blank⟩ := dropBlanks_eq_append text
      obtain ⟨taken, behind, some, inner, alone⟩ := scan_alone nonempty scanned
      obtain ⟨c, inside, rfl⟩ := List.exists_cons_of_ne_nil some
      have starts : dropBlanks (c :: inside) = c :: inside :=
        List.dropWhile_cons_of_neg (Bool.eq_false_iff.1 (head_dropBlanks behind))
      have whole : snippet = before ++ gap ++ (c :: inside) ++ rest := by
        rw [split, front, behind]
        simp only [List.append_assoc]
      obtain ⟨body, rfl, tiles⟩ := ih whole rfl
      -- Offsets that are counted from the end are those that are counted from the start.
      have start : snippet.length - (dropBlanks text).length = (before ++ gap).length := by
        rw [whole, behind, List.append_assoc, List.length_append, Nat.add_sub_cancel_right]
      have stop : snippet.length - rest.length = (before ++ gap ++ (c :: inside)).length := by
        rw [whole, List.length_append, Nat.add_sub_cancel_right]
      refine ⟨_ :: body, rfl, ?_⟩
      rw [start, stop]
      rw [whole] at tiles ⊢
      exact .cons blank some inner starts alone tiles

/-- What is found in a snippet can be found step by step. -/
theorem lexed_tokenize (snippet : String) :
    Lexed snippet.toList.length snippet.toList (tokenize snippet) :=
  tokensFrom_lexed (Nat.lt_succ_self _)

/-- The last token of a snippet is the end, and no other one is. -/
theorem tokenize_ends {snippet : String} {tokens : List Token}
    (found : tokenize snippet = .ok tokens) :
    ∃ body, tokens = body ++ [⟨.finish, ⟨snippet.toList.length, snippet.toList.length⟩⟩]
      ∧ ∀ token ∈ body, token.lexeme ≠ .finish := by
  obtain ⟨body, split, tiles⟩ := (lexed_tokenize snippet).tiles (List.nil_append _).symm found
  exact ⟨body, split, fun token mem => (tiles.alone token mem).1⟩

/-- **The tokens of a snippet stand in it one behind the other.**  The snippet is cut into
tokens, or found to have none, in finitely many steps, and in one way.  If it has tokens,
then the last one is the end and stands at the end; the others take some characters each,
in order and without overlap, each is what these characters are on their own, and there
are only blanks between them. -/
theorem tokenize_tiles (snippet : String) :
    (∀ result, Lexed snippet.toList.length snippet.toList result ↔ result = tokenize snippet)
    ∧ ∀ tokens, tokenize snippet = .ok tokens →
      ∃ body, tokens = body ++ [⟨.finish, ⟨snippet.toList.length, snippet.toList.length⟩⟩]
        ∧ Tiles snippet.toList 0 body := by
  refine ⟨fun result => lexed_iff (Nat.lt_succ_self _), fun tokens found => ?_⟩
  exact (lexed_tokenize snippet).tiles (List.nil_append _).symm found

/-- Before a digit a question mark and a point are no optional access. -/
theorem tokenize_tiles_question :
    ∃ body, tokenize "a ?.5" = .ok (body ++ [⟨.finish, ⟨5, 5⟩⟩]) ∧ Tiles "a ?.5".toList 0 body
      ∧ body = [⟨.identifier "a", ⟨0, 1⟩⟩, ⟨.symbol .question, ⟨2, 3⟩⟩,
        ⟨.number (ofDecimal 5 (-1)), ⟨3, 5⟩⟩] := by
  have accepted : tokenize "a ?.5" = .ok ([⟨.identifier "a", ⟨0, 1⟩⟩, ⟨.symbol .question, ⟨2, 3⟩⟩,
      ⟨.number (ofDecimal 5 (-1)), ⟨3, 5⟩⟩] ++ [⟨.finish, ⟨5, 5⟩⟩]) := by
    with_unfolding_all rfl
  obtain ⟨body, same, tiles⟩ := (tokenize_tiles "a ?.5").2 _ accepted
  exact ⟨body, same ▸ accepted, tiles, (List.append_cancel_right same).symm⟩

end ViewTemplate.Snippet
