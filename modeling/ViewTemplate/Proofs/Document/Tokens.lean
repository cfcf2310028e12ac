import ViewTemplate.Proofs.Document.Writing
import ViewTemplate.Proofs.Template.Offsets

/-!
# The tokens that a text begins with

Which token stands at the start of a text that is put together from parts, with the
settings that hold if no others are chosen.

A token depends on what stands behind it: `<js` and `<jsx` begin alike, and a run of
letters goes on as long as letters do.  So the statements here are about a text and the
rest behind it.  Punctuation is cut off whatever follows (`Cuts`); runs, tags and keywords
end where a character stands that cannot belong to them.  Inside a text any token may
stand, and none of them reaches into what follows the text if every tag and keyword that
begins in it has an end and the first character behind it joins no token
(`scan_covers_front`).

## Main Definitions

* `standard` — the settings that hold if no others are chosen
* `Cuts` — a token stands before a rest
* `firstKind` — the kind of the first token of a text
* `Joins` — characters that can stand in one token
-/

namespace ViewTemplate.Document

open Template Text

/-! ## Settings -/

/-- The settings that hold if no others are chosen. -/
def standard : Lexicon := LexicalOptions.lexicon {}

theorem standard_hasDelimiters : standard.HasDelimiters :=
  LexicalOptions.hasDelimiters (by decide)

/-! ## Runs of characters -/

/-- A run ends where a character stands that does not belong to it. -/
theorem takeWhile_exact {belongs : Char → Bool} {run rest : List Char}
    (all : ∀ c ∈ run, belongs c = true) (stop : ∀ c ∈ rest.head?, belongs c = false) :
    (run ++ rest).takeWhile belongs = run := by
  rw [List.takeWhile_append_of_pos all]
  cases rest with
  | nil => simp
  | cons c rest => simp [stop c rfl]

/-- Characters of a class differ from those outside. -/
theorem ne_of_class {belongs : Char → Bool} {c d : Char} (inside : belongs c = true)
    (outside : belongs d = false) : c ≠ d := by
  rintro rfl
  rw [inside] at outside
  cases outside

/-- No character of a list belongs to a class, if this is found for the list as a whole. -/
theorem eq_false_of_any {belongs : Char → Bool} {list : List Char} {d : Char}
    (outside : list.any belongs = false) (mem : d ∈ list) : belongs d = false :=
  Bool.eq_false_iff.2 (List.any_eq_false.1 outside d mem)

/-- No letter or digit is white space. -/
theorem isSpace_eq_false {belongs : Char → Bool} {c : Char} (inside : belongs c = true)
    (outside : [' ', '\t', '\n'].any belongs = false) : isSpace c = false := by
  have apart (d : Char) (mem : d ∈ [' ', '\t', '\n']) : (c == d) = false :=
    beq_false_of_ne (ne_of_class inside (eq_false_of_any outside mem))
  simp [isSpace, apart]

/-- White space is blank. -/
theorem isBlank_of_isSpace {c : Char} (space : isSpace c = true) : isBlank c = true := by
  simp only [isSpace, Bool.or_eq_true, beq_iff_eq] at space
  rcases space with (rfl | rfl) | rfl <;> decide

/-- A text without blanks at its ends begins with none. -/
theorem isBlank_head {text : String} (trimmed : trim text = text) {c : Char}
    {others : List Char} (same : text.toList = c :: others) : isBlank c = false := by
  have whole : trimChars text.toList = text.toList := by
    rw [← String.toList_ofList (l := trimChars text.toList)]
    exact congrArg String.toList trimmed
  have shorter (part : List Char) : (dropBlanks part).length ≤ part.length :=
    (List.dropWhile_suffix isBlank).length_le
  have front : dropBlanks text.toList = text.toList := by
    refine (List.dropWhile_suffix isBlank).eq_of_length ?_
    have le := congrArg List.length whole
    rw [trimChars, List.length_reverse] at le
    have first := shorter (dropBlanks text.toList).reverse
    have second := shorter text.toList
    rw [List.length_reverse] at first
    exact Nat.le_antisymm second (le ▸ first)
  exact head_dropBlanks (front.trans same)

/-! ## Single tokens -/

/-- **A token stands before the rest** of a text. -/
def Cuts (piece : Piece) (rest : List Char) : Prop :=
  standard.scan (piece.text ++ rest) = some piece

/-- The kind of the first token of a text; none if the text is empty. -/
def firstKind (text : List Char) : Option TokenKind :=
  (standard.scan text).map (·.kind)

theorem Cuts.firstKind {piece : Piece} {rest : List Char} (cuts : Cuts piece rest) :
    firstKind (piece.text ++ rest) = some piece.kind := by
  rw [Document.firstKind, cuts, Option.map_some]

/-- A text begins with a token of one kind only. -/
theorem firstKind_ne {text : List Char} {kind other : TokenKind}
    (first : firstKind text = some kind) (ne : kind ≠ other) : firstKind text ≠ some other := by
  rw [first]
  exact fun same => ne (Option.some.inj same)

theorem Cuts.firstKind_ne {piece : Piece} {rest : List Char} {other : TokenKind}
    (cuts : Cuts piece rest) (ne : piece.kind ≠ other) :
    Document.firstKind (piece.text ++ rest) ≠ some other :=
  Document.firstKind_ne cuts.firstKind ne

section Marks

variable {rest : List Char}

theorem cuts_equals : Cuts ⟨.equals, ['='], none⟩ rest := rfl

theorem cuts_doubleQuote : Cuts ⟨.doubleQuote, ['"'], none⟩ rest := rfl

theorem cuts_comma : Cuts ⟨.comma, [','], none⟩ rest := rfl

theorem cuts_slash : Cuts ⟨.forwardSlash, ['/'], none⟩ rest := rfl

theorem cuts_tagEnd : Cuts ⟨.rightAngleBrace, ['>'], none⟩ rest := rfl

theorem cuts_printStart : Cuts ⟨.printExpressionStart, ['\x7b', '%', '='], none⟩ rest := rfl

theorem cuts_printEnd : Cuts ⟨.expressionEnd, ['%', '\x7d'], none⟩ rest := rfl

end Marks

/-- A character that begins no delimiter begins a token of markup. -/
theorem scan_markup {c : Char} (notStart : c ≠ '\x7b') (notEnd : c ≠ '%') (rest : List Char) :
    standard.scan (c :: rest) = some (standard.scanMarkup c rest) := by
  have start : startsWith (c :: rest) standard.expressionStart = false := by
    show (after? ['\x7b', '%'] (c :: rest)).isSome = false
    rw [after?, if_neg (Ne.symm notStart), Option.isSome_none]
  have stop : startsWith (c :: rest) standard.expressionEnd = false := by
    show (after? ['%', '\x7d'] (c :: rest)).isSome = false
    rw [after?, if_neg (Ne.symm notEnd), Option.isSome_none]
  rw [Lexicon.scan, start, stop]
  simp

/-- The characters that are punctuation by themselves. -/
def marks : List Char :=
  ['>', '\x7b', '\x7d', '[', '/', '?', '_', '$', '=', '.', ',', '"', '\x27', '\x60']

theorem punctuation?_eq_none {c : Char} (outside : c ∉ marks) : punctuation? c = none := by
  simp only [marks, List.mem_cons, not_or] at outside
  simp only [punctuation?, outside, if_false]

/-- What a character begins that is neither a bracket, an at sign nor a dash. -/
theorem scanMarkup_plain {lexicon : Lexicon} {belongs : Char → Bool} {c : Char}
    (inside : belongs c = true)
    (outside : ('<' :: ']' :: '@' :: '-' :: marks).any belongs = false) (rest : List Char) :
    lexicon.scanMarkup c rest =
      if isSpace c then ⟨.whitespace, (c :: rest).takeWhile isSpace, none⟩
      else if isAsciiLetter c then
        ⟨(TokenKind.ofWord? (String.ofList ((c :: rest).takeWhile isAsciiLetter))).getD .letters,
          (c :: rest).takeWhile isAsciiLetter, none⟩
      else if isAsciiDigit c then ⟨.numbers, (c :: rest).takeWhile isAsciiDigit, none⟩
      else ⟨.unknown, [c], none⟩ := by
  have apart : ∀ d ∈ '<' :: ']' :: '@' :: '-' :: marks, c ≠ d :=
    fun d mem => ne_of_class inside (eq_false_of_any outside mem)
  have none : punctuation? c = none :=
    punctuation?_eq_none fun mem => apart c (by simp [mem]) rfl
  rw [Lexicon.scanMarkup, if_neg (apart '<' (by simp)), if_neg (apart ']' (by simp)),
    if_neg (apart '@' (by simp)), if_neg (apart '-' (by simp)), none]

/-- White space begins a run of it. -/
theorem scanMarkup_space {lexicon : Lexicon} {c : Char} (space : isSpace c = true)
    (rest : List Char) :
    lexicon.scanMarkup c rest = ⟨.whitespace, (c :: rest).takeWhile isSpace, none⟩ := by
  rw [scanMarkup_plain space (by decide), if_pos space]

/-- A run of white space before anything else. -/
theorem cuts_blanks {blanks rest : List Char} (nonempty : blanks ≠ [])
    (spaces : ∀ c ∈ blanks, isSpace c = true) (stop : ∀ c ∈ rest.head?, isSpace c = false) :
    Cuts ⟨.whitespace, blanks, none⟩ rest := by
  obtain ⟨c, more, rfl⟩ := List.exists_cons_of_ne_nil nonempty
  have space : isSpace c = true := spaces c List.mem_cons_self
  have run : (c :: (more ++ rest)).takeWhile isSpace = c :: more := takeWhile_exact spaces stop
  show standard.scan (c :: (more ++ rest)) = _
  rw [scan_markup (ne_of_class space rfl) (ne_of_class space rfl), scanMarkup_space space, run]

/-- A run of letters before anything else. -/
theorem cuts_letters {word rest : List Char} (nonempty : word ≠ [])
    (letters : ∀ c ∈ word, isAsciiLetter c = true)
    (stop : ∀ c ∈ rest.head?, isAsciiLetter c = false) :
    Cuts ⟨(TokenKind.ofWord? (String.ofList word)).getD .letters, word, none⟩ rest := by
  obtain ⟨c, more, rfl⟩ := List.exists_cons_of_ne_nil nonempty
  have letter : isAsciiLetter c = true := letters c List.mem_cons_self
  have run : (c :: (more ++ rest)).takeWhile isAsciiLetter = c :: more :=
    takeWhile_exact letters stop
  have notSpace : isSpace c = false := isSpace_eq_false letter (by decide)
  show standard.scan (c :: (more ++ rest)) = _
  rw [scan_markup (ne_of_class letter rfl) (ne_of_class letter rfl),
    scanMarkup_plain letter (by decide), notSpace, letter, run]
  rfl

/-! ## Tags -/

/-- Small letters are their own lower case. -/
theorem toLower_of_small {name : String} (small : ∀ c ∈ name.toList, isSmallLetter c = true) :
    toLower name = name := by
  have same (before text : List Char) (all : ∀ c ∈ text, isSmallLetter c = true) :
      lowerAfter before text = text := by
    induction text generalizing before with
    | nil => rfl
    | cons c rest ih =>
      have bounds : 97 ≤ c.toNat ∧ c.toNat ≤ 122 := by
        simpa [isSmallLetter] using all c List.mem_cons_self
      have own : lowerOf c = [c] := by
        rw [lowerOf, if_pos (by omega), if_neg (by simp; omega)]
      rw [lowerAfter, if_neg (by omega), own, ih _ fun d mem => all d (List.mem_cons_of_mem c mem)]
      rfl
  rw [toLower, same [] _ small, String.ofList_toList]

theorem standard_blockTag : standard.blockTag = "js" :=
  toLower_of_small (List.all_eq_true.1 (by decide))

/-- The name of a tag ends where a character stands that cannot belong to it. -/
theorem tagNameOf_exact {name rest : List Char} (nonempty : name ≠ [])
    (small : ∀ c ∈ name, isSmallLetter c = true) (stop : ∀ c ∈ rest.head?, endsTagName c = true) :
    tagNameOf (name ++ rest) = name := by
  have belongs (c : Char) (mem : c ∈ name) :
      isAsciiLetterOrDigit c = true ∧ (!endsTagName c) = true := by
    have letter := small c mem
    constructor
    · simp only [isSmallLetter, Bool.and_eq_true, decide_eq_true_eq] at letter
      simp [isAsciiLetterOrDigit, isAsciiLetter, letter]
    · have apart (d : Char) (outside : isSmallLetter d = false) : (c == d) = false :=
        beq_false_of_ne (ne_of_class letter outside)
      simp [endsTagName, isSpace, apart '/' rfl, apart '>' rfl, apart ' ' rfl, apart '\t' rfl,
        apart '\n' rfl]
  have run : (name ++ rest).takeWhile (!endsTagName ·) = name :=
    takeWhile_exact (fun c mem => (belongs c mem).2) fun c first => by simp [stop c first]
  obtain ⟨c, more, rfl⟩ := List.exists_cons_of_ne_nil nonempty
  show (if isAsciiLetterOrDigit c then (c :: more ++ rest).takeWhile (!endsTagName ·) else []) = _
  rw [if_pos (belongs c List.mem_cons_self).1, run]

/-- A tag of a name in small letters opens a block if it is the block tag, and else an
element. -/
theorem scanOpening_small {name rest : List Char} (nonempty : name ≠ [])
    (small : ∀ c ∈ name, isSmallLetter c = true) (stop : ∀ c ∈ rest.head?, endsTagName c = true) :
    standard.scanOpening (name ++ rest) =
      if String.ofList name = "js" then
        ⟨(scanBlock ('<' :: name) rest).1, (scanBlock ('<' :: name) rest).2, some "js"⟩
      else ⟨.elementStart, '<' :: name, some (String.ofList name)⟩ := by
  have lower : toLower (String.ofList name) = String.ofList name :=
    toLower_of_small (by simpa using small)
  rw [Lexicon.scanOpening, tagNameOf_exact nonempty small stop]
  cases name with
  | nil => exact absurd rfl nonempty
  | cons c more =>
    simp only [lower, standard_blockTag, List.drop_left]
    split_ifs with block
    · rw [block]
    · rfl

/-- The same for a closing tag. -/
theorem scanClosing_small {name rest : List Char} (nonempty : name ≠ [])
    (small : ∀ c ∈ name, isSmallLetter c = true) (stop : ∀ c ∈ rest.head?, endsTagName c = true) :
    standard.scanClosing (name ++ rest) =
      ⟨if String.ofList name = "js" then .blockClosingStart else .elementClosingStart,
        '<' :: '/' :: name, some (String.ofList name)⟩ := by
  have lower : toLower (String.ofList name) = String.ofList name :=
    toLower_of_small (by simpa using small)
  rw [Lexicon.scanClosing, tagNameOf_exact nonempty small stop]
  cases name with
  | nil => exact absurd rfl nonempty
  | cons c more => simp only [lower, standard_blockTag]

/-- An angle bracket before a small letter is that of an opening tag. -/
theorem scanAngle_small {name rest : List Char} (nonempty : name ≠ [])
    (small : ∀ c ∈ name, isSmallLetter c = true) :
    standard.scan ('<' :: (name ++ rest)) = some (standard.scanOpening (name ++ rest)) := by
  obtain ⟨c, more, rfl⟩ := List.exists_cons_of_ne_nil nonempty
  have letter := small c List.mem_cons_self
  have notSlash : c ≠ '/' := ne_of_class letter rfl
  have notMark : c ≠ '!' := ne_of_class letter rfl
  rw [scan_markup (by decide) (by decide), Lexicon.scanMarkup, if_pos rfl, Lexicon.scanAngle]
  · rintro _ same
    exact notSlash (List.cons.inj same).1
  · rintro _ same
    exact notMark (List.cons.inj same).1

section Tags

variable {rest : List Char}

/-- A block opener with a keyword, before what cannot belong to the keyword. -/
theorem cuts_opener {keyword : String} (plain : ∀ c ∈ keyword.toList, endsKeyword c = false)
    (stop : ∀ c ∈ rest.head?, endsKeyword c = true) :
    Cuts ⟨(TokenKind.ofBlockWord? keyword).getD .unknown, Writing.opener keyword, some "js"⟩
      rest := by
  have word : (keyword.toList ++ rest).takeWhile (!endsKeyword ·) = keyword.toList :=
    takeWhile_exact (fun c mem => by simp [plain c mem]) fun c first => by simp [stop c first]
  have small : ∀ c ∈ ['j', 's'], isSmallLetter c = true := List.all_eq_true.1 rfl
  show standard.scan ('<' :: (['j', 's'] ++ ' ' :: '@' :: (keyword.toList ++ rest))) = _
  rw [scanAngle_small (by simp) small, scanOpening_small (by simp) small (by simp; rfl),
    if_pos rfl]
  show some (Piece.mk ((TokenKind.ofBlockWord? (String.ofList
      ((keyword.toList ++ rest).takeWhile (!endsKeyword ·)))).getD .unknown)
    ('<' :: 'j' :: 's' :: ' ' :: '@' :: (keyword.toList ++ rest).takeWhile (!endsKeyword ·))
    (some "js")) = _
  rw [word, String.ofList_toList]
  rfl

/-- A block opener without a keyword. -/
theorem cuts_scope : Cuts ⟨.scope, ['<', 'j', 's'], some "js"⟩ ('>' :: rest) := by
  have small : ∀ c ∈ ['j', 's'], isSmallLetter c = true := List.all_eq_true.1 rfl
  show standard.scan ('<' :: (['j', 's'] ++ '>' :: rest)) = _
  rw [scanAngle_small (by simp) small, scanOpening_small (by simp) small (by simp; rfl),
    if_pos rfl]
  rfl

/-- The closing tag of a block. -/
theorem cuts_closer :
    Cuts ⟨.blockClosingStart, ['<', '/', 'j', 's'], some "js"⟩ ('>' :: rest) := by
  have small : ∀ c ∈ ['j', 's'], isSmallLetter c = true := List.all_eq_true.1 rfl
  have closing := @scanClosing_small ['j', 's'] ('>' :: rest) (by simp) small (by simp; rfl)
  show some (standard.scanClosing (['j', 's'] ++ '>' :: rest)) = _
  rw [closing, if_pos rfl]

variable {name : String}

/-- The start of an element. -/
theorem cuts_element (named : IsTagName name) (stop : ∀ c ∈ rest.head?, endsTagName c = true) :
    Cuts ⟨.elementStart, '<' :: name.toList, some name⟩ rest := by
  show standard.scan ('<' :: (name.toList ++ rest)) = _
  rw [scanAngle_small named.nonempty named.letters,
    scanOpening_small named.nonempty named.letters stop, String.ofList_toList,
    if_neg named.notBlock]

/-- The closing tag of an element. -/
theorem cuts_elementClosing (named : IsTagName name)
    (stop : ∀ c ∈ rest.head?, endsTagName c = true) :
    Cuts ⟨.elementClosingStart, '<' :: '/' :: name.toList, some name⟩ rest := by
  show some (standard.scanClosing (name.toList ++ rest)) = _
  rw [scanClosing_small named.nonempty named.letters stop, String.ofList_toList,
    if_neg named.notBlock]

/-- The word before the parameters of a print block. -/
theorem cuts_block : Cuts ⟨.blockAttribute, '@' :: "block".toList, none⟩ ('=' :: rest) := rfl

/-- The word before the context of another view. -/
theorem cuts_context : Cuts ⟨.contextAttribute, '@' :: "context".toList, none⟩ ('=' :: rest) :=
  rfl

end Tags

/-! ## Tokens inside a text -/

/-- A character that can stand in a token that begins with another one, outside the names
of tags and keywords. -/
def Joins (c d : Char) : Prop :=
  d ∈ ['-', '>', ']', '=', '#', '\x7d', '@'] ∨ (isSpace c = true ∨ c = '<') ∧ isSpace d = true
    ∨ isAsciiLetter c = true ∧ isAsciiLetter d = true
    ∨ isAsciiDigit c = true ∧ isAsciiDigit d = true

theorem not_joins {c d : Char} (mark : d ∉ ['-', '>', ']', '=', '#', '\x7d', '@'])
    (space : isSpace c = true ∨ c = '<' → isSpace d = false) (notLetter : isAsciiLetter d = false)
    (notDigit : isAsciiDigit d = false) : ¬ Joins c d := by
  rintro (fixed | ⟨first, spaces⟩ | letters | digits)
  · exact mark fixed
  · exact absurd (space first) (by simp [spaces])
  · exact absurd notLetter (by simp [letters.2])
  · exact absurd notDigit (by simp [digits.2])

/-- All characters of a run are of its class. -/
theorem mem_tail_run {belongs : Char → Bool} {c d : Char} {rest : List Char}
    (first : belongs c = true) (mem : d ∈ ((c :: rest).takeWhile belongs).tail) :
    belongs d = true := by
  rw [List.takeWhile_cons_of_pos first, List.tail_cons] at mem
  exact List.all_eq_true.1 List.all_takeWhile d mem

/-- Which characters stand behind the first one in a token of markup. -/
theorem scanMarkup_joins {c d : Char} {rest : List Char} (notTag : c ≠ '<') (notWord : c ≠ '@')
    (mem : d ∈ (standard.scanMarkup c rest).text.tail) : Joins c d := by
  rw [Lexicon.scanMarkup, if_neg notTag] at mem
  split at mem
  · left
    unfold scanSquare at mem
    split at mem
    · rcases List.mem_pair.1 mem with rfl | rfl <;> decide
    · cases mem
  split at mem
  · left
    unfold scanDashes at mem
    split at mem
    · rcases List.mem_pair.1 mem with rfl | rfl <;> decide
    · rw [List.mem_singleton.1 mem]
      decide
    · cases mem
  split at mem
  · cases mem
  · split_ifs at mem with space letter digit
    · exact .inr (.inl ⟨.inl space, mem_tail_run space mem⟩)
    · exact .inr (.inr (.inl ⟨letter, mem_tail_run letter mem⟩))
    · exact .inr (.inr (.inr ⟨digit, mem_tail_run digit mem⟩))
    · cases mem

/-- Which characters stand behind an at sign in a token. -/
theorem scanAt_continues {d : Char} {rest : List Char} (mem : d ∈ (scanAt rest).text.tail) :
    endsKeyword d = false := by
  unfold scanAt at mem
  split at mem
  · split at mem
    · have belongs := List.all_eq_true.1 List.all_takeWhile d mem
      simpa using belongs
    · cases mem
  · cases mem

/-- No character of a tag's name ends it. -/
theorem tagNameOf_plain {c : Char} {text : List Char} (mem : c ∈ tagNameOf text) :
    isSpace c = false ∧ c ≠ '>' := by
  have inside : endsTagName c = false := by
    unfold tagNameOf at mem
    split at mem
    · split at mem
      · simpa using List.all_eq_true.1 List.all_takeWhile c mem
      · cases mem
    · cases mem
  simp only [endsTagName, Bool.or_eq_false_iff, beq_eq_false_iff_ne] at inside
  exact ⟨inside.2, inside.1.2⟩

/-- **The shape of a tag**: behind its bracket stands a word, then white space, and then,
in the opener of a block, a keyword. -/
theorem scanAngle_shape (rest : List Char) :
    ∃ word blanks keyword, (standard.scanAngle rest).text = '<' :: (word ++ (blanks ++ keyword))
      ∧ (∀ c ∈ word, isSpace c = false ∧ c ≠ '>') ∧ (∀ c ∈ blanks, isSpace c = true)
      ∧ ∀ d more, keyword = d :: more → d = '@' ∧ ∀ c ∈ more, endsKeyword c = false := by
  have only {piece : Piece} (word : List Char) (text : piece.text = '<' :: word)
      (plain : ∀ c ∈ word, isSpace c = false ∧ c ≠ '>') :
      ∃ word blanks keyword, piece.text = '<' :: (word ++ (blanks ++ keyword))
        ∧ (∀ c ∈ word, isSpace c = false ∧ c ≠ '>') ∧ (∀ c ∈ blanks, isSpace c = true)
        ∧ ∀ d more, keyword = d :: more → d = '@' ∧ ∀ c ∈ more, endsKeyword c = false :=
    ⟨word, [], [], by simp [text], plain, by simp, nofun⟩
  unfold Lexicon.scanAngle
  split
  · rename_i after
    unfold Lexicon.scanClosing
    split
    · exact only ['/'] rfl (by simp [isSpace])
    · refine only ('/' :: tagNameOf after) rfl (List.forall_mem_cons.2 ⟨by decide, fun c => ?_⟩)
      exact tagNameOf_plain
  · unfold scanDeclaration
    split_ifs
    · exact only _ rfl (by simp [isSpace])
    · exact only _ rfl (by simp [isSpace])
    · exact only _ rfl (by simp [isSpace])
    · exact only _ rfl (by simp [isSpace])
  · unfold Lexicon.scanOpening
    split
    · exact only [] rfl (by simp)
    · dsimp only
      have blank (c : Char)
          (mem : c ∈ (rest.drop (tagNameOf rest).length).takeWhile isSpace) : isSpace c = true :=
        List.all_eq_true.1 List.all_takeWhile c mem
      split_ifs
      · unfold scanBlock
        split
        · rename_i behind _
          refine ⟨_, _, '@' :: behind.takeWhile (!endsKeyword ·), by simp; rfl,
            fun c => tagNameOf_plain, blank, ?_⟩
          rintro d more ⟨⟩
          exact ⟨rfl, fun c mem => by simpa using List.all_eq_true.1 List.all_takeWhile c mem⟩
        · exact ⟨_, _, [], by simp; rfl, fun c => tagNameOf_plain, blank, nofun⟩
      · exact only (tagNameOf rest) rfl fun c => tagNameOf_plain

/-- A tag does not reach beyond a text in which its name ends and every keyword does. -/
theorem scanAngle_stays {text rest : List Char} {d : Char}
    (ends : ∃ c ∈ text, isSpace c = true ∨ c = '>')
    (words : ∀ after, '@' :: after <:+ text → ∃ c ∈ after ++ [d], endsKeyword c = true)
    (apart : ¬ Joins '<' d) : ¬ '<' :: (text ++ [d]) <+: (standard.scanAngle rest).text := by
  have notSpace : isSpace d ≠ true := fun space => apart (.inr (.inl ⟨.inr rfl, space⟩))
  have notAt : d ≠ '@' := fun same => apart (.inl (by simp [same]))
  obtain ⟨word, blanks, keyword, same, plain, spaces, starts⟩ := scanAngle_shape rest
  rw [same, List.cons_prefix_cons]
  rintro ⟨-, more, split⟩
  rw [List.append_assoc, List.append_eq_append_iff] at split
  obtain ⟨longer, rfl, -⟩ | ⟨beyond, rfl, split⟩ := split
  -- The word takes all of the text, and what ends the name of the tag.
  · obtain ⟨c, mem, space | rfl⟩ := ends
    · have other := (plain c (List.mem_append_left _ mem)).1
      rw [space] at other
      cases other
    · exact (plain _ (List.mem_append_left _ mem)).2 rfl
  · obtain ⟨left, rfl, parts⟩ | ⟨longer, rfl, parts⟩ := List.append_eq_append_iff.1 split
    -- The keyword begins in the text, and so ends before the next character.
    · cases left with
      | nil => exact notAt (starts _ _ parts).1
      | cons b left =>
        obtain ⟨rfl, stays⟩ := starts _ _ parts
        obtain ⟨c, mem, stop⟩ := words left ⟨word ++ blanks, by simp⟩
        have inside : c ∈ left ++ d :: more := by
          rcases List.mem_append.1 mem with before | last
          · exact List.mem_append_left _ before
          · rw [List.mem_singleton.1 last]
            simp
        have other := stays c inside
        rw [stop] at other
        cases other
    -- The blanks take the next character, or the keyword begins with it.
    · cases longer with
      | nil => exact notAt (starts _ _ parts.symm).1
      | cons b longer =>
        cases parts
        exact notSpace (spaces d (by simp))

/-- The openers of embedded snippets differ in their last character. -/
theorem scanOpener_start (text : List Char) :
    ∃ last ∈ ['=', '#'], (standard.scanOpener text).text <+: ['\x7b', '%', last] := by
  rw [Lexicon.scanOpener]
  split_ifs
  · exact ⟨'=', by simp, List.prefix_rfl⟩
  · exact ⟨'#', by simp, List.prefix_rfl⟩
  · exact ⟨'=', by simp, List.prefix_append ['\x7b', '%'] ['=']⟩

/-- **A token of a text ends inside it**, if the character behind the text joins nothing
and every tag and keyword that begins in the text has an end. -/
theorem scan_covers_front {c : Char} {text rest : List Char} {piece : Piece}
    (tag : c = '<' → ∃ d ∈ text, isSpace d = true ∨ d = '>')
    (words : ∀ after, '@' :: after <:+ c :: text →
      ∃ d ∈ after ++ rest.head?.toList, endsKeyword d = true)
    (apart : ∀ d ∈ rest.head?, ¬ Joins c d)
    (notOpener : c = '\x7b' → text = [] → rest.head? ≠ some '%')
    (found : standard.scan (c :: (text ++ rest)) = some piece) : piece.Covers (c :: text) := by
  have covers : piece.Covers ((c :: text) ++ rest) :=
    Lexicon.scan_covers standard_hasDelimiters found
  refine ⟨covers.nonempty, ?_⟩
  by_cases short : piece.text.length ≤ (c :: text).length
  · exact List.prefix_of_prefix_length_le covers.start (List.prefix_append _ _) short
  -- Otherwise the token takes the first character of the rest.
  obtain ⟨d, more, rfl⟩ : ∃ d more, rest = d :: more := by
    cases rest with
    | nil =>
      have le := covers.start.length_le
      rw [List.append_nil] at le
      exact absurd le short
    | cons d more => exact ⟨d, more, rfl⟩
  have crossed : (c :: text) ++ [d] <+: piece.text := by
    have whole : (c :: text) ++ [d] <+: (c :: text) ++ d :: more := by simp
    exact List.prefix_of_prefix_length_le whole covers.start (by simp at short ⊢; omega)
  have joins : ¬ Joins c d := apart d rfl
  exfalso
  rw [Lexicon.scan] at found
  split at found
  · cases found
    obtain ⟨last, among, start⟩ := scanOpener_start (c :: (text ++ d :: more))
    have inside := crossed.trans start
    cases text with
    | nil =>
      have same : c = '\x7b' ∧ d = '%' := by simpa using inside
      exact notOpener same.1 rfl (by rw [same.2]; rfl)
    | cons e others =>
      have same : others = [] ∧ d = last := by
        cases others with
        | nil => simpa using (by simpa using inside : c = '\x7b' ∧ e = '%' ∧ d = last).2.2
        | cons _ _ => simp at inside
      refine joins (.inl ?_)
      rw [same.2]
      rcases List.mem_pair.1 among with rfl | rfl <;> decide
  · split at found
    · cases found
      have inside : (c :: text) ++ [d] <+: ['%', '\x7d'] := crossed
      refine joins (.inl ?_)
      cases text with
      | nil =>
        have same : c = '%' ∧ d = '\x7d' := by simpa using inside
        rw [same.2]
        decide
      | cons e others => simp at inside
    · cases found
      have mem : d ∈ (standard.scanMarkup c (text ++ d :: more)).text.tail := by
        obtain ⟨behind, same⟩ := crossed
        rw [← same]
        simp
      by_cases angle : c = '<'
      · subst angle
        refine scanAngle_stays (tag rfl) (fun after within => ?_) joins crossed
        exact words after (within.trans (List.suffix_cons _ _))
      · by_cases keyword : c = '@'
        · subst keyword
          obtain ⟨e, among, stop⟩ := words text List.suffix_rfl
          have stays : ∀ e ∈ text ++ [d], endsKeyword e = false := fun e inside => by
            obtain ⟨behind, same⟩ := crossed
            refine @scanAt_continues e (text ++ d :: more) ?_
            show e ∈ (standard.scanMarkup '@' (text ++ d :: more)).text.tail
            rw [← same]
            simp only [List.cons_append, List.tail_cons]
            exact List.mem_append_left _ inside
          rw [stays e among] at stop
          cases stop
        · exact joins (scanMarkup_joins angle keyword mem)

/-! ## Kinds of tokens -/

/-- A mark is no white space. -/
theorem punctuation?_ne_whitespace (c : Char) : punctuation? c ≠ some .whitespace := by
  by_cases mem : c ∈ marks
  · simp only [marks, List.mem_cons, List.not_mem_nil, or_false] at mem
    rcases mem with rfl | rfl | rfl | rfl | rfl | rfl | rfl | rfl | rfl | rfl | rfl | rfl | rfl
      | rfl <;> decide
  · rw [punctuation?_eq_none mem]
    exact nofun

/-- What a run of letters is. -/
theorem kindOf_word (word : String) :
    (TokenKind.ofWord? word).getD .letters ∈ [.letters, .inKeyword, .ofKeyword] := by
  unfold TokenKind.ofWord?
  split <;> decide

/-- No tag is white space. -/
theorem scanAngle_ne_whitespace {lexicon : Lexicon} (rest : List Char) :
    (lexicon.scanAngle rest).kind ≠ .whitespace := by
  unfold Lexicon.scanAngle
  split
  · unfold Lexicon.scanClosing
    split
    · exact nofun
    · dsimp only
      split_ifs <;> exact nofun
  · unfold scanDeclaration
    split_ifs <;> exact nofun
  · unfold Lexicon.scanOpening
    split
    · exact nofun
    · dsimp only
      split_ifs
      · unfold scanBlock TokenKind.ofBlockWord?
        split
        · dsimp only
          split <;> exact nofun
        · exact nofun
      · exact nofun

/-- A token that begins with no space is no white space. -/
theorem scan_ne_whitespace {lexicon : Lexicon} {c : Char} (notSpace : isSpace c = false)
    {rest : List Char} {piece : Piece} (found : lexicon.scan (c :: rest) = some piece) :
    piece.kind ≠ .whitespace := by
  rw [Lexicon.scan] at found
  split at found
  · cases found
    rw [Lexicon.scanOpener]
    split_ifs <;> exact TokenKind.noConfusion
  split at found
  · cases found
    exact TokenKind.noConfusion
  cases found
  rw [Lexicon.scanMarkup]
  split
  · exact scanAngle_ne_whitespace rest
  split
  · unfold scanSquare
    split <;> exact TokenKind.noConfusion
  split
  · unfold scanAt
    split
    · split
      · dsimp only [TokenKind.ofAttributeWord?]
        split <;> exact TokenKind.noConfusion
      · exact TokenKind.noConfusion
    · exact TokenKind.noConfusion
  split
  · unfold scanDashes
    split <;> exact TokenKind.noConfusion
  split
  · rename_i found
    exact fun same => punctuation?_ne_whitespace c (found.trans (congrArg some same))
  · rw [if_neg (by simp [notSpace])]
    split_ifs
    · have among := kindOf_word (String.ofList ((c :: rest).takeWhile isAsciiLetter))
      intro same
      dsimp only at same
      rw [same] at among
      exact absurd among (by decide)
    · exact TokenKind.noConfusion
    · exact TokenKind.noConfusion

/-- White space is cut off as a whole. -/
theorem text_of_whitespace {lexicon : Lexicon} {text : List Char} {piece : Piece}
    (found : lexicon.scan text = some piece) (kind : piece.kind = .whitespace) :
    piece.text = text.takeWhile isSpace := by
  cases text with
  | nil => cases found
  | cons c rest =>
    have space : isSpace c = true := by
      by_contra notSpace
      exact scan_ne_whitespace (Bool.not_eq_true _ ▸ notSpace) found kind
    rw [Lexicon.scan] at found
    split at found
    · cases found
      rw [Lexicon.scanOpener] at kind
      split_ifs at kind
    split at found
    · cases found
      cases kind
    cases found
    rw [scanMarkup_space space]

theorem firstKind_ne_whitespace {c : Char} (notSpace : isSpace c = false) (rest : List Char) :
    firstKind (c :: rest) ≠ some .whitespace := by
  intro same
  obtain ⟨piece, found, kind⟩ := Option.map_eq_some_iff.1 same
  exact scan_ne_whitespace notSpace found kind

section Kinds

variable {c : Char} {rest : List Char}

theorem firstKind_letter (letter : isAsciiLetter c = true) :
    ∃ kind ∈ [.letters, .inKeyword, .ofKeyword], firstKind (c :: rest) = some kind := by
  have notSpace : isSpace c = false := isSpace_eq_false letter (by decide)
  refine ⟨_, kindOf_word (String.ofList ((c :: rest).takeWhile isAsciiLetter)), ?_⟩
  rw [firstKind, scan_markup (ne_of_class letter rfl) (ne_of_class letter rfl),
    scanMarkup_plain letter (by decide), notSpace, letter]
  rfl

theorem firstKind_digit (digit : isAsciiDigit c = true) :
    firstKind (c :: rest) = some .numbers := by
  have notSpace : isSpace c = false := isSpace_eq_false digit (by decide)
  have notLetter : isAsciiLetter c = false := by
    simp only [isAsciiDigit, Bool.and_eq_true, decide_eq_true_eq] at digit
    simp only [isAsciiLetter, Bool.or_eq_false_iff, Bool.and_eq_false_iff, decide_eq_false_iff_not]
    omega
  rw [firstKind, scan_markup (ne_of_class digit rfl) (ne_of_class digit rfl),
    scanMarkup_plain digit (by decide), notSpace, notLetter, digit]
  rfl

/-- A letter of whatever script begins no structure. -/
theorem firstKind_anyLetter (letter : isLetter c = true) :
    ∃ kind ∈ [.letters, .inKeyword, .ofKeyword, .numbers, .unknown],
      firstKind (c :: rest) = some kind := by
  have notSpace : isSpace c = false := isSpace_eq_false letter (by decide)
  rw [firstKind, scan_markup (ne_of_class letter rfl) (ne_of_class letter rfl),
    scanMarkup_plain letter (by decide), notSpace, Option.map_some]
  simp only [Option.some.injEq, exists_eq_right']
  by_cases ascii : isAsciiLetter c = true
  · have word := kindOf_word (String.ofList ((c :: rest).takeWhile isAsciiLetter))
    rw [ascii]
    simp only [List.mem_cons] at word ⊢
    tauto
  · rw [Bool.not_eq_true] at ascii
    rw [ascii]
    by_cases digit : isAsciiDigit c = true
    · simp [digit]
    · simp [digit]

/-- A character of a name begins a token that belongs to the name. -/
theorem firstKind_namePart (part : isNamePart c = true) :
    ∃ kind, firstKind (c :: rest) = some kind ∧ continuesVariable kind = true := by
  simp only [isNamePart, isAsciiLetterOrDigit, Bool.or_eq_true, beq_iff_eq] at part
  rcases part with ((letter | digit) | rfl) | rfl
  · obtain ⟨kind, among, first⟩ := @firstKind_letter c rest letter
    refine ⟨kind, first, ?_⟩
    simp only [List.mem_cons, List.not_mem_nil, or_false] at among
    rcases among with rfl | rfl | rfl <;> rfl
  · exact ⟨.numbers, firstKind_digit digit, rfl⟩
  · exact ⟨.underscore, rfl, rfl⟩
  · exact ⟨.dollar, rfl, rfl⟩

end Kinds

end ViewTemplate.Document
