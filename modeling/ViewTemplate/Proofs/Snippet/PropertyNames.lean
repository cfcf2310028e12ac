import ViewTemplate.Proofs.Snippet.Blanks

/-!
# Words as names of properties

A word behind a point, behind a question mark and a point, or before the colon of a
property in an object names a property, be it the name of a variable or a keyword: all
words but `true` and `false`.

These two are keywords for the scanner, but it gives them a kind of their own, and where
names of properties are read this kind is not among those that are words.  So they are
refused in all three places, though what is read there is meant to be any keyword.

What the scanner finds at a word does not depend on what stands behind it, if that does
not go on with the word (`IsWord.scan_append`).  The tokens of a snippet around a word are
then known up to the kind of the word, and reading them is a matter of computation.

## Main Definitions

* `IsWord` — words
* `IsTruthWord` — the words of the truth values

## Main Results

* `word_names_property` — which words name properties, in all three places

-/

namespace ViewTemplate.Snippet

open ViewTemplate.Text

/-! ## Words -/

/-- **A word**: a letter, an underscore or a dollar sign, and behind it letters, numerals,
underscores and dollar signs. -/
def IsWord (word : String) : Prop :=
  ∃ c rest, word.toList = c :: rest ∧ isWordStart c = true ∧ rest.all isWordPart = true

/-- The words of the truth values. -/
def IsTruthWord (word : String) : Prop :=
  word = "true" ∨ word = "false"

variable {word : String} {c : Char} {text behind : List Char}

namespace IsWord

theorem ne_nil (isWord : IsWord word) : word.toList ≠ [] := by
  obtain ⟨c, rest, same, -, -⟩ := isWord
  simp [same]

theorem startsWithDigit_append (isWord : IsWord word) (behind : List Char) :
    startsWithDigit (word.toList ++ behind) = false := by
  obtain ⟨c, rest, same, starts, -⟩ := isWord
  rw [same]
  exact isWordStart_notDigit starts

theorem dropBlanks_append (isWord : IsWord word) (behind : List Char) :
    dropBlanks (word.toList ++ behind) = word.toList ++ behind := by
  obtain ⟨c, rest, same, starts, -⟩ := isWord
  have notBlank : ¬ isBlank c = true := by
    intro blank
    have other := isWordPart_excludesBlanks c blank
    rw [isWordPart_of_isWordStart starts] at other
    cases other
  rw [same]
  exact List.dropWhile_cons_of_neg notBlank

/-- **A word is found whatever stands behind it**, if that does not go on with it. -/
theorem scan_append (isWord : IsWord word) (behind : List Char)
    (ends : behind.takeWhile isWordPart = []) :
    scan (word.toList ++ behind) = (.ok (lexemeOfWord word), behind) := by
  obtain ⟨c, rest, same, starts, parts⟩ := isWord
  have all : ∀ d ∈ word.toList, isWordPart d = true := by
    rw [same]
    exact List.forall_mem_cons.2 ⟨isWordPart_of_isWordStart starts, List.all_eq_true.1 parts⟩
  have split := List.takeWhile_append_dropWhile (p := isWordPart) (l := behind)
  rw [ends, List.nil_append] at split
  have scanned : scanWord (word.toList ++ behind) = (.ok (lexemeOfWord word), behind) := by
    rw [scanWord, List.takeWhile_append_of_pos all, List.dropWhile_append_of_pos all, ends, split,
      List.append_nil, String.ofList_toList]
  rw [← scanned, same, List.cons_append]
  exact scan_word starts

end IsWord

/-! ## What kind a word is -/

theorem lexemeOfWord_truth (truth : IsTruthWord word) :
    ∃ value, lexemeOfWord word = .boolean value := by
  rcases truth with rfl | rfl
  · exact ⟨true, rfl⟩
  · exact ⟨false, rfl⟩

/-- A word that is a keyword is spelled as that. -/
theorem Keyword.word_of_ofWord? {keyword : Keyword} (found : ofWord? word = some keyword) :
    keyword.word = word := by
  unfold ofWord? at found
  split at found <;> cases found <;> rfl

/-- Words that are no truth values are names or keywords, with the word as their name. -/
theorem lexemeOfWord_plain (plain : ¬ IsTruthWord word) :
    lexemeOfWord word = .identifier word
      ∨ ∃ keyword : Keyword, lexemeOfWord word = .keyword keyword ∧ keyword.word = word := by
  rw [IsTruthWord, not_or] at plain
  rw [lexemeOfWord, if_neg plain.1, if_neg plain.2]
  cases found : Keyword.ofWord? word with
  | none => exact .inl rfl
  | some keyword => exact .inr ⟨keyword, rfl, Keyword.word_of_ofWord? found⟩

/-! ## The tokens around a word -/

/-- One more token in front, with its offsets counted from the start. -/
theorem Lexed.next {length start stop : Nat} {shown rest : List Char} {lexeme : Lexeme}
    {tokens : List Token} (scanned : scan shown = (.ok lexeme, rest)) (nonempty : shown ≠ [])
    (skipped : dropBlanks text = shown) (first : length = start + shown.length)
    (last : length = stop + rest.length) (behind : Lexed length rest (.ok tokens)) :
    Lexed length text (.ok (⟨lexeme, ⟨start, stop⟩⟩ :: tokens)) := by
  have token := Lexed.token (skipped.symm ▸ nonempty) (skipped.symm ▸ scanned) behind
  rwa [skipped, Nat.sub_eq_of_eq_add first, Nat.sub_eq_of_eq_add last] at token

/-- What stands between an object and the name of its member. -/
def markText : (optional : Bool) → List Char
  | false => ['.']
  | true => ['?', '.']

/-- Before a word the mark is what it is meant to be. -/
theorem scan_markText (plain : startsWithDigit text = false) (optional : Bool) :
    scan (markText optional ++ text) = (.ok (.symbol (memberMark optional)), text) := by
  cases optional
  · simp [markText, scan, plain]
    rfl
  · simp [markText, scan, scanSymbol, Symbol.spellings, symbolFrom, after?, plain]
    rfl

/-- The tokens of a member of `a`. -/
theorem tokenize_member (isWord : IsWord word) (optional : Bool) {snippet : String}
    (same : snippet.toList = 'a' :: (markText optional ++ word.toList)) {start stop : Nat}
    (name : start = 1 + (markText optional).length) (all : stop = start + word.toList.length) :
    tokenize snippet = .ok [⟨.identifier "a", ⟨0, 1⟩⟩, ⟨.symbol (memberMark optional), ⟨1, start⟩⟩,
      ⟨lexemeOfWord word, ⟨start, stop⟩⟩, ⟨.finish, ⟨stop, stop⟩⟩] := by
  have plain := isWord.startsWithDigit_append []
  have starts := isWord.dropBlanks_append []
  have scanned := isWord.scan_append [] rfl
  rw [List.append_nil] at plain starts scanned
  have receiver : scan ('a' :: (markText optional ++ word.toList))
      = (.ok (.identifier "a"), markText optional ++ word.toList) := by
    cases optional <;> rfl
  have marks : dropBlanks (markText optional ++ word.toList) = markText optional ++ word.toList := by
    cases optional <;> rfl
  have behind : stop = 1 + (markText optional ++ word.toList).length := by
    rw [List.length_append]
    omega
  have whole : stop = 0 + ('a' :: (markText optional ++ word.toList)).length := by
    rw [List.length_cons]
    omega
  refine ((lexed_iff (Nat.lt_succ_self _)).1 ?_).symm
  rw [same, ← Nat.zero_add ('a' :: _).length, ← whole]
  refine .next receiver (List.cons_ne_nil _ _) rfl whole behind ?_
  refine .next (scan_markText plain optional) (by cases optional <;> simp [markText]) marks behind
    all ?_
  exact .next scanned isWord.ne_nil starts all rfl (.finish rfl)

/-- The tokens of an object with one property. -/
theorem tokenize_object (isWord : IsWord word) {length : Nat} (all : word.toList.length = length) :
    tokenize ("\x7b" ++ word ++ ": 1\x7d") = .ok [⟨.symbol .lBrace, ⟨0, 1⟩⟩,
      ⟨lexemeOfWord word, ⟨1, length + 1⟩⟩, ⟨.symbol .colon, ⟨length + 1, length + 2⟩⟩,
      ⟨.number 1, ⟨length + 3, length + 4⟩⟩, ⟨.symbol .rBrace, ⟨length + 4, length + 5⟩⟩,
      ⟨.finish, ⟨length + 5, length + 5⟩⟩] := by
  have same : ("\x7b" ++ word ++ ": 1\x7d").toList
      = '\x7b' :: (word.toList ++ [':', ' ', '1', '\x7d']) := by
    simp [String.toList_append]
  have inside : length + 5 = 1 + (word.toList ++ [':', ' ', '1', '\x7d']).length := by
    rw [List.length_append, all]
    exact Nat.add_comm (length + 4) 1
  have whole : ('\x7b' :: (word.toList ++ [':', ' ', '1', '\x7d'])).length = length + 5 := by
    rw [inside]
    exact Nat.add_comm _ 1
  have opens : scan ('\x7b' :: (word.toList ++ [':', ' ', '1', '\x7d']))
      = (.ok (.symbol .lBrace), word.toList ++ [':', ' ', '1', '\x7d']) := rfl
  have colon : scan [':', ' ', '1', '\x7d'] = (.ok (.symbol .colon), [' ', '1', '\x7d']) := rfl
  have one : scan ['1', '\x7d'] = (.ok (.number 1), ['\x7d']) := by with_unfolding_all rfl
  have closes : scan ['\x7d'] = (.ok (.symbol .rBrace), []) := rfl
  refine ((lexed_iff (Nat.lt_succ_self _)).1 ?_).symm
  rw [same, whole]
  refine .next opens (List.cons_ne_nil _ _) rfl (by rw [whole, Nat.zero_add]) inside ?_
  refine .next (isWord.scan_append _ rfl) (by simp) (isWord.dropBlanks_append _) inside rfl ?_
  refine .next colon (List.cons_ne_nil _ _) rfl rfl rfl ?_
  refine .next one (List.cons_ne_nil _ _) rfl rfl rfl ?_
  exact .next closes (List.cons_ne_nil _ _) rfl rfl rfl (.finish rfl)

/-! ## What is read -/

section

variable {first second third fourth fifth last : Span}

theorem onTokens_member {lexeme : Lexeme}
    (plain : lexeme = .identifier word ∨ ∃ keyword : Keyword, lexeme = .keyword keyword
      ∧ keyword.word = word) (optional : Bool) :
    soleExpression.onTokens [⟨.identifier "a", first⟩, ⟨.symbol (memberMark optional), second⟩,
        ⟨lexeme, third⟩, ⟨.finish, last⟩]
      = .ok (.member ⟨first.start, third.stop⟩ (.identifier first "a") (.string third word) false
        optional) := by
  rcases plain with rfl | ⟨keyword, rfl, rfl⟩ <;> cases optional <;> rfl

theorem onTokens_object {lexeme : Lexeme} {value : Float}
    (plain : lexeme = .identifier word ∨ ∃ keyword : Keyword, lexeme = .keyword keyword
      ∧ keyword.word = word) :
    soleExpression.onTokens [⟨.symbol .lBrace, first⟩, ⟨lexeme, second⟩, ⟨.symbol .colon, third⟩,
        ⟨.number value, fourth⟩, ⟨.symbol .rBrace, fifth⟩, ⟨.finish, last⟩]
      = .ok (.object ⟨first.start, fifth.stop⟩ [⟨word, false, .number fourth value⟩]) := by
  rcases plain with rfl | ⟨keyword, rfl, rfl⟩ <;> rfl

theorem onTokens_member_boolean {value : Bool} (optional : Bool) :
    soleExpression.onTokens [⟨.identifier "a", first⟩, ⟨.symbol (memberMark optional), second⟩,
        ⟨.boolean value, third⟩, ⟨.finish, last⟩] = .error (.expectedProperty "Boolean") := by
  cases optional <;> rfl

theorem onTokens_object_boolean {truth : Bool} {value : Float} :
    soleExpression.onTokens [⟨.symbol .lBrace, first⟩, ⟨.boolean truth, second⟩,
        ⟨.symbol .colon, third⟩, ⟨.number value, fourth⟩, ⟨.symbol .rBrace, fifth⟩,
        ⟨.finish, last⟩] = .error (.expectedProperty "Boolean") :=
  rfl

end

theorem readExpression_of_tokenize {snippet : String} {tokens : List Token}
    (found : tokenize snippet = .ok tokens) :
    readExpression snippet = soleExpression.onTokens tokens := by
  rw [readExpression, Reader.onSnippet, found]

/-- **Words name properties**, behind both marks of members and before the colon in an
object, keywords as well as names of variables.  But the two words of the truth values are
refused in all three places. -/
theorem word_names_property (isWord : IsWord word) :
    (¬ IsTruthWord word →
      readExpression ("a." ++ word)
        = .ok (.member ⟨0, 2 + word.toList.length⟩ (.identifier ⟨0, 1⟩ "a")
          (.string ⟨2, 2 + word.toList.length⟩ word) false false)
      ∧ readExpression ("a?." ++ word)
        = .ok (.member ⟨0, 3 + word.toList.length⟩ (.identifier ⟨0, 1⟩ "a")
          (.string ⟨3, 3 + word.toList.length⟩ word) false true)
      ∧ readExpression ("\x7b" ++ word ++ ": 1\x7d")
        = .ok (.object ⟨0, word.toList.length + 5⟩
          [⟨word, false, .number ⟨word.toList.length + 3, word.toList.length + 4⟩ 1⟩]))
    ∧ (IsTruthWord word →
      readExpression ("a." ++ word) = .error (.expectedProperty "Boolean")
      ∧ readExpression ("a?." ++ word) = .error (.expectedProperty "Boolean")
      ∧ readExpression ("\x7b" ++ word ++ ": 1\x7d") = .error (.expectedProperty "Boolean")) := by
  have plain : ("a." ++ word).toList = 'a' :: (markText false ++ word.toList) := by
    simp [String.toList_append, markText]
  have optional : ("a?." ++ word).toList = 'a' :: (markText true ++ word.toList) := by
    simp [String.toList_append, markText]
  rw [readExpression_of_tokenize (tokenize_member isWord false plain rfl rfl),
    readExpression_of_tokenize (tokenize_member isWord true optional rfl rfl),
    readExpression_of_tokenize (tokenize_object isWord rfl)]
  constructor
  · intro other
    have named := lexemeOfWord_plain other
    exact ⟨onTokens_member named false, onTokens_member named true, onTokens_object named⟩
  · intro truth
    obtain ⟨value, boolean⟩ := lexemeOfWord_truth truth
    rw [boolean]
    exact ⟨onTokens_member_boolean false, onTokens_member_boolean true, onTokens_object_boolean⟩

/-- A keyword is a name behind a point. -/
theorem word_names_property_null :
    IsWord "null" ∧ ¬ IsTruthWord "null"
      ∧ readExpression "a.null"
        = .ok (.member ⟨0, 6⟩ (.identifier ⟨0, 1⟩ "a") (.string ⟨2, 6⟩ "null") false false) := by
  have isWord : IsWord "null" := ⟨'n', ['u', 'l', 'l'], by decide, rfl, rfl⟩
  have other : ¬ IsTruthWord "null" := by simp [IsTruthWord]
  have read := ((word_names_property isWord).1 other).1
  have whole : "a." ++ "null" = "a.null" := by decide
  have length : "null".toList.length = 4 := by decide
  rw [whole, length] at read
  exact ⟨isWord, other, read⟩

/-- The word of a truth value is refused, though it is a word. -/
theorem word_names_property_true :
    IsWord "true" ∧ readExpression "a.true" = .error (.expectedProperty "Boolean")
      ∧ readExpression "a?.true" = .error (.expectedProperty "Boolean")
      ∧ readExpression "\x7btrue: 1\x7d" = .error (.expectedProperty "Boolean") := by
  have isWord : IsWord "true" := ⟨'t', ['r', 'u', 'e'], by decide, rfl, rfl⟩
  have plain := readExpression_of_tokenize (tokenize_member isWord false
    (by decide : "a.true".toList = 'a' :: (markText false ++ "true".toList)) rfl rfl)
  have optional := readExpression_of_tokenize (tokenize_member isWord true
    (by decide : "a?.true".toList = 'a' :: (markText true ++ "true".toList)) rfl rfl)
  have object := readExpression_of_tokenize (tokenize_object isWord rfl)
  have whole : "\x7b" ++ "true" ++ ": 1\x7d" = "\x7btrue: 1\x7d" := by decide
  rw [whole] at object
  exact ⟨isWord, plain.trans (onTokens_member_boolean false),
    optional.trans (onTokens_member_boolean true), object.trans onTokens_object_boolean⟩

end ViewTemplate.Snippet
