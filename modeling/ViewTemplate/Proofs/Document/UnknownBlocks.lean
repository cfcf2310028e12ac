import Mathlib
import ViewTemplate.Proofs.Document.LiteralTexts
import ViewTemplate.Proofs.Document.NodePlaces

/-!
# Blocks with unknown keywords

A block opener with a keyword that stands for no block is one token of the kind that is
shared with characters of no meaning, and those belong to texts.  So a reader of nodes has
to tell the two apart.

It does so where a node begins, and only there.  At every place where a node is expected
such an opener is a fault, whatever the source holds before and behind it.  Inside a text
that has begun it is not looked at, and the text takes it like any other token.  What can
be said of a text is that such an opener never comes first in it.

The opener is recognised by its characters in lower case.  Its name ends before white
space, which is no letter and is not passed over where the form of a final letter is
chosen, so the name has the same lower case by itself and in the opener (`lowerAfter_append`).

## Main Definitions

* `OpensUnknown` — a token opens a block with an unknown keyword

## Main Results

* `unknown_blocks_rejected` — where such openers are faults, and where they can stand else

-/

namespace ViewTemplate

open Template

namespace Text

/-! ## Lower case up to the end of a word -/

/-- A word ends here: no letter follows that counts for the case of those before it. -/
def EndsWord (rest : List Char) : Prop :=
  ∀ c ∈ rest.head?, caseIgnorable.contains c = false ∧ cased.contains c = false

theorem startsCased_append {rest : List Char} (word : List Char) (ends : EndsWord rest) :
    startsCased (word ++ rest) = startsCased word := by
  rw [startsCased, startsCased, List.dropWhile_append]
  cases remaining : word.dropWhile (caseIgnorable.contains ·) with
  | cons c more => rfl
  | nil =>
    rw [List.isEmpty_nil, if_pos rfl]
    cases rest with
    | nil => rfl
    | cons d more =>
      obtain ⟨counts, letter⟩ := ends d rfl
      rw [List.dropWhile_cons_of_neg (by rw [counts]; decide)]
      exact letter

/-- A word has the same lower case whatever stands behind its end. -/
theorem lowerAfter_append {rest : List Char} (before word : List Char) (ends : EndsWord rest) :
    lowerAfter before (word ++ rest)
      = lowerAfter before word ++ lowerAfter (word.reverse ++ before) rest := by
  induction word generalizing before with
  | nil => rfl
  | cons c more ih =>
    rw [List.cons_append, lowerAfter, lowerAfter, ih, lowerSigma, startsCased_append more ends,
      ← lowerSigma, List.append_assoc, List.reverse_cons, List.append_assoc]
    rfl

/-- A word has the same lower case whatever stands before its start. -/
theorem lowerAfter_behind {rest : List Char} (before word : List Char) (ends : EndsWord rest) :
    lowerAfter (before ++ rest) word = lowerAfter before word := by
  induction word generalizing before with
  | nil => rfl
  | cons c more ih =>
    rw [lowerAfter, lowerAfter, ← List.cons_append, ih, lowerSigma, startsCased_append before ends,
      ← lowerSigma]

end Text

namespace Document

open Text

variable {lexicon : Lexicon} {text : List Char} {start : Nat}

/-! ## Openers with unknown keywords -/

/-- **A token opens a block with an unknown keyword**: behind an angle bracket it holds the
name of the block tag in any case, white space, an at sign, and a keyword of no block. -/
structure OpensUnknown (lexicon : Lexicon) (token : Token) : Prop where
  kind : token.kind = .unknown
  spelled : ∃ name blanks keyword : List Char,
    token.text.toList = '<' :: (name ++ (blanks ++ '@' :: keyword))
      ∧ toLower (String.ofList name) = lexicon.blockTag
      ∧ (∀ c ∈ blanks, isSpace c = true)
      ∧ TokenKind.ofBlockWord? (String.ofList keyword) = none

/-- The name of a block tag ends before white space and before an at sign. -/
theorem endsWord_keyword {blanks : List Char} (keyword : List Char)
    (blank : ∀ c ∈ blanks, isSpace c = true) : EndsWord (blanks ++ '@' :: keyword) := by
  cases blanks with
  | nil =>
    rintro c ⟨⟩
    decide
  | cons d more =>
    rintro c ⟨⟩
    have space := blank d List.mem_cons_self
    simp only [isSpace, Bool.or_eq_true, beq_iff_eq] at space
    obtain (rfl | rfl) | rfl := space <;> decide

/-- Such an opener is recognised. -/
theorem OpensUnknown.isUnknownBlock {token : Token} (opens : OpensUnknown lexicon token) :
    isUnknownBlock lexicon token = true := by
  obtain ⟨kind, name, blanks, keyword, spelled, same, blank, -⟩ := opens
  have ends : EndsWord (blanks ++ '@' :: keyword) := endsWord_keyword keyword blank
  have bracket : EndsWord ['<'] := by
    rintro c ⟨⟩
    decide
  have tag : lowerAfter [] name = lexicon.blockTag.toList := by
    rw [← same, toLower, String.toList_ofList, String.toList_ofList]
  have lower : (toLower token.text).toList
      = '<' :: (lexicon.blockTag.toList
        ++ lowerAfter (name.reverse ++ ['<']) (blanks ++ '@' :: keyword)) := by
    rw [toLower, String.toList_ofList, spelled, ← tag]
    show '<' :: lowerAfter ([] ++ ['<']) _ = _
    rw [lowerAfter_append _ _ ends, lowerAfter_behind [] name bracket, List.nil_append]
  rw [Document.isUnknownBlock, kind, Bool.and_eq_true, Bool.and_eq_true, spelled, lower]
  refine ⟨⟨rfl, ?_⟩, startsWith_iff.2 ⟨_, rfl⟩⟩
  simp

/-! ## Faults where nodes are expected -/

theorem kind_of_isUnknownBlock {token : Token}
    (unknown : isUnknownBlock lexicon token = true) : token.kind = .unknown := by
  rw [isUnknownBlock, Bool.and_eq_true, Bool.and_eq_true, decide_eq_true_iff] at unknown
  exact unknown.1.1

/-- Nodes that begin with such an opener fail at it. -/
theorem nodesUpTo_fails {nested : Reader Node} {turns : Nat} {closing : Closing} {token : Token}
    (found : (cursorAt lexicon text start).token? lexicon = some token)
    (unknown : isUnknownBlock lexicon token = true) :
    FailsWith lexicon text (nodesUpTo (nodeWith nested) (turns + 1) closing) start
      ⟨.unknownBlock token.text, positionAt lexicon.tabWidth text start⟩ := by
  have stands : Walks.kindAt lexicon text start = some .unknown := by
    rw [Walks.kindAt, found, Option.map_some, kind_of_isUnknownBlock unknown]
  have chosen : ComesTo lexicon text (nodeWith nested) start textOrUnknown start := by
    refine .peekKind ?_
    rw [stands]
    exact .refl _
  refine nodesUpTo_comesTo stands rfl (.first chosen) _ ?_
  have comes : ComesTo lexicon text textOrUnknown start
      (failAt token.position (.unknownBlock token.text) : Reader Node) start := by
    refine ComesTo.settings (.peek ?_)
    rw [found]
    dsimp only
    rw [if_pos unknown]
    exact .refl _
  rw [← position_of_token? found]
  exact comes _ rfl

/-- A reader of documents that fails is the end of parsing. -/
theorem parse_of_fails {options : LexicalOptions} {source : String} {error : ParseError}
    (valid : options.validate = .ok ())
    (fails : FailsWith options.lexicon (replaceAll source.toList ['\r', '\n'] ['\n']) document 0
      error) : parse options source = .error error := by
  rw [parse_of_validate valid, fails]
  rfl

/-- **Blocks with unknown keywords are faults where nodes are expected.**  A source that has
such an opener at any of these places, whatever stands around it, is rejected with a
syntax error that names the opener, at its position.  So in a document that is accepted,
outside of scripts and styles every text is a run of tokens among which such an opener
never comes first. -/
theorem unknown_blocks_rejected {options : LexicalOptions} {source : String}
    (valid : options.validate = .ok ()) :
    let text := replaceAll source.toList ['\r', '\n'] ['\n']
    (∀ (depth offset : Nat) (closing : Closing) (token : Token),
        Expects options.lexicon text depth (.nodes closing) offset →
        (cursorAt options.lexicon text offset).token? options.lexicon = some token →
        OpensUnknown options.lexicon token →
        ∃ error, parse options source = .error error ∧ error.fault = .unknownBlock token.text
          ∧ error.fault.kind = .syntactic ∧ error.position = positionAt options.tabWidth text offset)
      ∧ ∀ found : ViewTemplate.Document, parse options source = .ok found →
        ∀ position content, (Node.text position content).OccursAsMarkup found.nodes →
          ∃ offset tokens stop, Marks options.tabWidth text position offset
            ∧ RunAt options.lexicon text (fun token => !endsText token.kind) offset tokens stop
            ∧ content = String.join (tokens.map (·.text))
            ∧ ∀ before token behind, tokens = before ++ token :: behind →
              OpensUnknown options.lexicon token → before ≠ [] := by
  intro text
  constructor
  · intro depth offset closing token place found opens
    obtain ⟨turns, enough, fails⟩ := place.fails (LexicalOptions.hasDelimiters valid)
    obtain ⟨turns, rfl⟩ := Nat.exists_eq_succ_of_ne_zero (Nat.ne_of_gt (Nat.zero_lt_of_lt enough))
    have rejected := fails _ (nodesUpTo_fails found opens.isUnknownBlock)
    exact ⟨_, parse_of_fails valid rejected, rfl, rfl, rfl⟩
  · intro found parsed position content occurs
    obtain ⟨offset, tokens, stop, marks, run, joined, first, others, rfl, known⟩ :=
      parse_texts parsed position content occurs
    refine ⟨offset, first :: others, stop, marks, run, joined, ?_⟩
    rintro _ token behind same opens rfl
    obtain rfl : first = token := (List.cons.inj same).1
    rw [opens.isUnknownBlock] at known
    cases known

theorem unknown_blocks_rejected_inElement :
    ({} : LexicalOptions).validate = .ok ()
      ∧ ∃ error, parse {} "<p> <js @bogus /></p>" = .error error
        ∧ error.fault = .unknownBlock "<js @bogus" ∧ error.fault.kind = .syntactic
        ∧ error.position = ⟨1, 5⟩ := by
  have valid : ({} : LexicalOptions).validate = .ok () := rfl
  have rejected := (@unknown_blocks_rejected {} "<p> <js @bogus /></p>" valid).1
  have normal : replaceAll "<p> <js @bogus /></p>".toList ['\r', '\n'] ['\n']
      = "<p> <js @bogus /></p>".toList := by decide
  rw [normal] at rejected
  have begun : Expects (LexicalOptions.lexicon {}) "<p> <js @bogus /></p>".toList (20 + 1)
      (.nodes .source) 0 := .start (by decide)
  have opening : Runs (LexicalOptions.lexicon {}) "<p> <js @bogus /></p>".toList elementOpening 0
      (⟨.elementStart, ⟨1, 1⟩, "<p", some "p"⟩, ⟨"p", false, false, []⟩) 3 := by
    cbv
  have space : Runs (LexicalOptions.lexicon {}) "<p> <js @bogus /></p>".toList
      (nodeWith (node 20)) 3 (.whitespace ⟨1, 4⟩ " ") 4 := by
    cbv
  have place : Expects (LexicalOptions.lexicon {}) "<p> <js @bogus /></p>".toList 20
      (.nodes .element) 4 := .moves (.opens begun (.element opening rfl rfl)) (.node space)
  refine ⟨valid, rejected 20 4 .element ⟨.unknown, ⟨1, 5⟩, "<js @bogus", some "js"⟩ place ?_ ?_⟩
  · cbv
  · refine ⟨rfl, ['j', 's'], [' '], "bogus".toList, ?_⟩
    exact ⟨by decide, by decide, List.all_eq_true.1 rfl, by decide⟩

/-- **Directly behind a text such an opener is text.** -/
theorem unknown_block_taken_as_text :
    let lexicon := ({} : LexicalOptions).lexicon
    let token : Token := ⟨.unknown, ⟨1, 2⟩, "<js @bogus", some "js"⟩
    parse {} "a<js @bogus />b" = .ok ⟨[.text ⟨1, 1⟩ "a<js @bogus />b"]⟩
      ∧ (cursorAt lexicon "a<js @bogus />b".toList 1).token? lexicon = some token
      ∧ OpensUnknown lexicon token := by
  refine ⟨by cbv, by cbv, rfl, ['j', 's'], [' '], "bogus".toList, ?_⟩
  exact ⟨by decide, by decide, List.all_eq_true.1 rfl, by decide⟩

end Document

end ViewTemplate
