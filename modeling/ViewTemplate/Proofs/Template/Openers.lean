import ViewTemplate.Proofs.Template.Offsets

/-!
# Openers that begin with one another

Settings without a fault may have openers of embedded snippets that begin with
one another: the two longer ones begin with the plain one, and nothing else is
asked of them but that they differ.  So several openers can stand at one place,
and as all of them are starts of the same text, the shorter ones begin the longer
ones.

The scanner looks for the printing opener first, then for that of comments, and
takes the plain one if neither is there.  That order finds the longest opener
whatever the settings are, but for one case: where the opener of comments goes on
from the printing one, the printing one is taken out of its front.

## Main Definitions

* `Opener` — the three openers of embedded snippets
* `Lexicon.firstOpener` — the opener that the scanner takes

## Main Results

* `Lexicon.firstOpener_longest_iff` — when the opener that is taken is the longest
* `longest_opener_taken` — which token starts where openers stand

-/

namespace ViewTemplate.Template

open Text

/-- An opener of embedded snippets. -/
inductive Opener where
  | plain
  | print
  | comment
deriving Repr, DecidableEq

namespace Opener

/-- The tokens that an opener makes up. -/
def kind : Opener → TokenKind
  | plain => .expressionStart
  | print => .printExpressionStart
  | comment => .commentExpressionStart

/-- The characters of an opener. -/
def spelling (lexicon : Lexicon) : Opener → List Char
  | plain => lexicon.expressionStart
  | print => lexicon.printStart
  | comment => lexicon.commentStart

/-- With settings that have no fault, every opener begins with the plain one. -/
theorem plain_begins {options : LexicalOptions} (valid : options.validate = .ok ())
    (opener : Opener) : options.lexicon.expressionStart <+: opener.spelling options.lexicon := by
  obtain ⟨-, -, print, comment, -⟩ := LexicalOptions.validate_eq_ok_iff.1 valid
  cases opener with
  | plain => exact List.prefix_rfl
  | print => exact print
  | comment => exact comment

end Opener

namespace Lexicon

/-- The opener that the scanner takes from the front of a text, where one stands. -/
def firstOpener (lexicon : Lexicon) (text : List Char) : Opener :=
  if startsWith text lexicon.printStart then .print
  else if startsWith text lexicon.commentStart then .comment
  else .plain

variable {lexicon : Lexicon} {text : List Char}

theorem scanOpener_eq (lexicon : Lexicon) (text : List Char) :
    lexicon.scanOpener text
      = ⟨(lexicon.firstOpener text).kind, (lexicon.firstOpener text).spelling lexicon, none⟩ := by
  unfold scanOpener firstOpener
  split_ifs <;> rfl

/-- The opener that is taken is there. -/
theorem firstOpener_stands (plain : lexicon.expressionStart <+: text) :
    (lexicon.firstOpener text).spelling lexicon <+: text := by
  unfold firstOpener
  split_ifs with print comment
  · exact startsWith_iff.1 print
  · exact startsWith_iff.1 comment
  · exact plain

/-- A text that begins with an opener has the one that is taken for its first token. -/
theorem scan_firstOpener (delimiters : lexicon.HasDelimiters)
    (plain : lexicon.expressionStart <+: text) :
    lexicon.scan text
      = some ⟨(lexicon.firstOpener text).kind, (lexicon.firstOpener text).spelling lexicon,
          none⟩ := by
  cases text with
  | nil => exact absurd (List.prefix_nil.1 plain) delimiters.expressionStart
  | cons c rest => rw [scan, if_pos (startsWith_iff.2 plain), scanOpener_eq]

/-- **The longest opener.**  The opener that is taken is the longest of those that are
there, unless that of comments is there and goes on from the printing one. -/
theorem firstOpener_longest_iff (begins : ∀ opener : Opener,
      lexicon.expressionStart <+: opener.spelling lexicon)
    (distinct : lexicon.printStart ≠ lexicon.commentStart) :
    (∀ other : Opener, other.spelling lexicon <+: text →
        (other.spelling lexicon).length
          ≤ ((lexicon.firstOpener text).spelling lexicon).length)
      ↔ ¬(lexicon.commentStart <+: text ∧ lexicon.printStart <+: lexicon.commentStart) := by
  constructor
  · rintro longest ⟨comment, goesOn⟩
    -- The printing opener is there too, so it is the one that is taken.
    have print : lexicon.printStart <+: text := goesOn.trans comment
    have taken : lexicon.firstOpener text = .print := if_pos (startsWith_iff.2 print)
    rw [taken] at longest
    have least : lexicon.commentStart.length ≤ lexicon.printStart.length :=
      longest .comment comment
    exact distinct (goesOn.eq_of_length_le least)
  · intro apart other stands
    unfold firstOpener
    split_ifs with print comment
    · cases other with
      | plain => exact (begins .print).length_le
      | print => exact Nat.le_refl _
      | comment =>
        -- Of two starts of a text one begins the other, and here it is not the printing one.
        rcases List.prefix_or_prefix_of_prefix stands (startsWith_iff.1 print) with shorter | longer
        · exact shorter.length_le
        · exact absurd ⟨stands, longer⟩ apart
    · cases other with
      | plain => exact (begins .comment).length_le
      | print => exact absurd (startsWith_iff.2 stands) print
      | comment => exact Nat.le_refl _
    · cases other with
      | plain => exact Nat.le_refl _
      | print => exact absurd (startsWith_iff.2 stands) print
      | comment => exact absurd (startsWith_iff.2 stands) comment

end Lexicon

/-- **Where openers stand, a longest one is taken.**  With settings that have no fault,
at every place of a source where some opener stands a token starts that is one of the
openers standing there, with its kind and all of its characters.  It is as long as any
of them exactly if the opener of comments does not stand there as a text that goes on
from the printing one. -/
theorem longest_opener_taken {options : LexicalOptions} (valid : options.validate = .ok ())
    (source : String) (offset : Nat) {opener : Opener}
    (found : StandsAt (normalizeLines source.toList) (opener.spelling options.lexicon) offset) :
    ∃ taken : Opener,
      StandsAt (normalizeLines source.toList) (taken.spelling options.lexicon) offset
        ∧ (cursorAt options.lexicon (normalizeLines source.toList) offset).token? options.lexicon
            = some ⟨taken.kind,
                positionAt options.tabWidth (normalizeLines source.toList) offset,
                String.ofList (taken.spelling options.lexicon), none⟩
        ∧ ((∀ other : Opener,
              StandsAt (normalizeLines source.toList) (other.spelling options.lexicon) offset →
                (other.spelling options.lexicon).length ≤ (taken.spelling options.lexicon).length)
            ↔ ¬(StandsAt (normalizeLines source.toList) options.commentStart.toList offset
                ∧ options.printStart.toList <+: options.commentStart.toList)) := by
  have begins := Opener.plain_begins valid
  have plain : options.lexicon.expressionStart
      <+: (normalizeLines source.toList).drop offset := (begins opener).trans found
  have distinct : options.lexicon.printStart ≠ options.lexicon.commentStart := by
    obtain ⟨-, -, -, -, distinct, -⟩ := LexicalOptions.validate_eq_ok_iff.1 valid
    exact fun same => distinct (String.toList_injective same)
  refine ⟨options.lexicon.firstOpener ((normalizeLines source.toList).drop offset),
    Lexicon.firstOpener_stands plain, ?_, Lexicon.firstOpener_longest_iff begins distinct⟩
  rw [Cursor.token?, cursorAt,
    Lexicon.scan_firstOpener (LexicalOptions.hasDelimiters valid) plain]
  rfl

/-- Settings in which the printing opener goes on from that of comments, and both are
the plain one or go on from it. -/
def nestedOpeners : LexicalOptions :=
  { printStart := "\x7b%#=", commentStart := "\x7b%#" }

/-- Both openers stand at the second character of this source, and the longer one is
taken. -/
theorem longest_opener_taken_nested :
    nestedOpeners.validate = .ok ()
      ∧ StandsAt (normalizeLines "a\x7b%#= x %\x7d".toList)
          (Opener.comment.spelling nestedOpeners.lexicon) 1
      ∧ ∃ taken : Opener,
        StandsAt (normalizeLines "a\x7b%#= x %\x7d".toList)
            (taken.spelling nestedOpeners.lexicon) 1
          ∧ ((cursorAt nestedOpeners.lexicon (normalizeLines "a\x7b%#= x %\x7d".toList) 1).token?
                nestedOpeners.lexicon).map (·.kind) = some taken.kind
          ∧ 4 ≤ (taken.spelling nestedOpeners.lexicon).length := by
  have valid : nestedOpeners.validate = .ok () := by decide +kernel
  have comment : StandsAt (normalizeLines "a\x7b%#= x %\x7d".toList)
      (Opener.comment.spelling nestedOpeners.lexicon) 1 := by
    rw [StandsAt, ← startsWith_iff]
    decide +kernel
  have print : StandsAt (normalizeLines "a\x7b%#= x %\x7d".toList)
      (Opener.print.spelling nestedOpeners.lexicon) 1 := by
    rw [StandsAt, ← startsWith_iff]
    decide +kernel
  have apart : ¬nestedOpeners.printStart.toList <+: nestedOpeners.commentStart.toList := by
    rw [← startsWith_iff]
    decide +kernel
  obtain ⟨taken, stands, found, longest⟩ :=
    longest_opener_taken valid "a\x7b%#= x %\x7d" 1 comment
  have least := longest.2 (fun both => apart both.2) .print print
  refine ⟨valid, comment, taken, stands, ?_, ?_⟩
  · rw [found]
    rfl
  · exact least

/-- Settings without a fault in which the opener of comments goes on from the printing
one. -/
def extendedPrint : LexicalOptions :=
  { commentStart := "\x7b%==" }

/-- **A shorter opener is taken.**  The opener of comments stands at the front of this
source, but its first token is the printing one. -/
theorem shorter_opener_taken :
    extendedPrint.validate = .ok ()
      ∧ StandsAt (normalizeLines "\x7b%== x %\x7d".toList)
          (Opener.comment.spelling extendedPrint.lexicon) 0
      ∧ (tokenize extendedPrint "\x7b%== x %\x7d").map (·.head?)
          = .ok (some ⟨.printExpressionStart, ⟨1, 1⟩, "\x7b%=", none⟩)
      ∧ (Opener.print.spelling extendedPrint.lexicon).length
          < (Opener.comment.spelling extendedPrint.lexicon).length := by
  refine ⟨by decide +kernel, ?_, by decide +kernel, by decide +kernel⟩
  rw [StandsAt, ← startsWith_iff]
  decide +kernel

end ViewTemplate.Template
