import ViewTemplate.Proofs.Document.Tokens

/-!
# Texts made of whole tokens

Where a text ends and its rest begins is one question, and where the tokens do is
another.  A text is tiled if the two agree: cut off one after the other, the tokens of the
text and the rest come to an end where the text does (`Tiled`).

This asks of the last token only that it does not reach into the rest, but which token
is the last one depends on all before it.  A condition on the text itself is enough: every
tag and keyword that begins in it ends in it, and the rest begins with a character that
joins no token (`Tiled.of_ends`).

## Main Definitions

* `Piece.token` — a token, given where it stands
* `Tiled` — a text is made of whole tokens before a rest
-/

namespace ViewTemplate

open Template Text

/-- The token that a piece makes up at some place. -/
abbrev Template.Piece.token (piece : Piece) (position : Position) : Token :=
  ⟨piece.kind, position, String.ofList piece.text, piece.tagName⟩

namespace Document

variable {text rest : List Char} {piece : Piece}

/-- **A text is made of whole tokens** before a rest: no token that is cut off reaches into
the rest. -/
inductive Tiled (rest : List Char) : List Char → Prop where
  | nil : Tiled rest []
  | cons {piece : Piece} {more : List Char} (cuts : Cuts piece (more ++ rest))
      (others : Tiled rest more) : Tiled rest (piece.text ++ more)

namespace Tiled

/-- A text is tiled if no token that begins anywhere in it reaches into the rest. -/
theorem of_covers (inside : ∀ front, front ≠ [] → front <:+ text → ∀ piece,
    standard.scan (front ++ rest) = some piece → piece.Covers front) : Tiled rest text := by
  induction length : text.length using Nat.strong_induction_on generalizing text with
  | _ _ ih =>
    cases text with
    | nil => exact .nil
    | cons c others =>
      cases found : standard.scan (c :: others ++ rest) with
      | none => cases Lexicon.scan_eq_none_iff.1 found
      | some piece =>
        obtain ⟨nonempty, more, split⟩ := inside _ (by simp) List.suffix_rfl piece found
        have shorter : more.length < (c :: others).length := by
          have some := List.length_pos_iff.2 nonempty
          rw [← split, List.length_append]
          omega
        rw [← split, List.append_assoc] at found
        have suffix : more <:+ c :: others := ⟨piece.text, split⟩
        rw [← split]
        exact .cons found (ih _ (length ▸ shorter)
          (fun front some within => inside front some (within.trans suffix)) rfl)

/-- **A text in which every tag and keyword ends** is tiled before a character that joins
no token. -/
theorem of_ends {d : Char} (tagsEnd : TagsEnd text) (wordsEnd : endsKeyword d = true ∨ WordsEnd text)
    (apart : ∀ c, ¬ Joins c d) (noOpener : text.getLast? = some '\x7b' → d ≠ '%') :
    Tiled (d :: rest) text := by
  refine of_covers fun front nonempty within piece found => ?_
  obtain ⟨c, front, rfl⟩ := List.exists_cons_of_ne_nil nonempty
  refine scan_covers_front ?_ (fun after word => ?_) ?_ ?_ found
  · rintro rfl
    exact tagsEnd front within
  · rcases wordsEnd with ends | ends
    · exact ⟨d, by simp, ends⟩
    · obtain ⟨e, mem, stop⟩ := ends after (word.trans within)
      exact ⟨e, List.mem_append_left _ mem, stop⟩
  · rintro _ ⟨⟩
    exact apart c
  · rintro rfl rfl opens
    obtain ⟨before, rfl⟩ := within
    exact noOpener (by simp) (Option.some.inj opens)

/-- Behind its first token a text is tiled if and only if the whole text is. -/
theorem cons_iff {more : List Char} (cuts : Cuts piece (more ++ rest)) :
    Tiled rest (piece.text ++ more) ↔ Tiled rest more := by
  refine ⟨fun tiled => ?_, .cons cuts⟩
  generalize same : piece.text ++ more = text at tiled
  cases tiled with
  | nil =>
    have nonempty : piece.text ≠ [] :=
      (Lexicon.scan_covers standard_hasDelimiters cuts).nonempty
    exact absurd (List.append_eq_nil_iff.1 same).1 nonempty
  | @cons other behind found others =>
    have one : piece = other := by
      rw [Cuts, ← List.append_assoc, same, List.append_assoc] at cuts
      exact Option.some.inj (cuts.symm.trans found)
    subst one
    exact List.append_cancel_left same ▸ others

/-- White space at the front of a text makes no difference. -/
theorem dropSpaces_iff (stop : ∀ c ∈ rest.head?, isSpace c = false) :
    Tiled rest (text.dropWhile isSpace) ↔ Tiled rest text := by
  by_cases blank : text.takeWhile isSpace = []
  · have same : text.takeWhile isSpace ++ text.dropWhile isSpace = text :=
      List.takeWhile_append_dropWhile
    rw [blank, List.nil_append] at same
    rw [same]
  · have notSpace : ∀ c ∈ (text.dropWhile isSpace ++ rest).head?, isSpace c = false := by
      have other := List.head?_dropWhile_not isSpace text
      cases left : text.dropWhile isSpace with
      | nil => exact stop
      | cons c more =>
        rw [left] at other
        rintro _ ⟨⟩
        simpa using other
    have cuts := cuts_blanks blank (fun c mem => List.all_eq_true.1 List.all_takeWhile c mem)
      notSpace
    have behind := cons_iff cuts
    rw [List.takeWhile_append_dropWhile] at behind
    exact behind.symm

end Tiled

end Document

end ViewTemplate
