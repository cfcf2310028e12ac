/-!
# Blank characters

White space in the sense of Unicode, and its removal from the ends of a text.

## Main Definitions

* `isBlank` — the characters with the property `White_Space`
* `trim` — a text without the blanks at its ends
-/

namespace ViewTemplate.Text

/-- A character with the property `White_Space`. -/
def isBlank (c : Char) : Bool :=
  let code := c.toNat
  (9 ≤ code && code ≤ 13) || code == 0x20 || code == 0x85 || code == 0xA0 || code == 0x1680
    || (0x2000 ≤ code && code ≤ 0x200A) || code == 0x2028 || code == 0x2029 || code == 0x202F
    || code == 0x205F || code == 0x3000

/-- The characters without the blanks in front. -/
def dropBlanks (text : List Char) : List Char :=
  text.dropWhile isBlank

/-- The characters without the blanks at either end. -/
def trimChars (text : List Char) : List Char :=
  (dropBlanks (dropBlanks text).reverse).reverse

/-- The text without the blanks at either end. -/
def trim (text : String) : String :=
  String.ofList (trimChars text.toList)

/-- Every blank of core is one here. -/
theorem isBlank_of_isWhitespace {c : Char} (h : c.isWhitespace = true) : isBlank c = true := by
  simp only [Char.isWhitespace, Bool.or_eq_true, decide_eq_true_eq] at h
  rcases h with ((rfl | rfl) | rfl) | rfl <;> decide

@[simp]
theorem dropBlanks_nil : dropBlanks [] = [] := rfl

/-- What is left does not start with a blank. -/
theorem head_dropBlanks {text : List Char} {c : Char} {rest : List Char}
    (h : dropBlanks text = c :: rest) : isBlank c = false := by
  induction text with
  | nil => simp at h
  | cons d more ih =>
    cases hd : isBlank d with
    | true => exact ih (by simpa [dropBlanks, hd] using h)
    | false =>
      have : d = c ∧ more = rest := by simpa [dropBlanks, hd] using h
      exact this.1 ▸ hd

/-- Blanks in front are all that is dropped in front. -/
theorem dropBlanks_eq_append (text : List Char) :
    ∃ before, text = before ++ dropBlanks text ∧ ∀ c ∈ before, isBlank c = true := by
  refine ⟨text.takeWhile isBlank, List.takeWhile_append_dropWhile.symm, fun c mem => ?_⟩
  exact List.all_eq_true.1 List.all_takeWhile c mem

/-- Blanks at the ends are all that a text loses when it is trimmed. -/
theorem trim_eq_append (text : String) :
    ∃ before behind, text.toList = before ++ (trim text).toList ++ behind
      ∧ ∀ c ∈ before ++ behind, isBlank c = true := by
  obtain ⟨before, front, blankBefore⟩ := dropBlanks_eq_append text.toList
  obtain ⟨behind, back, blankBehind⟩ := dropBlanks_eq_append (dropBlanks text.toList).reverse
  refine ⟨before, behind.reverse, ?_, ?_⟩
  · have trimmed : dropBlanks text.toList = (trim text).toList ++ behind.reverse := by
      rw [trim, String.toList_ofList, trimChars, ← List.reverse_append, ← back,
        List.reverse_reverse]
    rw [List.append_assoc, ← trimmed]
    exact front
  · intro c mem
    rcases List.mem_append.1 mem with mem | mem
    · exact blankBefore c mem
    · exact blankBehind c (List.mem_reverse.1 mem)

end ViewTemplate.Text
