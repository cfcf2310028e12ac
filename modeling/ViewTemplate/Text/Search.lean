/-!
# Searching a text

Finding one text inside another, and what is built on it: cutting a text at every occurrence of a
separator, joining pieces, and replacing.

## Main Definitions

* `after?` — what follows a given start
* `contains`, `endsWith` — whether a text occurs, or stands at the end
* `splitOn` — the pieces between occurrences, found from the left and never overlapping
* `joinWith` — pieces with a separator between each two
* `replaceAll` — occurrences replaced, again from the left
-/

namespace ViewTemplate.Text

/-- What follows `start` in `text`, if `text` begins with it. -/
def after? : (start text : List Char) → Option (List Char)
  | [], text => some text
  | _ :: _, [] => none
  | s :: start, c :: text => if s = c then after? start text else none

/-- Whether `text` begins with `start`. -/
def startsWith (text start : List Char) : Bool :=
  (after? start text).isSome

/-- Whether `text` ends with `stop`. -/
def endsWith (text stop : List Char) : Bool :=
  startsWith text.reverse stop.reverse

/-- Whether `part` occurs in `text`. The empty text occurs everywhere. -/
def contains (text part : List Char) : Bool :=
  startsWith text part ||
    match text with
    | [] => false
    | _ :: rest => contains rest part

/-- The pieces of a text between occurrences of a separator, where `piece` is the current piece in
reverse and `skip` characters still belong to the separator just found. -/
def splitFrom (separator : List Char) (piece : List Char) (skip : Nat) :
    List Char → List (List Char)
  | [] => [piece.reverse]
  | c :: rest =>
    match skip with
    | skip + 1 => splitFrom separator piece skip rest
    | 0 =>
      if startsWith (c :: rest) separator then
        piece.reverse :: splitFrom separator [] (separator.length - 1) rest
      else
        splitFrom separator (c :: piece) 0 rest

/-- The pieces of `text` between occurrences of `separator`, which is not empty. -/
def splitOn (text separator : List Char) : List (List Char) :=
  splitFrom separator [] 0 text

/-- The pieces with `separator` between each two of them. -/
def joinWith (separator : List Char) : List (List Char) → List Char
  | [] => []
  | [piece] => piece
  | piece :: next :: rest => piece ++ separator ++ joinWith separator (next :: rest)

/-- The text with every occurrence of `part`, which is not empty, replaced by `replacement`. -/
def replaceAll (text part replacement : List Char) : List Char :=
  joinWith replacement (splitOn text part)

/-- The text with every carriage return that stands before a line feed removed. -/
def normalizeLines : List Char → List Char
  | '\r' :: '\n' :: rest => '\n' :: normalizeLines rest
  | c :: rest => c :: normalizeLines rest
  | [] => []

@[simp]
theorem after?_nil (text : List Char) : after? [] text = some text := by
  cases text <;> rfl

/-- A text begins with `start` exactly when it is `start` followed by the rest that is found. -/
theorem after?_eq_some_iff {start text rest : List Char} :
    after? start text = some rest ↔ text = start ++ rest := by
  induction start generalizing text with
  | nil => simp
  | cons s start ih =>
    cases text with
    | nil => simp [after?]
    | cons c text =>
      by_cases h : s = c
      · simp [after?, h, ih]
      · simp only [after?, h, if_false, reduceCtorEq, false_iff]
        intro e
        exact h (List.cons.inj e).1.symm

/-- Beginning with a text is having it as a prefix. -/
theorem startsWith_iff {text start : List Char} :
    startsWith text start = true ↔ start <+: text := by
  rw [startsWith, Option.isSome_iff_exists]
  constructor
  · rintro ⟨rest, found⟩
    exact ⟨rest, (after?_eq_some_iff.1 found).symm⟩
  · rintro ⟨rest, rfl⟩
    exact ⟨rest, after?_eq_some_iff.2 rfl⟩

/-- Cutting a text leaves at least one piece. -/
theorem splitFrom_ne_nil (separator piece : List Char) (skip : Nat) (text : List Char) :
    splitFrom separator piece skip text ≠ [] := by
  induction text generalizing piece skip with
  | nil => simp [splitFrom]
  | cons c rest ih =>
    cases skip with
    | succ skip => exact ih piece skip
    | zero =>
      rw [splitFrom]
      split
      · simp
      · exact ih (c :: piece) 0

theorem joinWith_cons (separator piece : List Char) {rest : List (List Char)}
    (nonempty : rest ≠ []) :
    joinWith separator (piece :: rest) = piece ++ separator ++ joinWith separator rest := by
  cases rest with
  | nil => exact absurd rfl nonempty
  | cons next rest => rfl

/-- The pieces between line ends, joined by line feeds, are the normalized text. -/
theorem joinWith_splitFrom_lineEnds (piece text : List Char) :
    joinWith ['\n'] (splitFrom ['\r', '\n'] piece 0 text)
      = piece.reverse ++ normalizeLines text := by
  induction text using normalizeLines.induct generalizing piece with
  | case1 rest ih =>
    have cut : splitFrom ['\r', '\n'] piece 0 ('\r' :: '\n' :: rest)
        = piece.reverse :: splitFrom ['\r', '\n'] [] 0 rest := rfl
    rw [cut, joinWith_cons _ _ (splitFrom_ne_nil _ _ _ _), ih]
    simp [normalizeLines]
  | case2 c rest other ih =>
    have stays : ¬ startsWith (c :: rest) ['\r', '\n'] = true := by
      rw [startsWith_iff]
      rintro ⟨tail, same⟩
      obtain ⟨rfl, rfl⟩ := List.cons.inj same
      exact other tail rfl rfl
    rw [splitFrom, if_neg stays, ih, normalizeLines]
    · simp
    · exact other
  | case3 => simp [splitFrom, joinWith, normalizeLines]

/-- To normalize the lines of a text is to replace each line end of two characters by a line
feed. -/
theorem normalizeLines_eq_replaceAll (text : List Char) :
    normalizeLines text = replaceAll text ['\r', '\n'] ['\n'] :=
  (joinWith_splitFrom_lineEnds [] text).symm

end ViewTemplate.Text
