import ViewTemplate.Proofs.Snippet.MemberCalls

/-!
# Splitting and joining

A text that is split and joined again is the text it was (`evaluate_split_join`).

Splitting and joining agree on what separates the parts although each of them decides
that on its own, and not alike.  Without a separator, or with `undefined`, splitting
leaves the text whole and joining uses a comma, which is then never written.  With an
empty separator splitting takes the characters apart.  In all other cases both use the
text of the separator, and the pieces between its occurrences, found from the left and
not overlapping, are joined at these occurrences (`joinWith_splitOn`).

The search keeps a count of the characters that still belong to the occurrence found
last.  What carries the induction is that they are skipped and nothing else is.
-/

namespace ViewTemplate

/-! ## Texts -/

namespace Text

/-- **The pieces of a text joined by the separator** are the text, less the characters that are
skipped, behind the piece begun. -/
theorem joinWith_splitFrom {separator : List Char} (nonempty : separator ≠ []) (piece : List Char)
    {skip : Nat} {text : List Char} (within : skip ≤ text.length) :
    joinWith separator (splitFrom separator piece skip text) = piece.reverse ++ text.drop skip := by
  induction text generalizing piece skip with
  | nil => simp [splitFrom, joinWith]
  | cons c rest ih =>
    cases skip with
    | succ skip =>
      rw [splitFrom, List.drop_succ_cons]
      exact ih piece (Nat.le_of_succ_le_succ within)
    | zero =>
      rw [splitFrom, List.drop_zero]
      split
      · rename_i here
        -- The separator stands here: its first character is `c`, the others are skipped.
        obtain ⟨behind, same⟩ := startsWith_iff.1 here
        obtain ⟨first, others, rfl⟩ := List.exists_cons_of_ne_nil nonempty
        obtain ⟨rfl, rfl⟩ := List.cons.inj same
        rw [joinWith_cons _ _ (splitFrom_ne_nil _ _ _ _), ih [] (by simp)]
        simp
      · rw [ih (c :: piece) (Nat.zero_le _)]
        simp

/-- **The pieces of a text joined by what it was cut at are the text.** -/
theorem joinWith_splitOn {separator : List Char} (nonempty : separator ≠ []) (text : List Char) :
    joinWith separator (splitOn text separator) = text :=
  joinWith_splitFrom nonempty [] (Nat.zero_le _)

/-- Single characters joined by nothing are the text. -/
theorem joinWith_singletons (text : List Char) : joinWith [] (text.map fun c => [c]) = text := by
  induction text with
  | nil => rfl
  | cons c rest ih =>
    cases rest with
    | nil => rfl
    | cons d rest =>
      rw [List.map_cons, joinWith_cons _ _ (by simp), ih]
      rfl

end Text

namespace Snippet

open ViewTemplate.Text

variable {σ ε : Type} {scope : Scope σ ε}

/-! ## Methods -/

/-- Texts are joined as they stand. -/
theorem joinTexts_pieces (separator : String) (pieces : List (List Char)) :
    Value.joinTexts separator
        ((pieces.map fun piece => Value.string (String.ofList piece)).map Value.text)
      = String.ofList (joinWith separator.toList pieces) := by
  rw [Value.joinTexts, List.map_map, List.map_map]
  refine congrArg (String.ofList ∘ joinWith separator.toList) ?_
  exact List.map_id'' (fun piece => String.toList_ofList) pieces

section

variable {text : String} {arguments : List Value}

/-- The empty text parts all characters. -/
theorem partsOf_of_empty (given : firstArgument arguments ≠ .undefined)
    (empty : (firstArgument arguments).text.toList = []) :
    partsOf text arguments = text.toList.map Value.ofChar := by
  unfold partsOf
  split
  · exact absurd ‹_› given
  · rw [empty]

theorem partsOf_of_nonempty (given : firstArgument arguments ≠ .undefined)
    (nonempty : (firstArgument arguments).text.toList ≠ []) :
    partsOf text arguments = (splitOn text.toList (firstArgument arguments).text.toList).map
      fun piece => .string (String.ofList piece) := by
  unfold partsOf
  split
  · exact absurd ‹_› given
  · split
    · exact absurd ‹_› nonempty
    · rfl

theorem join_of_given (items : List Value) (given : firstArgument arguments ≠ .undefined) :
    plainArrayMethod? items "join" arguments
      = some (.string (Value.joinTexts (firstArgument arguments).text (items.map Value.text))) := by
  cases first : firstArgument arguments with
  | undefined => exact absurd first given
  | _ =>
    unfold plainArrayMethod?
    rw [first]
    rfl

end

/-- **What a text is parted into is joined to the text**, with the same arguments. -/
theorem join_partsOf (text : String) (arguments : List Value) :
    plainArrayMethod? (partsOf text arguments) "join" arguments = some (.string text) := by
  by_cases given : firstArgument arguments = .undefined
  · rw [partsOf, given]
    unfold plainArrayMethod?
    dsimp only
    rw [given]
    exact congrArg (some ∘ Value.string) String.ofList_toList
  rw [join_of_given _ given]
  by_cases empty : (firstArgument arguments).text.toList = []
  · have chars : text.toList.map Value.ofChar
        = (text.toList.map fun c => [c]).map fun piece => .string (String.ofList piece) := by
      rw [List.map_map]
      rfl
    rw [partsOf_of_empty given empty, chars, joinTexts_pieces, empty, joinWith_singletons,
      String.ofList_toList]
  · rw [partsOf_of_nonempty given empty, joinTexts_pieces, joinWith_splitOn empty,
      String.ofList_toList]

/-! ## Calls -/

/-- The call of a method by its name. -/
def methodCall (span : Span) (object : Expr) (name : String) (arguments : List Expr) : Expr :=
  .call span (.member span object (.string span name) false false) arguments

/-- **A call of a method** of what the object is, with what the arguments are. -/
theorem evaluate_methodCall (span : Span) {object : Expr} {name : String} {arguments : List Expr}
    {state between after : σ} {receiver result : Value} {values : List Value}
    (received : (evaluate scope object).run.run state = (.ok receiver, between))
    (given : (evaluate.evaluateAll scope arguments).run.run between = (.ok values, after))
    (own : callMember.ownFunction? receiver name = none)
    (called : callMethod? scope receiver name values = pure (some result))
    (present : receiver.isNullish = false) :
    (evaluate scope (methodCall span object name arguments)).run.run state
      = (.ok result, after) := by
  rw [methodCall, evaluate, run_bind, received]
  dsimp only
  rw [present, if_neg (by decide), run_bind, evaluate, run_pure]
  dsimp only [Value.text]
  rw [run_bind, given]
  dsimp only
  rw [callMember, own]
  dsimp only
  rw [called]
  rfl

/-- A text that is split and joined with the same arguments. -/
theorem evaluate_split_join {span span' : Span} {subject : Expr} {first second : List Expr}
    {state between after last : σ} {text : String} {values : List Value}
    (read : (evaluate scope subject).run.run state = (.ok (.string text), between))
    (given : (evaluate.evaluateAll scope first).run.run between = (.ok values, after))
    (again : (evaluate.evaluateAll scope second).run.run after = (.ok values, last)) :
    (evaluate scope
        (methodCall span' (methodCall span subject "split" first) "join" second)).run.run state
      = (.ok (.string text), last) := by
  have parts : callMethod? scope (.string text) "split" values
      = pure (some (.array (partsOf text values))) := rfl
  have joined : callMethod? scope (.array (partsOf text values)) "join" values
      = pure (some (.string text)) := by
    rw [← join_partsOf text values]
    rfl
  have split := evaluate_methodCall span read given rfl parts rfl
  exact evaluate_methodCall span' split again rfl joined rfl

/-- The value of a single argument. -/
theorem evaluateAll_singleton {argument : Expr} {state after : σ} {value : Value}
    (given : (evaluate scope argument).run.run state = (.ok value, after)) :
    (evaluate.evaluateAll scope [argument]).run.run state = (.ok [value], after) := by
  rw [evaluate.evaluateAll, run_bind, given]
  rfl

/-- **A text that is split and joined is the text it was.**  This holds for every value by which it
is split and joined, `undefined` and the empty text among them, and without one.  `text` is what any
expression evaluates to, and so is the separator, which is evaluated for each of the two calls. -/
theorem split_join (scope : Scope σ ε) (span span' : Span) {subject : Expr} {text : String}
    {state between : σ}
    (read : (evaluate scope subject).run.run state = (.ok (.string text), between)) :
    (∀ {first second : Expr} {separator : Value} {after last : σ},
        (evaluate scope first).run.run between = (.ok separator, after) →
        (evaluate scope second).run.run after = (.ok separator, last) →
        (evaluate scope (methodCall span' (methodCall span subject "split" [first]) "join"
            [second])).run.run state = (.ok (.string text), last))
      ∧ (evaluate scope (methodCall span' (methodCall span subject "split" []) "join" [])).run.run
          state = (.ok (.string text), between) :=
  ⟨fun given again =>
      evaluate_split_join read (evaluateAll_singleton given) (evaluateAll_singleton again),
    evaluate_split_join read rfl rfl⟩

/-- The array with the items `a` and `a` separates as the text `a,a`, which overlaps itself in the
text that is split. -/
theorem split_join_overlapping :
    let scope := Variables.scope fun _ _ => .ok .null
    let frame : Variables := { table :=
      [("s", .string "xa,a,ay"), ("v", .array [.string "a", .string "a"])] }
    let subject : Expr := .identifier ⟨0, 1⟩ "s"
    let separator : Expr := .identifier ⟨8, 9⟩ "v"
    partsOf "xa,a,ay" [.array [.string "a", .string "a"]] = [.string "x", .string ",ay"]
      ∧ (evaluate scope (methodCall ⟨0, 18⟩ (methodCall ⟨0, 10⟩ subject "split" [separator]) "join"
          [separator])).run.run frame = (.ok (.string "xa,a,ay"), frame)
      ∧ (evaluate scope (methodCall ⟨0, 18⟩ (methodCall ⟨0, 10⟩ subject "split" []) "join"
          [])).run.run frame = (.ok (.string "xa,a,ay"), frame) := by
  intro scope frame subject separator
  have read : (evaluate scope subject).run.run frame = (.ok (.string "xa,a,ay"), frame) := rfl
  obtain ⟨separated, plain⟩ := split_join scope ⟨0, 10⟩ ⟨0, 18⟩ read
  exact ⟨by cbv, separated rfl rfl, plain⟩

end Snippet

end ViewTemplate
