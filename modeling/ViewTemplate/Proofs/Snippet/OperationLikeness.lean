import ViewTemplate.Proofs.Value.Likeness
import ViewTemplate.Snippet.Evaluation

/-!
# Operations on values that are alike

Operators, members and methods do the same with values that are alike: their results are
alike, and they fail with the same errors.

Only what compares values needs more, namely that the print blocks in them are told apart.
For operators that is asked once (`BinaryOp.apply_like`), and for searching an array at every
item up to the one that is found (`Snippet.searchBy?_like`).

## Main Definitions

* `Ends` — two results that are related, or the same error
* `EvalError.Plain` — errors that do not concern print blocks
* `BinaryOp.compares` — the operators that compare their operands
-/

namespace ViewTemplate

/-- **Two results that are related, or the same error**, if it is one of those allowed. -/
inductive Ends {ε α β : Type} (related : α → β → Prop) (allowed : ε → Prop) :
    Except ε α → Except ε β → Prop where
  | ok {value : α} {value' : β} (same : related value value') :
      Ends related allowed (.ok value) (.ok value')
  | error {error : ε} (may : allowed error) : Ends related allowed (.error error) (.error error)

/-- Lists of values that are alike. -/
abbrev Value.ListLike (matched : Nat → Nat → Prop) : List Value → List Value → Prop :=
  List.Forall₂ (Value.Like matched)

/-- Fields and variables that are alike. -/
abbrev Value.FieldsLike (matched : Nat → Nat → Prop) : Table Value → Table Value → Prop :=
  Table.Like (Value.Like matched)

/-- Where print blocks are matched with themselves only, so are lists of values. -/
theorem Value.ListLike.eq {matched : Nat → Nat → Prop}
    (equal : ∀ {index index'}, matched index index' → index = index') {values values' : List Value}
    (like : Value.ListLike matched values values') : values = values' := by
  induction like with
  | nil => rfl
  | cons first _ ih => rw [first.eq equal, ih]

/-- Functions that are alike: the same function of the host, or print blocks that are
matched. -/
def Callable.Like (matched : Nat → Nat → Prop) (callable callable' : Callable) : Prop :=
  (Value.function callable).Like matched (.function callable')

namespace Snippet

/-- An error that does not concern print blocks. -/
def EvalError.Plain {ε : Type} : EvalError ε → Prop
  | .unboundBlock _ | .failed _ => False
  | _ => True

variable {ε : Type} {matched : Nat → Nat → Prop} {value value' other other' : Value}
  {items items' arguments arguments' : List Value}

/-! ## Operators -/

/-- An operator that compares its operands for equality. -/
def BinaryOp.compares : BinaryOp → Bool
  | .eq | .neq | .strictEq | .strictNeq => true
  | _ => false

theorem isTextual_like (like : value.Like matched value') : isTextual value = isTextual value' := by
  cases like <;> rfl

theorem joinedText_like (like : value.Like matched value') :
    joinedText value = joinedText value' := by
  have texts := like.text
  cases like with
  | array | object | block => exact texts
  | _ => rfl

theorem compareValues_like (like : value.Like matched value') (like' : other.Like matched other') :
    compareValues value other = compareValues value' other' := by
  have numbers := like.toNumber
  have numbers' := like'.toNumber
  cases like <;> cases like' <;> simp only [compareValues, numbers, numbers']

theorem BinaryOp.shortcuts_like (op : BinaryOp) (like : value.Like matched value') :
    op.shortcuts value = op.shortcuts value' := by
  unfold shortcuts
  rw [like.isTruthy, like.isNullish]

/-- **Operators do the same with values that are alike**, if those that compare can tell the
print blocks apart. -/
theorem BinaryOp.apply_like (op : BinaryOp) (like : value.Like matched value')
    (like' : other.Like matched other')
    (apart : op.compares = true → Value.KeptApart matched value other) :
    (op.apply value other).Like matched (op.apply value' other') := by
  cases op with
  | add =>
    unfold apply
    dsimp only
    rw [isTextual_like like, isTextual_like like', joinedText_like like, joinedText_like like',
      like.toNumber, like'.toNumber]
    split
    · exact .string _
    · exact .number _
  | sub | mul | div | mod =>
    unfold apply
    rw [like.toNumber, like'.toNumber]
    exact .number _
  | eq | neq =>
    unfold apply
    rw [like.looseEquals like' (apart rfl)]
    exact .bool _
  | strictEq | strictNeq =>
    unfold apply
    rw [like.strictEquals like' (apart rfl)]
    exact .bool _
  | lt | gt | lte | gte =>
    unfold apply
    rw [compareValues_like like like']
    exact .bool _
  | and =>
    unfold apply
    dsimp only
    rw [like.isTruthy]
    split
    · exact like'
    · exact like
  | or =>
    unfold apply
    dsimp only
    rw [like.isTruthy]
    split
    · exact like
    · exact like'
  | nullishCoalescing =>
    unfold apply
    dsimp only
    rw [like.isNullish]
    split
    · exact like'
    · exact like

theorem UnaryOp.apply_like (op : UnaryOp) (like : value.Like matched value') :
    (op.apply value).Like matched (op.apply value') := by
  cases op with
  | not =>
    rw [apply, apply, like.isTruthy]
    exact .bool _
  | neg | plus =>
    rw [apply, apply, like.toNumber]
    exact .number _
  | typeof =>
    rw [apply, apply, like.typeName]
    exact .string _

/-! ## Members -/

theorem getD_like {found found' : Option Value} (like : Option.Rel (Value.Like matched) found found') :
    (found.getD .undefined).Like matched (found'.getD .undefined) := by
  cases like with
  | none => exact .undefined
  | some like => exact like

theorem getElem?_like {α β : Type} {related : α → β → Prop} {list : List α} {list' : List β}
    (like : List.Forall₂ related list list') (index : Nat) :
    Option.Rel related list[index]? list'[index]? := by
  induction like generalizing index with
  | nil => exact .none
  | cons first _ ih =>
    cases index with
    | zero => exact .some first
    | succ index => exact ih index

theorem itemAt_like (like : Value.ListLike matched items items') (key : String) :
    (itemAt items key).Like matched (itemAt items' key) := by
  unfold itemAt
  cases place? key with
  | none => exact .undefined
  | some index => exact getD_like (getElem?_like like index)

/-- Members of values that are alike are alike. -/
theorem readMember_like (like : value.Like matched value') (key : String) :
    Ends (Value.Like matched) EvalError.Plain (readMember value key : Except (EvalError ε) Value)
      (readMember value' key) := by
  have plain (items : List Char) : Value.ListLike matched (items.map Value.ofChar)
      (items.map Value.ofChar) := by
    induction items with
    | nil => exact .nil
    | cons c rest ih => exact .cons (.string _) ih
  cases like with
  | undefined | null => exact .error trivial
  | bool | number | host | block => exact .ok .undefined
  | string text =>
    unfold readMember
    dsimp only
    split
    · exact .ok (.number _)
    · exact .ok (itemAt_like (plain _) key)
  | array like =>
    unfold readMember
    dsimp only
    split
    · rw [like.length_eq]
      exact .ok (.number _)
    · exact .ok (itemAt_like like key)
  | @object fields fields' like =>
    unfold readMember
    dsimp only
    have found := like.get? key
    generalize fields.get? key = entry at found ⊢
    generalize fields'.get? key = entry' at found ⊢
    cases found with
    | some like => exact .ok like
    | none =>
      dsimp only
      rw [like.length_eq]
      split
      · exact .ok (.number _)
      · exact .ok .undefined

/-! ## Arguments -/

theorem firstArgument_like (like : Value.ListLike matched arguments arguments') :
    (firstArgument arguments).Like matched (firstArgument arguments') := by
  cases like with
  | nil => exact .undefined
  | cons first _ => exact first

theorem firstText_like (like : Value.ListLike matched arguments arguments') :
    firstText arguments = firstText arguments' := by
  unfold firstText
  have first := firstArgument_like like
  have texts := first.text
  generalize firstArgument arguments = argument at first texts ⊢
  generalize firstArgument arguments' = argument' at first texts ⊢
  cases first <;> simp only [texts]

theorem callback_like (method : String) (like : Value.ListLike matched arguments arguments') :
    Ends (Callable.Like matched) EvalError.Plain
      (callback method arguments : Except (EvalError ε) Callable) (callback method arguments') := by
  unfold callback
  have first := firstArgument_like like
  have named := first.typeName
  generalize firstArgument arguments = argument at first named ⊢
  generalize firstArgument arguments' = argument' at first named ⊢
  cases first with
  | host name => exact .ok (.host name)
  | block same => exact .ok (.block same)
  | array | object =>
    dsimp only
    rw [named]
    exact .error trivial
  | _ => exact .error trivial

/-- The function among the fields of an object is found under the same key. -/
theorem ownFunction?_like (like : value.Like matched value') (key : String) :
    Option.Rel (Callable.Like matched) (callMember.ownFunction? value key)
      (callMember.ownFunction? value' key) := by
  cases like with
  | @object fields fields' like =>
    unfold callMember.ownFunction?
    have found := like.get? key
    dsimp only
    generalize Table.get? fields key = entry at found ⊢
    generalize Table.get? fields' key = entry' at found ⊢
    cases found with
    | none => exact .none
    | some like =>
      cases like with
      | host name => exact .some (.host name)
      | block same => exact .some (.block same)
      | _ => exact .none
  | _ => exact .none

theorem boundOf_like {bound bound' : Option Value}
    (like : Option.Rel (Value.Like matched) bound bound') (length missing : Nat) :
    boundOf bound length missing = boundOf bound' length missing := by
  cases like with
  | none => rfl
  | some like =>
    have numbers := like.toNumber
    cases like <;> simp only [boundOf, numbers]

/-! ## Methods -/

theorem repeated_like (text : String) (like : Value.ListLike matched arguments arguments') :
    (repeated text arguments : Except (EvalError ε) Value) = repeated text arguments' := by
  unfold repeated
  rw [(firstArgument_like like).toNumber]

theorem partsOf_like (text : String) (like : Value.ListLike matched arguments arguments') :
    partsOf text arguments = partsOf text arguments' := by
  unfold partsOf
  have first := firstArgument_like like
  have texts := first.text
  generalize firstArgument arguments = argument at first texts ⊢
  generalize firstArgument arguments' = argument' at first texts ⊢
  cases first <;> simp only [texts]

/-- A method of strings does the same with arguments that are alike. -/
theorem stringMethod?_congr (text name : String)
    (like : Value.ListLike matched arguments arguments') :
    (stringMethod? text name arguments : Except (EvalError ε) (Option Value)) =
      stringMethod? text name arguments' := by
  unfold stringMethod?
  rw [firstText_like like, partsOf_like text like, repeated_like text like]

theorem repeated_plain (text : String) (arguments : List Value) :
    Ends (Value.Like matched) EvalError.Plain
      (repeated text arguments : Except (EvalError ε) Value) (repeated text arguments) := by
  unfold repeated
  dsimp only
  generalize (if (firstArgument arguments).toNumber.isNaN = true then 0.0
    else Number.truncate (firstArgument arguments).toNumber) = count
  split
  · exact .error trivial
  · split
    · exact .error trivial
    · split
      · exact .ok (.string _)
      · exact .ok (.string _)

/-- Strings in a row are like themselves. -/
theorem texts_like {α : Type} (spell : α → String) (things : List α) :
    Value.ListLike matched (things.map fun thing => .string (spell thing))
      (things.map fun thing => .string (spell thing)) := by
  induction things with
  | nil => exact .nil
  | cons thing rest ih => exact .cons (.string _) ih

theorem partsOf_plain (text : String) (arguments : List Value) :
    Value.ListLike matched (partsOf text arguments) (partsOf text arguments) := by
  unfold partsOf
  split
  · exact .cons (.string _) .nil
  · split
    · exact texts_like _ _
    · exact texts_like _ _

/-- The methods of strings do the same with arguments that are alike. -/
theorem stringMethod?_like (text name : String)
    (like : Value.ListLike matched arguments arguments') :
    Ends (Option.Rel (Value.Like matched)) EvalError.Plain
      (stringMethod? text name arguments : Except (EvalError ε) (Option Value))
      (stringMethod? text name arguments') := by
  rw [← stringMethod?_congr text name like]
  unfold stringMethod?
  split
  · exact .ok (.some (.string _))
  · exact .ok (.some (.string _))
  · exact .ok (.some (.string _))
  · exact .ok (.some (.bool _))
  · exact .ok (.some (.bool _))
  · exact .ok (.some (.bool _))
  · exact .ok (.some (.array (partsOf_plain text arguments)))
  · have repeats : Ends (Value.Like matched) EvalError.Plain
        (repeated text arguments : Except (EvalError ε) Value) (repeated text arguments) :=
      repeated_plain text arguments
    generalize (repeated text arguments : Except (EvalError ε) Value) = result at repeats ⊢
    cases repeats with
    | ok like => exact .ok (.some like)
    | error plain => exact .error plain
  · exact .ok .none

theorem concatenated_like (like : Value.ListLike matched items items')
    (likes : Value.ListLike matched arguments arguments') :
    Value.ListLike matched (concatenated items arguments) (concatenated items' arguments') := by
  unfold concatenated
  refine List.rel_append like ?_
  induction likes with
  | nil => exact .nil
  | cons first _ ih =>
    rw [List.flatMap_cons, List.flatMap_cons]
    refine List.rel_append ?_ ih
    cases first with
    | array like => exact like
    | undefined => exact .cons .undefined .nil
    | null => exact .cons .null .nil
    | bool value => exact .cons (.bool value) .nil
    | number value => exact .cons (.number value) .nil
    | string text => exact .cons (.string text) .nil
    | object like => exact .cons (.object like) .nil
    | host name => exact .cons (.host name) .nil
    | block same => exact .cons (.block same) .nil

/-- **How a method searches an array**: it compares the items, one after the other, up to the
one that is found, if the method is one that searches. -/
def searchBy? : String → Option (Value → Value → Bool)
  | "includes" => some Value.sameOrNaN
  | "indexOf" => some Value.strictEquals
  | _ => none

/-- How the methods of arrays compare gives the same for values that are alike. -/
theorem searchBy?_like {name : String} {equal : Value → Value → Bool}
    (searches : searchBy? name = some equal) (like : value.Like matched value')
    (like' : other.Like matched other') (apart : Value.KeptApart matched value other) :
    equal value other = equal value' other' := by
  unfold searchBy? at searches
  split at searches
  · cases searches
    exact like.sameOrNaN like' apart
  · cases searches
    exact like.strictEquals like' apart
  · cases searches

/-- The items whose results count as true are alike. -/
theorem truthyItems_like {results results' : List (Value × Value)}
    (like : List.Forall₂ (fun result result' =>
      result.1.Like matched result'.1 ∧ result.2.Like matched result'.2) results results') :
    Value.ListLike matched ((results.filter (·.2.isTruthy)).map (·.1))
      ((results'.filter (·.2.isTruthy)).map (·.1)) := by
  induction like with
  | nil => exact .nil
  | @cons result result' _ _ first _ ih =>
    rw [List.filter_cons, List.filter_cons, first.2.isTruthy]
    split
    · exact .cons first.1 ih
    · exact ih

/-- The methods of arrays that call nothing do the same with values that are alike, if
searching finds an item at the same place. -/
theorem plainArrayMethod?_like (like : Value.ListLike matched items items')
    (likes : Value.ListLike matched arguments arguments') (name : String)
    (found : ∀ equal ∈ searchBy? name, items.findIdx? (equal · (firstArgument arguments)) =
      items'.findIdx? (equal · (firstArgument arguments'))) :
    Option.Rel (Value.Like matched) (plainArrayMethod? items name arguments)
      (plainArrayMethod? items' name arguments') := by
  have texts : items.map Value.text = items'.map Value.text := by
    clear found
    induction like with
    | nil => rfl
    | cons first _ ih => rw [List.map_cons, List.map_cons, first.text, ih]
  unfold plainArrayMethod?
  split
  · dsimp only
    have separator := firstArgument_like likes
    have separators := separator.text
    generalize firstArgument arguments = argument at separator separators ⊢
    generalize firstArgument arguments' = argument' at separator separators ⊢
    rw [texts]
    cases separator <;> simp only [separators] <;> exact .some (.string _)
  -- The two methods that search do so by what was found to be the same.
  · rw [← List.findIdx?_isSome, ← List.findIdx?_isSome, found Value.sameOrNaN rfl]
    exact .some (.bool _)
  · rw [found Value.strictEquals rfl]
    split
    · exact .some (.number _)
    · exact .some (.number _)
  · dsimp only
    rw [like.length_eq, boundOf_like (getElem?_like likes 0),
      boundOf_like (getElem?_like likes 1)]
    exact .some (.array (List.forall₂_drop _ (List.forall₂_take _ like)))
  · exact .some (.array (concatenated_like like likes))
  · exact .some (.array (List.rel_reverse like))
  · exact .none

end Snippet

end ViewTemplate
