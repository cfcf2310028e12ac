import ViewTemplate.Proofs.Snippet.OperationLikeness
import ViewTemplate.Render.Execution

/-!
# Variables and items that are alike

Looking up a name, assigning it and going over the items of a collection do the same with
values that are alike.  None of them looks into a value, so nothing has to be known of the
print blocks in it.
-/

namespace ViewTemplate

open Snippet

variable {matched : Nat → Nat → Prop}

/-! ## Variables -/

theorem lookupFrames_like {frames frames' : List Frame}
    (like : List.Forall₂ (Value.FieldsLike matched) frames frames') (name : String) :
    Option.Rel (Value.Like matched) (RenderState.lookupFrames frames name)
      (RenderState.lookupFrames frames' name) := by
  induction like with
  | nil => exact .none
  | @cons frame frame' _ _ first _ ih =>
    unfold RenderState.lookupFrames
    have found := first.get? name
    generalize frame.get? name = value at found ⊢
    generalize frame'.get? name = value' at found ⊢
    cases found with
    | some like => exact .some like
    | none => exact ih

theorem contextFields_like {context context' : Value} (like : context.Like matched context') :
    Value.FieldsLike matched (RenderState.contextFields context)
      (RenderState.contextFields context') := by
  cases like with
  | object like => exact like
  | _ => exact .nil

/-- A name has values that are alike where the frames and the contexts are. -/
theorem RenderState.lookup_like {left right : Environment} (helpers : left.helpers = right.helpers)
    {state state' : RenderState} (contexts : state.context.Like matched state'.context)
    (scopes : List.Forall₂ (Value.FieldsLike matched) state.frames state'.frames)
    (name : String) :
    Option.Rel (Value.Like matched) (state.lookup left name) (state'.lookup right name) := by
  unfold RenderState.lookup
  have variable' := lookupFrames_like scopes name
  generalize lookupFrames state.frames name = value at variable' ⊢
  generalize lookupFrames state'.frames name = value' at variable' ⊢
  cases variable' with
  | some like => exact .some like
  | none =>
    have field := (contextFields_like contexts).get? name
    dsimp only
    generalize (contextFields state.context).get? name = value at field ⊢
    generalize (contextFields state'.context).get? name = value' at field ⊢
    cases field with
    | some like => exact .some like
    | none =>
      dsimp only
      unfold Environment.helper?
      rw [helpers]
      cases right.helpers.get? name with
      | none => exact .none
      | some hostName => exact .some (.host hostName)

theorem assignFrames?_like {frames frames' : List Frame}
    (like : List.Forall₂ (Value.FieldsLike matched) frames frames') (name : String)
    {value value' : Value} (values : value.Like matched value') :
    Option.Rel (List.Forall₂ (Value.FieldsLike matched))
      (RenderState.assignFrames? frames name value)
      (RenderState.assignFrames? frames' name value') := by
  induction like with
  | nil => exact .none
  | @cons frame frame' rest rest' first others ih =>
    unfold RenderState.assignFrames?
    have updated := first.update? name values
    generalize frame.update? name value = after at updated ⊢
    generalize frame'.update? name value' = after' at updated ⊢
    cases updated with
    | some like => exact .some (.cons like others)
    | none =>
      dsimp only
      generalize RenderState.assignFrames? rest name value = behind at ih ⊢
      generalize RenderState.assignFrames? rest' name value' = behind' at ih ⊢
      cases ih with
      | none => exact .none
      | some likes => exact .some (.cons first likes)

/-! ## Frames -/

theorem zip_like {identifiers : List String} {values values' : List Value}
    (like : Value.ListLike matched values values') :
    Value.FieldsLike matched (identifiers.zip values) (identifiers.zip values') := by
  induction like generalizing identifiers with
  | nil =>
    rw [List.zip_nil_right]
    exact .nil
  | cons first _ ih =>
    cases identifiers with
    | nil => exact .nil
    | cons identifier rest => exact .cons first ih

theorem itemFrame_like (identifiers : List String) {values values' : List Value}
    (like : Value.ListLike matched values values') :
    Value.FieldsLike matched (itemFrame identifiers values) (itemFrame identifiers values') :=
  (zip_like like).ofEntries

theorem argumentFrame_like (parameters : List String) {arguments arguments' : List Value}
    (like : Value.ListLike matched arguments arguments') :
    Value.FieldsLike matched (argumentFrame parameters arguments)
      (argumentFrame parameters arguments') := by
  refine Table.Like.ofEntries ?_
  induction parameters.zipIdx with
  | nil => exact .nil
  | cons entry _ ih => exact .cons (getD_like (getElem?_like like entry.2)) ih

/-! ## Items -/

theorem numbered_like {α β : Type} {related : α → β → Prop} {label : α → List Value}
    {label' : β → List Value}
    (labels : ∀ {thing thing'}, related thing thing' →
      Value.ListLike matched (label thing) (label' thing'))
    {things : List α} {things' : List β} (like : List.Forall₂ related things things') :
    List.Forall₂ (Value.ListLike matched) (numbered label things) (numbered label' things') := by
  unfold numbered
  generalize 0 = start
  induction like generalizing start with
  | nil => exact .nil
  | cons first _ ih =>
    rw [List.zipIdx_cons, List.zipIdx_cons]
    exact .cons (List.rel_append (labels first) (.cons (.number _) .nil)) (ih _)

theorem entries_like {fields fields' : Table Value}
    (like : Value.FieldsLike matched fields fields') :
    List.Forall₂ (fun entry entry' : String × Value =>
      entry.1 = entry'.1 ∧ entry.2.Like matched entry'.2) fields fields' := by
  induction like with
  | nil => exact .nil
  | cons first _ ih => exact .cons ⟨rfl, first⟩ ih

theorem items?_like {value value' : Value} (like : value.Like matched value') :
    Option.Rel (List.Forall₂ (Value.ListLike matched)) value.items? value'.items? := by
  cases like with
  | array like => exact .some (numbered_like (fun same => .cons same .nil) like)
  | string text =>
    have same : List.Forall₂ Eq text.toList text.toList := List.forall₂_same.mpr fun _ _ => rfl
    refine .some (numbered_like ?_ same)
    rintro c _ rfl
    exact .cons (.string _) .nil
  | object like =>
    refine .some (numbered_like ?_ (entries_like like))
    rintro ⟨name, value⟩ ⟨_, value'⟩ ⟨rfl, same⟩
    exact .cons (.string name) (.cons same .nil)
  | _ => exact .none

/-- A loop goes over items that are alike, or it fails for one of two reasons. -/
theorem collectionAt_like (position : Position) {allowed : RenderError → Prop}
    (null : allowed (.nullCollection position))
    (other : ∀ typeName, allowed (.notIterable typeName position)) {value value' : Value}
    (like : value.Like matched value') :
    Ends (List.Forall₂ (Value.ListLike matched)) allowed (collectionAt position value)
      (collectionAt position value') := by
  unfold collectionAt
  rw [like.isNullish, like.typeName]
  split
  · exact .error null
  · have items := items?_like like
    generalize value.items? = found at items ⊢
    generalize value'.items? = found' at items ⊢
    cases items with
    | some like => exact .ok like
    | none => exact .error (other _)

end ViewTemplate
