import ViewTemplate.Proofs.Render.Correspondence
import ViewTemplate.Proofs.Render.VariableLikeness

/-!
# Evaluations that correspond to each other

An evaluation in one render does what its record in another one says, if the calls of print
blocks do.  The proof goes through the evaluator once, for all correspondences: the
operations on values keep values alike, and what remains is the order of things.
-/

namespace ViewTemplate

open Snippet

namespace Correspondence

variable {left right : Environment} {K : Correspondence left right} {world : K.World}

/-! ## Names -/

section

variable {state state' : RenderState}

/-- A name has matching values in states that match. -/
theorem States.lookup (states : K.States world state state') (name : String) :
    Option.Rel (K.ValueLike world) (state.lookup left name) (state'.lookup right name) :=
  RenderState.lookup_like K.helpers states.context states.frames name

/-- An assignment succeeds in both states or in none. -/
theorem States.assign? (states : K.States world state state') (name : String)
    {value value' : Value} (values : K.ValueLike world value value') :
    Option.Rel (K.States world) (state.assign? name value) (state'.assign? name value') := by
  obtain ⟨stock, contexts, scopes⟩ := states
  unfold RenderState.assign?
  have assigned := assignFrames?_like scopes name values
  dsimp only
  generalize RenderState.assignFrames? _ name value = after at assigned ⊢
  generalize RenderState.assignFrames? _ name value' = after' at assigned ⊢
  cases assigned with
  | some likes => exact .some ⟨stock, contexts, likes⟩
  | none =>
    dsimp only
    have updated := (contextFields_like contexts).update? name values
    generalize Table.update? _ name value = after at updated ⊢
    generalize Table.update? _ name value' = after' at updated ⊢
    cases updated with
    | none => exact .none
    | some like => exact .some ⟨stock, .object like, scopes⟩

theorem States.declare (states : K.States world state state') (name : String)
    {value value' : Value} (values : K.ValueLike world value value') :
    K.States world (state.declare name value) (state'.declare name value') := by
  obtain ⟨stock, contexts, scopes⟩ := states
  cases scopes with
  | nil => exact ⟨stock, contexts, .nil⟩
  | cons first rest => exact ⟨stock, contexts, .cons (first.set name values) rest⟩

end

/-! ## Reading, writing and calling -/

theorem permits_of_plain {cause : Fail} (plain : EvalError.Plain cause) : K.Permits cause := by
  intro lacks
  cases cause with
  | unboundBlock | failed => exact plain.elim
  | _ => exact lacks.elim

/-- How a result ends that depends on no state and no print block. -/
theorem ends_of_plain {α β : Type} {related : α → β → Prop} {result : Except Fail α}
    {result' : Except Fail β} (ends : Ends related EvalError.Plain result result') :
    Ends related K.Permits result result' := by
  cases ends with
  | ok same => exact .ok same
  | error plain => exact .error (permits_of_plain plain)

/-- **How print blocks are called in two renders**, the one with an account. -/
def BlocksAlike (K : Correspondence left right) (block : Nat → List Value → Recorded Fail Value)
    (block' : Nat → List Value → Snippet.Eval RenderState RenderError Value) : Prop :=
  ∀ {world index index' arguments arguments'}, K.blocks world index index' →
    K.ValuesLike world arguments arguments' →
      K.Alike world K.ValueLike (block index arguments) (block' index' arguments')

variable {block : Nat → List Value → Recorded Fail Value} {calls : Calls}

theorem recordRead_alike (name : String) :
    K.Alike world K.ValueLike (recordRead left name) ((renderScope right calls).read name) := by
  refine .get_bind fun state state' states => ?_
  exact .pure (getD_like (states.lookup name))

theorem recordWrite_alike (name : String) {value value' : Value}
    (values : K.ValueLike world value value') :
    K.Alike world (fun _ => Eq) (recordWrite name value)
      ((renderScope right calls).write name value') := by
  refine .get_bind fun state state' states => ?_
  have assigned := states.assign? name values
  dsimp only [renderScope]
  generalize state.assign? name value = after at assigned ⊢
  generalize state'.assign? name value' = after' at assigned ⊢
  cases assigned with
  | some states' => exact .set states'
  | none => exact .fail (permits_of_plain trivial)

/-- **Calls do the same**, of print blocks and of helpers. -/
theorem recordCall_alike (blocks : K.BlocksAlike block calls.block) {callable callable' : Callable}
    {arguments arguments' : List Value} (like : callable.Like (K.blocks world) callable')
    (given : K.ValuesLike world arguments arguments') :
    K.Alike world K.ValueLike (recordCall left block callable arguments)
      ((renderScope right calls).call callable' arguments') := by
  refine .note_bind_of_known (known_append like.blocks_matched (values_known given)) nofun ?_
  refine .valued ?_
  cases like with
  | block same => exact blocks same given
  | host name =>
    have ends := K.functions name given
    dsimp only [Scope.call, renderScope]
    generalize left.functions name arguments = result at ends ⊢
    generalize right.functions name arguments' = result' at ends ⊢
    cases ends with
    | ok same => exact .pure same
    | error => exact .fail (permits_of_plain trivial)

/-! ## Methods -/

theorem callback_mono {later : K.World} (grown : K.le world later)
    {callable callable' : Callable} (like : callable.Like (K.blocks world) callable') :
    callable.Like (K.blocks later) callable' :=
  value_mono grown like

/-- Items with the results of a function on them. -/
abbrev ResultsLike (K : Correspondence left right) (world : K.World) :
    List (Value × Value) → List (Value × Value) → Prop :=
  List.Forall₂ fun result result' =>
    K.ValueLike world result.1 result'.1 ∧ K.ValueLike world result.2 result'.2

theorem recordOnItems_alike (blocks : K.BlocksAlike block calls.block)
    {callable callable' : Callable} {items items' : List Value} (index : Nat)
    (like : callable.Like (K.blocks world) callable') (given : K.ValuesLike world items items') :
    K.Alike world K.ResultsLike (recordOnItems left block callable index items)
      (callOnItems (renderScope right calls) callable' index items') := by
  induction items generalizing world items' index with
  | nil =>
    cases given
    exact .pure .nil
  | cons item rest ih =>
    cases given with
    | cons first others =>
      have arguments : K.ValuesLike world [item, .ofNat index] [_, .ofNat index] :=
        .cons first (.cons (.number _) .nil)
      refine .bind (recordCall_alike blocks like arguments) fun later grown result result' same => ?_
      refine .bind (ih _ (callback_mono grown like) (values_mono grown others))
        fun last grown' results results' behind => ?_
      exact .pure (.cons ⟨value_mono (K.le_trans grown grown') first, value_mono grown' same⟩ behind)

/-- Searching finds an item at the same place. -/
theorem recordSearch_alike {equal : Value → Value → Bool}
    (compares : ∀ {value value' other other'}, K.ValueLike world value value' →
      K.ValueLike world other other' → Value.KeptApart (K.blocks world) value other →
        equal value other = equal value' other')
    {sought sought' : Value} (same : K.ValueLike world sought sought') {items items' : List Value}
    (like : K.ValuesLike world items items') :
    K.Alike world
      (fun _ _ _ => items.findIdx? (equal · sought) = items'.findIdx? (equal · sought'))
      (recordSearch equal sought items) (pure ()) := by
  induction like with
  | nil => exact .pure rfl
  | @cons item item' rest rest' first others ih =>
    -- Only the items up to the one that is found are compared, and need to be told apart.
    refine .compared_bind first same fun apart => ?_
    rw [List.findIdx?_cons, List.findIdx?_cons, ← compares first same apart]
    cases equal item sought with
    | true => exact .pure rfl
    | false => exact ih.imp fun found => congrArg (Option.map (· + 1)) found

theorem liftExcept_eq {σ α : Type} (result : Except Fail α) :
    (arrayMethod?.liftExcept result : Snippet.Eval σ RenderError α) =
      MonadExcept.ofExcept result := by
  cases result <;> rfl

/-- The function that is given to a method of arrays. -/
theorem callback_alike (method : String) {arguments arguments' : List Value}
    (given : K.ValuesLike world arguments arguments') :
    K.Alike world (fun later => Callable.Like (K.blocks later))
      (.ofExcept (callback method arguments))
      (arrayMethod?.liftExcept (callback method arguments') : Snippet.Eval _ RenderError _) := by
  rw [liftExcept_eq]
  exact .ofExcept (ends_of_plain (callback_like method given))

/-- **The methods of arrays do the same.** -/
theorem recordArrayMethod?_alike (blocks : K.BlocksAlike block calls.block)
    {items items' : List Value} (name : String) {arguments arguments' : List Value}
    (like : K.ValuesLike world items items') (given : K.ValuesLike world arguments arguments') :
    K.Alike world (fun later => Option.Rel (K.ValueLike later))
      (recordArrayMethod? left block items name arguments)
      (arrayMethod? (renderScope right calls) items' name arguments') := by
  unfold recordArrayMethod? arrayMethod?
  split
  · refine .bind (callback_alike "map" given) fun later grown callable callable' same => ?_
    refine .bind (recordOnItems_alike blocks 0 same (values_mono grown like))
      fun last _ results results' behind => ?_
    refine .pure (.some (.array ?_))
    rw [List.forall₂_map_left_iff, List.forall₂_map_right_iff]
    exact behind.imp fun _ _ same => same.2
  · split
    · refine .bind (callback_alike "filter" given) fun later grown callable callable' same => ?_
      refine .bind (recordOnItems_alike blocks 0 same (values_mono grown like))
        fun last _ results results' behind => ?_
      exact .pure (.some (.array (truthyItems_like behind)))
    · cases searches : searchBy? name with
      | none =>
        refine .pure (plainArrayMethod?_like like given name ?_)
        rw [searches]
        nofun
      | some equal =>
        have sought := firstArgument_like given
        refine .look_bind (recordSearch_alike (searchBy?_like searches) sought like)
          fun later grown _ found => ?_
        refine .pure (plainArrayMethod?_like (values_mono grown like) (values_mono grown given)
          name ?_)
        rw [searches]
        rintro _ ⟨⟩
        exact found

/-- **The methods of all values do the same.** -/
theorem recordMethod?_alike (blocks : K.BlocksAlike block calls.block) {receiver receiver' : Value}
    (name : String) {arguments arguments' : List Value}
    (like : K.ValueLike world receiver receiver')
    (given : K.ValuesLike world arguments arguments') :
    K.Alike world (fun later => Option.Rel (K.ValueLike later))
      (recordMethod? left block receiver name arguments)
      (callMethod? (renderScope right calls) receiver' name arguments') := by
  unfold recordMethod? callMethod?
  split
  · rw [like.text]
    exact .pure (.some (.string _))
  · cases like with
    | string text =>
      dsimp only
      have ends : Ends (Option.Rel (Value.Like (K.blocks world))) EvalError.Plain
          (stringMethod? text name arguments : Except Fail (Option Value))
          (stringMethod? text name arguments') :=
        stringMethod?_like text name given
      generalize (stringMethod? text name arguments : Except Fail (Option Value)) = result at ends ⊢
      generalize (stringMethod? text name arguments' : Except Fail (Option Value)) = result'
        at ends ⊢
      cases ends with
      | ok same => exact .pure same
      | error plain => exact .fail (permits_of_plain plain)
    | array like => exact recordArrayMethod?_alike blocks name like given
    | _ => exact .pure .none

/-- **Calling a member does the same.** -/
theorem recordMember_alike (blocks : K.BlocksAlike block calls.block) (callee : String)
    {receiver receiver' : Value} (key : String) {arguments arguments' : List Value}
    (like : K.ValueLike world receiver receiver')
    (given : K.ValuesLike world arguments arguments') :
    K.Alike world K.ValueLike (recordMember left block callee receiver key arguments)
      (callMember (renderScope right calls) callee receiver' key arguments') := by
  unfold recordMember callMember
  have own := ownFunction?_like like key
  generalize callMember.ownFunction? receiver key = function at own ⊢
  generalize callMember.ownFunction? receiver' key = function' at own ⊢
  cases own with
  | some same => exact recordCall_alike blocks same given
  | none =>
    refine .bind (recordMethod?_alike blocks key like given) fun later _ result result' same => ?_
    cases same with
    | some same => exact .pure same
    | none => exact .fail (permits_of_plain trivial)

/-! ## Expressions -/

/-- Operators do the same; those that compare tell print blocks apart. -/
theorem recordOperation_alike (op : BinaryOp) {first first' second second' : Value}
    (like : K.ValueLike world first first') (like' : K.ValueLike world second second') :
    K.Alike world K.ValueLike (recordOperation op first second)
      (pure (op.apply first' second')) := by
  unfold recordOperation
  cases compares : op.compares with
  | false =>
    refine .pure (op.apply_like like like' ?_)
    rw [compares]
    nofun
  | true =>
    exact .compared_bind like like' fun apart => .pure (op.apply_like like like' fun _ => apart)

/-- What is no function cannot be called in either render. -/
theorem recordFunction_alike (blocks : K.BlocksAlike block calls.block) (callee : String)
    {value value' : Value} {arguments arguments' : List Value} :
    K.ValueLike world value value' → K.ValuesLike world arguments arguments' →
    K.Alike world K.ValueLike
      (match value with
        | .function callable => recordCall left block callable arguments
        | _ => .fail (.notAFunction callee))
      (match value' with
        | .function callable => (renderScope right calls).call callable arguments'
        | _ => throw (.notAFunction callee)) := by
  intro like given
  cases like with
  | block same => exact recordCall_alike blocks (Value.Like.block same) given
  | host name => exact recordCall_alike blocks (Value.Like.host name) given
  | _ => exact .fail (permits_of_plain trivial)

theorem ofExcept_eq {σ α : Type} (result : Except Fail α) :
    (Snippet.ofExcept result : Snippet.Eval σ RenderError α) = MonadExcept.ofExcept result := by
  cases result <;> rfl

/-- Members of values that match. -/
theorem recordedMember_alike {receiver receiver' key key' : Value}
    (like : K.ValueLike world receiver receiver') (keys : K.ValueLike world key key') :
    K.Alike world K.ValueLike (.ofExcept (readMember receiver key.text))
      (Snippet.ofExcept (readMember receiver' key'.text) :
        Snippet.Eval RenderState RenderError Value) := by
  rw [ofExcept_eq, keys.text]
  exact .ofExcept (ends_of_plain (readMember_like like _))

mutual

/-- **Evaluations do the same**, in every world. -/
theorem recordExpr_alike (blocks : K.BlocksAlike block calls.block) :
    (expr : Expr) → ∀ world : K.World, K.Alike world K.ValueLike (recordExpr left block expr)
      (evaluate (renderScope right calls) expr)
  | .number _ value, _ => .valued (.pure (.number value))
  | .string _ text, _ => .valued (.pure (.string text))
  | .boolean _ value, _ => .valued (.pure (.bool value))
  | .null _, _ => .valued (.pure .null)
  | .undefined _, _ => .valued (.pure .undefined)
  | .identifier _ name, _ => .valued (recordRead_alike name)
  | .this _, _ => .valued (.get_bind fun _ _ states => .pure states.context)
  | .binary _ op left' right', world => by
    refine .valued (.bind (recordExpr_alike blocks left' world)
      fun later _ first first' like => ?_)
    rw [op.shortcuts_like like]
    split
    · exact .pure like
    · refine .bind (recordExpr_alike blocks right' later) fun last grown second second' like' => ?_
      exact recordOperation_alike op (value_mono grown like) like'
  | .unary _ op operand, world =>
    .valued (.bind (recordExpr_alike blocks operand world) fun _ _ _ _ like =>
      .pure (op.apply_like like))
  | .update _ op name, world => by
    refine .valued (.bind (recordRead_alike name) fun later _ old old' like => ?_)
    rw [like.toNumber]
    exact .bind (recordWrite_alike name (.number _)) fun _ _ _ _ _ => .pure (.number _)
  | .member _ object key _ optional, world => by
    refine .valued (.bind (recordExpr_alike blocks object world)
      fun later _ receiver receiver' like => ?_)
    rw [like.isNullish]
    split
    · exact .pure .undefined
    · refine .bind (recordExpr_alike blocks key later) fun last grown name name' keys => ?_
      exact recordedMember_alike (value_mono grown like) keys
  | .call _ callee arguments, world => by
    have called := recordExpr_alike blocks callee
    have given := recordAll_alike blocks arguments
    -- A call of a member evaluates the object itself, any other one evaluates the callee.
    cases callee with
    | member _ object key _ optional =>
      refine .valued (.bind (recordExpr_alike blocks object world)
        fun later _ receiver receiver' like => ?_)
      rw [like.isNullish]
      split
      · split
        · exact .pure .undefined
        · refine .bind (recordExpr_alike blocks key later) fun last grown name name' keys => ?_
          exact recordedMember_alike (value_mono grown like) keys
      · refine .bind (recordExpr_alike blocks key later) fun middle grown name name' keys => ?_
        refine .bind (given middle) fun last grown' values values' likes => ?_
        rw [keys.text]
        exact recordMember_alike blocks _ _ (value_mono (K.le_trans grown grown') like) likes
    | _ =>
      refine .valued (.bind (called world) fun later _ value value' like => ?_)
      refine .bind (given later) fun last grown values values' likes => ?_
      exact recordFunction_alike blocks _ (value_mono grown like) likes
  | .ternary _ condition consequent alternate, world => by
    refine .valued (.bind (recordExpr_alike blocks condition world)
      fun later _ value value' like => ?_)
    rw [like.isTruthy]
    split
    · exact recordExpr_alike blocks consequent later
    · exact recordExpr_alike blocks alternate later
  | .object _ properties, world =>
    .valued (.bind (recordProperties_alike blocks properties world .nil) fun _ _ _ _ like =>
      .pure (.object like))
  | .array _ items, world =>
    .valued (.bind (recordAll_alike blocks items world) fun _ _ _ _ like => .pure (.array like))
  | .assignment _ op name value, world => by
    refine .valued (.bind (recordExpr_alike blocks value world)
      fun later _ right' right'' like => ?_)
    have assigned : ∀ last : K.World, ∀ result result' : Value, K.ValueLike last result result' →
        K.Alike last K.ValueLike (do recordWrite name result; return result)
          (do (renderScope right calls).write name result'; return result') :=
      fun last result result' same =>
        .bind (recordWrite_alike name same) fun _ grown _ _ _ => .pure (value_mono grown same)
    dsimp only
    cases op.binaryOp? with
    | none => exact .bind (.pure like) fun last _ result result' => assigned last result result'
    | some op =>
      refine .bind (recordRead_alike name) fun middle grown old old' like' => ?_
      refine .bind (recordOperation_alike op like' (value_mono grown like)) fun last _ => ?_
      exact assigned last

/-- So do evaluations of several expressions, -/
theorem recordAll_alike (blocks : K.BlocksAlike block calls.block) :
    (exprs : List Expr) → ∀ world : K.World, K.Alike world K.ValuesLike
      (recordExpr.recordAll left block exprs) (evaluate.evaluateAll (renderScope right calls) exprs)
  | [], _ => .pure .nil
  | expr :: rest, world =>
    .bind (recordExpr_alike blocks expr world) fun later _ _ _ like =>
      .bind (recordAll_alike blocks rest later) fun _ grown _ _ likes =>
        .pure (.cons (value_mono grown like) likes)

/-- and of object literals. -/
theorem recordProperties_alike (blocks : K.BlocksAlike block calls.block) :
    (properties : List (Property Expr)) → ∀ world : K.World, ∀ {fields fields' : Table Value},
      K.FieldsLike world fields fields' → K.Alike world K.FieldsLike
        (recordExpr.recordProperties left block fields properties)
        (evaluate.evaluateProperties (renderScope right calls) fields' properties)
  | [], _, _, _, like => .pure like
  | ⟨key, _, expr⟩ :: rest, world, _, _, like =>
    .bind (recordExpr_alike blocks expr world) fun later grown _ _ same =>
      recordProperties_alike blocks rest later ((fields_mono grown like).set key same)

end

end Correspondence

end ViewTemplate
