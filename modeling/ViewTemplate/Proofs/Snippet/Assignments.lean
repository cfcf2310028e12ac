import ViewTemplate.Proofs.Snippet.EvaluationEffect

/-!
# Assignments

What an evaluation changes, and what a compound assignment computes.

A table of plain variables is changed by assignments and updates only, and these
give a variable another value but make none and remove none.  So an evaluation
leaves the names of the variables and their order alone, on either exit, and all
values but those of its targets (`evaluation_changes_targets`); a declaration adds
its own name to that.

A compound assignment reads its variable behind its right side, the assignment that
spells it out in front of it.  The two store the same value as long as the right
side does not touch the variable, and in general only if the operation does not tell
the two readings apart (`compound_eq_spelled_iff`).

## Main Definitions

* `Variables.Changes`, `Variables.Declares` — plain variables before and after
* `Scope.valueOf` — what a variable reads as
* `storing` — what every assignment ends with
-/

namespace ViewTemplate.Snippet

variable {σ ε : Type}

/-! ## Plain variables -/

/-- **Plain variables of which some have changed**: no others have, and the variables are
the same, in the same order. -/
structure Variables.Changes (before : Variables) (targets : List String) (after : Variables) :
    Prop where
  this : after.this = before.this
  names : after.table.names = before.table.names
  others : ∀ name, name ∉ targets → after.table.get? name = before.table.get? name

namespace Variables.Changes

variable {first second third : Variables} {targets : List String}

theorem refl (frame : Variables) : frame.Changes targets frame :=
  ⟨rfl, rfl, fun _ _ => rfl⟩

theorem trans (h : first.Changes targets second) (h' : second.Changes targets third) :
    first.Changes targets third where
  this := h'.this.trans h.this
  names := h'.names.trans h.names
  others name other := (h'.others name other).trans (h.others name other)

end Variables.Changes

/-- Changes of plain variables as an effect: they do not depend on the exit. -/
def changing (targets : List String) : Effect Variables where
  returns before after := before.Changes targets after
  throws before after := before.Changes targets after
  returns_refl := .refl
  returns_trans := .trans
  throws_refl := .refl
  throws_after := .trans

/-- What an action leaves behind that changes some variables, whatever its result is. -/
theorem changes_of_bounds {α : Type} {targets : List String}
    {action : ExceptT ε (StateM Variables) α} (h : (changing targets).Bounds action)
    (frame : Variables) : frame.Changes targets (action.run.run frame).2 := by
  have allowed := h frame
  generalize action.run.run frame = result at allowed ⊢
  rcases result with ⟨error | value, after⟩
  · exact allowed
  · exact allowed

/-- An assignment changes its variable. -/
theorem Variables.assign_changes {callHost : String → HostFunction} {frame after : Variables}
    {name : String} {value : Value}
    (h : (Variables.scope callHost).assign? frame name value = some after)
    {targets : List String} (target : name ∈ targets) : frame.Changes targets after := by
  obtain ⟨table, updated, rfl⟩ := Option.map_eq_some_iff.mp h
  refine ⟨rfl, Table.names_update? updated, fun other notTarget => ?_⟩
  exact Table.get?_update?_of_ne updated fun same => notTarget (same ▸ target)

/-- Print blocks cannot be called here, so only assignments matter. -/
theorem Variables.scope_changing (callHost : String → HostFunction) (targets : List String) :
    (Variables.scope callHost).KeepsOn (changing targets) (· ∈ targets) where
  assign target updated := Variables.assign_changes updated target
  callBlock _ _ := .throw _

/-- **An evaluation changes its targets and nothing else.** -/
theorem evaluate_changes (callHost : String → HostFunction) (expr : Expr) (frame : Variables) :
    frame.Changes expr.targets ((evaluate (Variables.scope callHost) expr).run.run frame).2 :=
  changes_of_bounds
    (evaluate_bounds_on (Variables.scope_changing callHost expr.targets) expr fun _ mem => mem)
    frame

/-! ### Declarations -/

/-- **Plain variables behind a declaration**, in front of which some have changed: the declared
one is there with its value, in its old place or else in the last one. -/
structure Variables.Declares (before : Variables) (targets : List String) (name : String)
    (value : Value) (after : Variables) : Prop where
  this : after.this = before.this
  names : after.table.names =
    if name ∈ before.table.names then before.table.names else before.table.names ++ [name]
  value : after.table.get? name = some value
  others : ∀ other, other ≠ name → other ∉ targets →
    after.table.get? other = before.table.get? other

theorem Variables.Changes.declares {before middle : Variables} {targets : List String}
    (h : before.Changes targets middle) (name : String) (value : Value) :
    before.Declares targets name value { middle with table := middle.table.set name value } where
  this := h.this
  names := by
    have known : middle.table.contains name = true ↔ name ∈ before.table.names := by
      rw [Table.contains_iff_mem_names, h.names]
    simp only [Table.names_set, h.names, known]
  value := by rw [Table.get?_set, if_pos rfl]
  others other distinct notTarget := by
    rw [Table.get?_set, if_neg (Ne.symm distinct), h.others other notTarget]

/-- **Evaluations change their targets, and declarations make their own variable besides.**  On
either exit of an evaluation the plain variables are the same ones in the same order, `this` is
the same, and no values have changed but those of variables that the expression assigns or
updates.  A declaration ends like its initializer if that fails, and has then made nothing; else
it makes its own variable, or gives it its first value if it was there. -/
theorem evaluation_changes_targets (callHost : String → HostFunction) (frame : Variables) :
    (∀ expr : Expr,
      frame.Changes expr.targets ((evaluate (Variables.scope callHost) expr).run.run frame).2) ∧
    (∀ (name : String) (init : Option Expr),
      let initial : Except (EvalError Empty) Value × Variables := match init with
        | none => (.ok .undefined, frame)
        | some expr => (evaluate (Variables.scope callHost) expr).run.run frame
      let run := ((Statement.declaration name init).run (Variables.scope callHost)).run.run frame
      let targets := init.elim [] Expr.targets
      match initial with
      | (.error error, after) => run = (.error error, after) ∧ frame.Changes targets after
      | (.ok value, _) =>
        run.1 = .ok .undefined ∧ frame.Declares targets name value run.2) := by
  refine ⟨fun expr => evaluate_changes callHost expr frame, fun name init => ?_⟩
  cases init with
  | none => exact ⟨rfl, (Variables.Changes.refl frame).declares name .undefined⟩
  | some expr =>
    have changes := evaluate_changes callHost expr frame
    dsimp only
    rw [Statement.run, run_bind]
    generalize (evaluate (Variables.scope callHost) expr).run.run frame = initial at changes ⊢
    obtain ⟨error | value, after⟩ := initial
    · exact ⟨rfl, changes⟩
    · exact ⟨rfl, changes.declares name value⟩

/-- An evaluation that fails half way: the assignment in front of the failure stays, the one behind
it is not made, and no variable comes in or goes. -/
theorem evaluation_changes_targets_half_way :
    let scope := Variables.scope fun _ _ => .ok .null
    let frame : Variables := { table := [("x", .string "a"), ("y", .null), ("z", .string "a")] }
    let assigned (name : String) : Expr := .assignment ⟨0, 7⟩ .assign name (.string ⟨4, 7⟩ "b")
    let unreadable : Expr := .member ⟨9, 12⟩ (.identifier ⟨9, 10⟩ "y") (.string ⟨11, 12⟩ "n") false
      false
    let expr : Expr := .array ⟨0, 20⟩ [assigned "x", unreadable, assigned "z"]
    let run := (evaluate scope expr).run.run frame
    run.1 = .error (.unreadable "null" "n") ∧ frame.Changes ["x", "z"] run.2 ∧
      run.2.table = [("x", .string "b"), ("y", .null), ("z", .string "a")] := by
  intro scope frame assigned unreadable expr run
  exact ⟨rfl, (evaluation_changes_targets (fun _ _ => .ok .null) frame).1 expr, rfl⟩

/-! ## Compound assignments -/

/-- What a variable reads as in a state. -/
def Scope.valueOf (scope : Scope σ ε) (state : σ) (name : String) : Value :=
  (scope.lookup state name).getD .undefined

theorem Scope.read_run (scope : Scope σ ε) (name : String) (state : σ) :
    (scope.read name).run.run state = (.ok (scope.valueOf state name), state) := rfl

/-- What every assignment ends with: a variable gets a value, which is that of the assignment. -/
def storing (scope : Scope σ ε) (name : String) (value : Value) : Eval σ ε Value := do
  scope.write name value
  return value

theorem storing_run (scope : Scope σ ε) (name : String) (value : Value) (state : σ) :
    (storing scope name value).run.run state =
      match scope.assign? state name value with
      | some after => (.ok value, after)
      | none => (.error (.notDefined name), state) := by
  unfold storing Scope.write
  rw [run_bind, run_bind, run_get]
  dsimp only
  cases scope.assign? state name value with
  | some after => rfl
  | none => rfl

/-- Storing tells two values apart unless the variable does not exist. -/
theorem storing_eq_iff (scope : Scope σ ε) (name : String) (value other : Value) (state : σ) :
    (storing scope name value).run.run state = (storing scope name other).run.run state ↔
      value = other ∨
        (scope.assign? state name value = none ∧ scope.assign? state name other = none) := by
  rw [storing_run, storing_run]
  constructor
  · intro same
    cases stored : scope.assign? state name value with
    | some after =>
      cases stored' : scope.assign? state name other with
      | some after' =>
        rw [stored, stored'] at same
        exact .inl (Except.ok.inj (Prod.mk.inj same).1)
      | none =>
        rw [stored, stored'] at same
        cases same
    | none =>
      cases stored' : scope.assign? state name other with
      | some after' =>
        rw [stored, stored'] at same
        cases same
      | none => exact .inr ⟨rfl, rfl⟩
  · rintro (rfl | ⟨missing, missing'⟩)
    · rfl
    · rw [missing, missing']

section

variable {op : AssignOp} {operator : BinaryOp} (compound : op.binaryOp? = some operator)
  (scope : Scope σ ε) (name : String) (value : Expr) (state : σ)

include compound

/-- **A compound assignment** reads its variable behind its right side. -/
theorem compound_run (span : Span) :
    (evaluate scope (.assignment span op name value)).run.run state =
      match (evaluate scope value).run.run state with
      | (.ok right, after) =>
        (storing scope name (operator.apply (scope.valueOf after name) right)).run.run after
      | (.error error, after) => (.error error, after) := by
  rw [evaluate, run_bind]
  dsimp only
  rw [compound]
  rcases (evaluate scope value).run.run state with ⟨error | right, after⟩
  · rfl
  · dsimp only
    rw [run_bind, Scope.read_run]
    rfl

/-- The operators of compound assignments always need both operands. -/
theorem shortcuts_of_compound (left : Value) : operator.shortcuts left = false := by
  cases op <;> cases compound <;> rfl

/-- **The assignment that spells a compound one out** reads its variable first. -/
theorem spelled_run (span spanOfOperation spanOfName : Span) :
    (evaluate scope (.assignment span .assign name
        (.binary spanOfOperation operator (.identifier spanOfName name) value))).run.run state =
      match (evaluate scope value).run.run state with
      | (.ok right, after) =>
        (storing scope name (operator.apply (scope.valueOf state name) right)).run.run after
      | (.error error, after) => (.error error, after) := by
  have operation :
      (evaluate scope (.binary spanOfOperation operator (.identifier spanOfName name)
          value)).run.run state =
        match (evaluate scope value).run.run state with
        | (.ok right, after) => (.ok (operator.apply (scope.valueOf state name) right), after)
        | (.error error, after) => (.error error, after) := by
    rw [evaluate, run_bind, evaluate]
    change (if operator.shortcuts (scope.valueOf state name) then _ else _ : Eval σ ε Value).run.run
      state = _
    rw [shortcuts_of_compound compound, if_neg (by decide), run_bind]
    rcases (evaluate scope value).run.run state with ⟨error | right, after⟩
    · rfl
    · rfl
  rw [evaluate, run_bind, operation]
  rcases (evaluate scope value).run.run state with ⟨error | right, after⟩
  · rfl
  · rfl

end

/-- **A compound assignment does what the assignment does that spells it out, as long as its right
side leaves the variable alone**: exactly if the operation gives the same for what the variable was
before the right side and for what it is behind it, or there is no such variable to store it in.
Where the right side fails, both fail alike.  With plain variables it is enough that the right side
does not assign or update the variable. -/
theorem compound_eq_spelled_iff {op : AssignOp} {operator : BinaryOp}
    (compound : op.binaryOp? = some operator) (name : String) (value : Expr)
    (span span' spanOfOperation spanOfName : Span) :
    (∀ {σ ε : Type} (scope : Scope σ ε) (state : σ),
      (evaluate scope (.assignment span op name value)).run.run state =
          (evaluate scope (.assignment span' .assign name
            (.binary spanOfOperation operator (.identifier spanOfName name) value))).run.run state ↔
        ∀ right after, (evaluate scope value).run.run state = (.ok right, after) →
          let result := operator.apply (scope.valueOf after name) right
          let result' := operator.apply (scope.valueOf state name) right
          result = result' ∨
            (scope.assign? after name result = none ∧ scope.assign? after name result' = none)) ∧
    (name ∉ value.targets → ∀ (callHost : String → HostFunction) (frame : Variables),
      (evaluate (Variables.scope callHost) (.assignment span op name value)).run.run frame =
        (evaluate (Variables.scope callHost) (.assignment span' .assign name
          (.binary spanOfOperation operator (.identifier spanOfName name) value))).run.run
          frame) := by
  constructor
  · intro σ ε scope state
    rw [compound_run compound, spelled_run compound]
    generalize (evaluate scope value).run.run state = run
    obtain ⟨error | right, after⟩ := run
    · exact iff_of_true rfl nofun
    · dsimp only
      rw [storing_eq_iff]
      constructor
      · rintro same _ _ ⟨⟩
        exact same
      · intro same
        exact same right after rfl
  · intro notTarget callHost frame
    have changes := evaluate_changes callHost value frame
    rw [compound_run compound, spelled_run compound]
    generalize (evaluate (Variables.scope callHost) value).run.run frame = run at changes ⊢
    obtain ⟨error | right, after⟩ := run
    · rfl
    · have kept : (Variables.scope callHost).valueOf after name =
          (Variables.scope callHost).valueOf frame name :=
        congrArg (fun found : Option Value => found.getD .undefined) (changes.others name notTarget)
      dsimp only
      rw [kept]

/-- Joining a text to a variable: both forms give the variable with the text behind it. -/
theorem compound_eq_spelled_iff_joined :
    let callHost : String → HostFunction := fun _ _ => .ok .null
    let frame : Variables := { table := [("x", .string "a")] }
    let value : Expr := .string ⟨5, 8⟩ "b"
    let compound : Expr := .assignment ⟨0, 8⟩ .addAssign "x" value
    let spelled : Expr :=
      .assignment ⟨0, 11⟩ .assign "x" (.binary ⟨4, 11⟩ .add (.identifier ⟨4, 5⟩ "x") value)
    AssignOp.addAssign.binaryOp? = some .add ∧ "x" ∉ value.targets ∧
      (evaluate (Variables.scope callHost) compound).run.run frame =
        (evaluate (Variables.scope callHost) spelled).run.run frame ∧
      (evaluate (Variables.scope callHost) spelled).run.run frame =
        (.ok (.string "ab"), { table := [("x", .string "ab")] }) := by
  intro callHost frame value compound spelled
  have notTarget : "x" ∉ value.targets := List.not_mem_nil
  have compounds : AssignOp.addAssign.binaryOp? = some .add := rfl
  have same := (compound_eq_spelled_iff compounds "x" value ⟨0, 8⟩ ⟨0, 11⟩ ⟨4, 11⟩ ⟨4, 5⟩).2
    notTarget callHost frame
  exact ⟨compounds, notTarget, same, rfl⟩

/-- **A right side that assigns the variable is noticed**: where `x` is `'a'`, the value of
`x += (x = 'b')` is `'bb'`, and that of `x = x + (x = 'b')` is `'ab'`. -/
theorem compound_eq_spelled_iff_assigned :
    let scope := Variables.scope fun _ _ => .ok .null
    let frame : Variables := { table := [("x", .string "a")] }
    let value : Expr := .assignment ⟨6, 13⟩ .assign "x" (.string ⟨10, 13⟩ "b")
    let compound : Expr := .assignment ⟨0, 14⟩ .addAssign "x" value
    let spelled : Expr :=
      .assignment ⟨0, 14⟩ .assign "x" (.binary ⟨4, 14⟩ .add (.identifier ⟨4, 5⟩ "x") value)
    (evaluate scope compound).run.run frame =
        (.ok (.string "bb"), { table := [("x", .string "bb")] }) ∧
      (evaluate scope spelled).run.run frame =
        (.ok (.string "ab"), { table := [("x", .string "ab")] }) :=
  ⟨rfl, rfl⟩

end ViewTemplate.Snippet
