import ViewTemplate.Proofs.Render.Declarations

/-!
# The names of variables

Which names an execution can bring into the frames that it finds, and into the context.

Only a declaration brings in a name, and it does so in the innermost frame of the place
where it stands.  Every body is executed in a frame of its own, which is gone when it
ends; so what is declared inside stays inside, however the body ends, and a list of
steps adds no names but those that are declared by its own steps
(`executeSteps_naming`).  Loop variables and parameters stand in frames of bodies, and a
called view has other frames altogether.

An assignment changes the value of a name and leaves its place alone, in frames and
context alike.  So the effect of everything else than declarations is the one with no
names at all, and the names that are allowed are the only thing that changes from one
list of steps to another.

## Main Definitions

* `Step.declaredNames` — the names that are declared by the steps of a list themselves
* `Value.SameFields` — an object with other values, or the same value
* `RenderState.KeepsNames` — frames and context have their names and gain no others
-/

namespace ViewTemplate

variable {environment : Environment} {calls : Calls}

/-! ## Declared names -/

/-- The name that a statement declares. -/
def Snippet.Statement.declared? : Snippet.Statement → Option String
  | .declaration name _ => some name
  | .expression _ => none

/-- The name that a step declares, if it is a declaration. -/
def Step.declared? (step : Step) : Option String :=
  step.action?.bind (·.body.declared?)

/-- **The names that are declared by the steps of a list themselves**, not by steps inside
them. -/
def Step.declaredNames (steps : List Step) : List String :=
  steps.filterMap Step.declared?

/-! ## The relation -/

/-- **The same fields**, each perhaps with another value; what is no object is the same. -/
def Value.SameFields : Value → Value → Prop
  | .object fields, after => ∃ fields', after = .object fields' ∧
      Table.names fields' = Table.names fields
  | value, after => after = value

theorem Value.SameFields.refl (value : Value) : value.SameFields value := by
  cases value with
  | object fields => exact ⟨fields, rfl, rfl⟩
  | _ => rfl

theorem Value.SameFields.trans {first second third : Value} (h : first.SameFields second)
    (h' : second.SameFields third) : first.SameFields third := by
  cases first with
  | object fields =>
    obtain ⟨_, rfl, same⟩ := h
    obtain ⟨_, rfl, same'⟩ := h'
    exact ⟨_, rfl, same'.trans same⟩
  | _ =>
    cases h
    exact h'

/-- **Frames and context have their names, in order.**  Only the innermost frame may have
more of them behind, which are among the allowed ones. -/
structure RenderState.KeepsNames (allowed : List String) (before after : RenderState) :
    Prop where
  frames : ∃ gained, gained ⊆ allowed ∧ after.frames.map Table.names =
    (before.frames.map Table.names).modifyHead (· ++ gained)
  context : before.context.SameFields after.context

namespace RenderState.KeepsNames

variable {allowed more : List String} {first second third : RenderState}

/-- A change of neither frames nor context. -/
theorem of_eq (frames : second.frames = first.frames) (context : second.context = first.context) :
    first.KeepsNames allowed second where
  frames := ⟨[], List.nil_subset _, by rw [frames]; cases first.frames <;> simp⟩
  context := context ▸ .refl _

theorem refl (state : RenderState) : state.KeepsNames allowed state :=
  of_eq rfl rfl

theorem trans (h : first.KeepsNames allowed second) (h' : second.KeepsNames allowed third) :
    first.KeepsNames allowed third where
  frames := by
    obtain ⟨gained, among, same⟩ := h.frames
    obtain ⟨later, among', same'⟩ := h'.frames
    refine ⟨gained ++ later, List.append_subset.mpr ⟨among, among'⟩, ?_⟩
    rw [same', same]
    cases first.frames with
    | nil => rfl
    | cons inner outer => simp
  context := h.context.trans h'.context

theorem mono (h : first.KeepsNames allowed second) (wider : allowed ⊆ more) :
    first.KeepsNames more second where
  frames := by
    obtain ⟨gained, among, same⟩ := h.frames
    exact ⟨gained, List.Subset.trans among wider, same⟩
  context := h.context

end RenderState.KeepsNames

/-- Keeping names as an effect: it does not depend on the exit. -/
def naming (allowed : List String) : Effect RenderState where
  returns := RenderState.KeepsNames allowed
  throws := RenderState.KeepsNames allowed
  returns_refl := .refl
  returns_trans := .trans
  throws_refl := .refl
  throws_after := .trans

/-- What an action that keeps names leaves behind, whatever its result is. -/
theorem naming_bounds_iff {ε α : Type} {allowed : List String}
    {action : ExceptT ε (StateM RenderState) α} :
    (naming allowed).Bounds action ↔
      ∀ state : RenderState, state.KeepsNames allowed (action.run.run state).2 := by
  refine forall_congr' fun state => ?_
  generalize action.run.run state = result
  rcases result with ⟨error | value, after⟩
  · exact Iff.rfl
  · exact Iff.rfl

/-- What allows fewer names allows more. -/
theorem Effect.Bounds.allowing {ε α : Type} {allowed more : List String}
    {action : ExceptT ε (StateM RenderState) α} (h : (naming allowed).Bounds action)
    (wider : allowed ⊆ more) : (naming more).Bounds action :=
  h.mono (·.mono wider) (·.mono wider)

/-! ## Operations of the state -/

theorem RenderState.assignFrames?_names {frames after : List Frame} {name : String}
    {value : Value} (h : assignFrames? frames name value = some after) :
    after.map Table.names = frames.map Table.names := by
  induction frames generalizing after with
  | nil => cases h
  | cons frame rest ih =>
    rw [assignFrames?] at h
    cases updated : frame.update? name value with
    | some frame' =>
      rw [updated] at h
      cases h
      rw [List.map_cons, List.map_cons, Table.names_update? updated]
    | none =>
      rw [updated] at h
      obtain ⟨others, found, rfl⟩ := Option.map_eq_some_iff.mp h
      rw [List.map_cons, List.map_cons, ih found]

/-- A field that is assigned is one of an object. -/
theorem Value.sameFields_of_update? {context : Value} {fields : Table Value} {name : String}
    {value : Value}
    (h : (RenderState.contextFields context).update? name value = some fields) :
    context.SameFields (.object fields) := by
  cases context with
  | object old => exact ⟨fields, rfl, Table.names_update? h⟩
  | _ => cases h

/-- An assignment brings in no name. -/
theorem RenderState.assign?_keepsNames {allowed : List String} {state after : RenderState}
    {name : String} {value : Value} (h : state.assign? name value = some after) :
    state.KeepsNames allowed after := by
  unfold assign? at h
  cases found : assignFrames? state.frames name value with
  | some frames =>
    rw [found] at h
    cases h
    refine ⟨⟨[], List.nil_subset _, ?_⟩, .refl _⟩
    rw [assignFrames?_names found]
    cases state.frames with
    | nil => rfl
    | cons inner outer => simp
  | none =>
    rw [found] at h
    obtain ⟨fields, updated, rfl⟩ := Option.map_eq_some_iff.mp h
    exact { KeepsNames.refl state with context := Value.sameFields_of_update? updated }

/-- A declaration brings in its name at most. -/
theorem RenderState.declare_keepsNames {allowed : List String} (state : RenderState)
    {name : String} (known : name ∈ allowed) (value : Value) :
    state.KeepsNames allowed (state.declare name value) := by
  rw [state.declare_eq]
  refine ⟨?_, .refl _⟩
  unfold declare
  cases frames : state.frames with
  | nil => exact ⟨[], List.nil_subset _, by rw [frames]; rfl⟩
  | cons inner outer =>
    dsimp only
    rw [List.map_cons, Table.names_set]
    split
    · exact ⟨[], List.nil_subset _, by simp⟩
    · exact ⟨[name], by simpa using known, by simp⟩

/-- **What a body declares is gone with its frame.** -/
theorem RenderState.popFrame_keepsNames {allowed : List String} {state after : RenderState}
    (frame : Frame) (h : (state.pushFrame frame).KeepsNames allowed after) :
    state.KeepsNames [] after.popFrame where
  frames := by
    obtain ⟨gained, -, same⟩ := h.frames
    refine ⟨[], List.Subset.refl _, ?_⟩
    rw [popFrame, List.map_tail, same]
    change state.frames.map Table.names = _
    cases state.frames with
    | nil => rfl
    | cons inner outer => simp
  context := h.context

/-- What is done in a frame of its own brings no name to the frames around it. -/
theorem inFrame_naming {α : Type} {allowed : List String} {action : Render α}
    (h : (naming allowed).Bounds action) (frame : Frame) :
    (naming []).Bounds (Render.inFrame frame action) := by
  rw [naming_bounds_iff] at h ⊢
  intro state
  rw [Render.inFrame_run]
  exact RenderState.popFrame_keepsNames frame (h (state.pushFrame frame))

/-! ## Calls -/

/-- The call of a view brings in no name, since it leaves frames and context as they were. -/
theorem callView_naming {execute : Executor}
    (steps : ∀ origin steps, restoring.Bounds (execute origin steps))
    (path : String) (overrides : Option Value) (position : Position) :
    (naming []).Bounds (callView environment execute path overrides position) := by
  rw [naming_bounds_iff]
  intro state
  have restored : state.CallerRestored
      ((callView environment execute path overrides position).run.run state).2 :=
    callView_restored steps path overrides position state
  exact .of_eq restored.allFrames restored.context

/-- The call of a print block brings in no name, whatever its steps declare in its frame. -/
theorem callBlock_naming {execute : Executor}
    (steps : ∀ origin steps, (naming (Step.declaredNames steps)).Bounds (execute origin steps))
    (index : Nat) (arguments : List Value) :
    (naming []).Bounds (callBlock execute index arguments) := by
  rw [naming_bounds_iff]
  intro state
  rw [callBlock_run]
  cases state.blocks[index]? with
  | none => exact .refl state
  | some block =>
    dsimp only
    split
    · exact .refl state
    · have inside := RenderState.popFrame_keepsNames _
        (naming_bounds_iff.mp (steps block.origin block.body)
          (state.enterBlock (argumentFrame block.parameters arguments)))
      have left (after : RenderState) (kept : state.KeepsNames [] after.popFrame) :
          state.KeepsNames [] after.leaveBlock := by
        rw [RenderState.leaveBlock, RenderState.restoreTarget_eq]
        exact ⟨kept.frames, kept.context⟩
      generalize (execute block.origin block.body).run.run _ = result at inside ⊢
      rcases result with ⟨error | _, after⟩
      · exact left after ⟨inside.frames, inside.context⟩
      · exact left after ⟨inside.frames, inside.context⟩

/-! ## Steps -/

/-- **The calls of a render bring in no names.** -/
structure Calls.NameFree (calls : Calls) : Prop where
  view : ∀ path overrides position, (naming []).Bounds (calls.view path overrides position)
  block : ∀ index arguments, (naming []).Bounds (calls.block index arguments)

theorem Calls.NameFree.scope (free : calls.NameFree) :
    (renderScope environment calls).Keeps (naming []) :=
  ⟨RenderState.assign?_keepsNames, free.block⟩

/-- A statement brings in the name that it declares. -/
theorem runAction_naming (free : calls.NameFree) (action : Action) :
    (naming action.body.declared?.toList).Bounds (runAction environment calls action) := by
  refine .adapt _ ?_
  cases declared : action.body with
  | expression expression =>
    exact Snippet.evaluate_bounds free.scope expression
  | declaration name init =>
    have bound (value : Value) : (naming [name]).Bounds
        (do modify ((renderScope environment calls).declare · name value); return .undefined :
          Snippet.Eval RenderState RenderError Value) :=
      .bind (.modify fun state => state.declare_keepsNames List.mem_cons_self value)
        fun _ => .pure _
    cases init with
    | none => exact .bind (.pure _) bound
    | some expression =>
      exact .bind ((Snippet.evaluate_bounds free.scope expression).allowing
        (List.nil_subset _)) bound

/-- **A step brings in the name that it declares**, and nothing that is declared in its
bodies. -/
theorem executeStep_naming (free : calls.NameFree) {origin : Nat} (step : Step)
    (bodies : ∀ body ∈ step.bodies,
      (naming (Step.declaredNames body)).Bounds (executeSteps environment calls origin body)) :
    (naming step.declared?.toList).Bounds (executeStep environment calls origin step) := by
  have evaluated (expression : Expression) :
      (naming []).Bounds (evaluateExpression environment calls expression) :=
    evaluateExpression_bounds free.scope expression
  refine StepKeeps.bounds
    { write := fun state text => .of_eq rfl rfl
      evaluate := fun expression => (evaluated expression).allowing (List.nil_subset _)
      print := fun frame expression =>
        (inFrame_naming (evaluated expression) frame).allowing (List.nil_subset _)
      run := fun action runs => ?_
      view := fun path overrides position =>
        (free.view path overrides position).allowing (List.nil_subset _)
      bodies := fun body direct frame =>
        (inFrame_naming (bodies body direct) frame).allowing (List.nil_subset _)
      own := ?_ }
  · rw [Step.declared?, Option.mem_def.mp runs]
    exact runAction_naming free action
  · cases step with
    | saveTarget => exact fun state => .of_eq rfl rfl
    | mergeTarget slot =>
      intro state
      rw [state.mergeTarget_eq]
      exact .of_eq rfl rfl
    | printBlock expression parameters body =>
      intro state
      unfold RenderState.bindBlock
      split
      · exact .refl state
      · exact .of_eq rfl rfl
    | setLayout path => exact fun state _ => .of_eq rfl rfl
    | _ => trivial

/-- **Steps bring in the names that they declare themselves**, by induction on how steps
are nested: along a list the names add up, and at a body they start anew. -/
theorem executeSteps_naming (free : calls.NameFree) (origin : Nat) (steps : List Step) :
    (naming (Step.declaredNames steps)).Bounds (executeSteps environment calls origin steps) := by
  refine @Step.listInduction (fun _ => True)
    (fun step => (naming step.declared?.toList).Bounds (executeStep environment calls origin step))
    (fun steps =>
      (naming (Step.declaredNames steps)).Bounds (executeSteps environment calls origin steps))
    (.pure _) (fun step rest first others => ?_)
    (fun step _ bodies => executeStep_naming free step bodies) steps fun _ _ => trivial
  have split : Step.declaredNames (step :: rest) =
      step.declared?.toList ++ Step.declaredNames rest := by
    rw [Step.declaredNames, List.filterMap_cons]
    cases step.declared? with
    | none => rfl
    | some name => rfl
  rw [executeSteps_cons, split]
  exact .bind (first.allowing (List.subset_append_left _ _)) fun _ =>
    others.allowing (List.subset_append_right _ _)

/-- **Executions bring in the names that their steps declare themselves**, by induction on
the levels below. -/
theorem executeWithin_naming (environment : Environment) (levels origin : Nat)
    (steps : List Step) :
    (naming (Step.declaredNames steps)).Bounds
      (executeWithin environment levels origin steps) := by
  induction levels generalizing origin steps with
  | zero => exact .pure _
  | succ levels ih =>
    refine executeSteps_naming ⟨?_, callBlock_naming ih⟩ origin steps
    exact callView_naming (executeWithin_restoring environment levels)

/-! ## The whole execution -/

/-- **Executions declare in place.**  Whatever the steps, and on either exit, every frame
around the innermost one has the names that it had, in order; the innermost one has its
names, in order, and behind them only such as the steps of the list declare themselves; and
the context has the fields that it had, if it has any, and is the same if it has none. -/
theorem execute_keeps_names (environment : Environment) (origin : Nat) (steps : List Step)
    (state : RenderState) (inner : Frame) (outer : List Frame)
    (frames : state.frames = inner :: outer) :
    let after := ((environment.execute origin steps).run.run state).2
    (∃ (inner' : Frame) (outer' : List Frame) (gained : List String),
      after.frames = inner' :: outer' ∧
        outer'.map Table.names = outer.map Table.names ∧
        inner'.names = inner.names ++ gained ∧
        ∀ name ∈ gained, name ∈ Step.declaredNames steps) ∧
      state.context.SameFields after.context := by
  have kept := naming_bounds_iff.mp
    (executeWithin_naming environment (maxDepth + 1) origin steps) state
  refine ⟨?_, kept.context⟩
  obtain ⟨gained, among, same⟩ := kept.frames
  rw [frames, List.map_cons, List.modifyHead_cons] at same
  obtain ⟨inner', outer', split, innerNames, outerNames⟩ := List.map_eq_cons_iff.mp same
  exact ⟨inner', outer', gained, split, outerNames, innerNames, fun name mem => among mem⟩

/-- A view that declares a variable and assigns two, of which one is declared in a scope of
its own: the innermost frame gains the first name only. -/
theorem execute_keeps_names_nested :
    let source := "{% let x = a %}<js>{% let y = x %}{% b = y %}</js>"
    let environment : Environment :=
      { options := {}, source := .memory [], functions := fun _ _ => .ok .null }
    let state : RenderState :=
      { RenderState.start .undefined {} with frames := [[("a", .null)], [("b", .null)]] }
    ∃ program, environment.compileSource "page" source = .ok program ∧
      Step.declaredNames program.steps = ["x"] ∧
      let after := ((environment.execute 0 program.steps).run.run state).2
      ∃ (inner : Frame) (outer : List Frame) (gained : List String),
        after.frames = inner :: outer ∧ outer.map Table.names = [["b"]] ∧
          inner.names = "a" :: gained ∧ ∀ name ∈ gained, name ∈ ["x"] := by
  intro source environment state
  have declared : (environment.compileSource "page" source).toOption.map
      (fun program => Step.declaredNames program.steps) = some ["x"] := by
    decide +kernel
  cases compiled : environment.compileSource "page" source with
  | error error =>
    rw [compiled] at declared
    cases declared
  | ok program =>
    rw [compiled] at declared
    have names : Step.declaredNames program.steps = ["x"] := Option.some.inj declared
    refine ⟨program, rfl, names, ?_⟩
    rw [← names]
    exact (execute_keeps_names environment 0 program.steps state [("a", .null)]
      [[("b", .null)]] rfl).1

end ViewTemplate
