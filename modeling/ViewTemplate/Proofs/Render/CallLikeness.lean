import ViewTemplate.Proofs.Render.Compiling
import ViewTemplate.Proofs.Render.ExecutionLikeness

/-!
# Calls and views that correspond to each other

Calls, layouts and whole views do in one render what their record in another one says.

A print block that is called is the one place where the two renders look into their tables,
and a view that is compiled the one where they look at the views that are kept.  Both are
answered by the correspondence; the rest is an induction on the levels of calls
(`Correspondence.recordWithin_alike`) and one on the layouts.

## Main Definitions

* `admission`, `Render.inView`, `Render.inBlock` — the parts of a call
* `Correspondence.ExecutesAlike` — executions that correspond to each other
* `Correspondence.ViewLike` — compiled views that match
-/

namespace ViewTemplate

/-! ## Calls in parts -/

/-- One more call is refused when `maxDepth` others are active. -/
def admission (name : String) (position : Position) : Render Unit := do
  if maxDepth ≤ (← get).depth then throw (.tooDeep name position)

/-- The steps of a view that is rendered in place, with fields of its own. -/
def Render.inView (fields : Table Value) (action : Render Unit) : Render Unit :=
  ExceptT.mk fun state =>
    let inside := action.run.run (state.enterView state.store fields)
    (inside.1, state.leaveView inside.2)

/-- The steps of a print block, called with arguments, and the text that they write. -/
def Render.inBlock (block : BoundBlock) (arguments : List Value) (action : Render Unit) :
    Render Value :=
  ExceptT.mk fun state =>
    let inside := action.run.run (state.enterBlock (argumentFrame block.parameters arguments))
    (inside.1.map fun _ =>
        .string ((inside.2.popFrame.restoreTarget.1.map (·.default)).getD ""),
      inside.2.leaveBlock)

theorem Render.inBlock_run (block : BoundBlock) (arguments : List Value) (action : Render Unit)
    (state : RenderState) :
    (Render.inBlock block arguments action).run.run state =
      let inside := action.run.run (state.enterBlock (argumentFrame block.parameters arguments))
      (inside.1.map fun _ =>
          .string ((inside.2.popFrame.restoreTarget.1.map (·.default)).getD ""),
        inside.2.leaveBlock) := rfl

theorem admission_run (name : String) (position : Position) (state : RenderState) :
    (admission name position).run.run state =
      if maxDepth ≤ state.depth then (.error (.tooDeep name position), state)
      else (.ok (), state) := by
  unfold admission
  rw [run_bind, run_get]
  dsimp only
  split
  · rfl
  · rfl

/-- **A call of a view in parts**: it is admitted, the view is compiled, the context is made, and
the steps are executed in it. -/
theorem callView_eq (environment : Environment) (execute : Executor) (path : String)
    (overrides : Option Value) (position : Position) :
    callView environment execute path overrides position = (do
      admission path position
      let view ← Render.ofCompiling (environment.compileView path)
      let fields ← MonadExcept.ofExcept (overriddenFields (← get).context overrides position)
      Render.inView fields (execute view.serial view.program.steps)) := by
  funext state
  change (callView environment execute path overrides position).run.run state =
    (admission path position >>= _ : Render Unit).run.run state
  rw [callView_run, run_bind, admission_run]
  split
  · rfl
  · dsimp only
    rw [run_bind, Render.ofCompiling_run]
    rcases (environment.compileView path).run.run state.store with ⟨error | view, store⟩
    · rfl
    · dsimp only
      rw [run_bind, run_get]
      dsimp only
      rw [run_bind, run_ofExcept]
      cases overriddenFields state.context overrides position with
      | error error => rfl
      | ok fields => rfl

/-- **A call of a print block in parts**: it is found, it is admitted, and its steps are
executed. -/
theorem callBlock_eq (execute : Executor) (index : Nat) (arguments : List Value) :
    callBlock execute index arguments = (do
      match (← get).blocks[index]? with
      | none => throw (.unboundBlock index)
      | some block =>
        (do admission blockName block.position
            Render.inBlock block arguments (execute block.origin block.body)
          : Render Value).adapt .failed) := by
  funext state
  change (callBlock execute index arguments).run.run state =
    (get >>= _ : Snippet.Eval RenderState RenderError Value).run.run state
  rw [callBlock_run, run_bind, run_get]
  dsimp only
  cases state.blocks[index]? with
  | none => rfl
  | some block =>
    dsimp only
    rw [run_adapt, run_bind, admission_run]
    split
    · rfl
    · change _ = ((Render.inBlock block arguments _).run.run state).map _ id
      rw [Render.inBlock_run]
      dsimp only
      generalize (execute block.origin block.body).run.run _ = run
      rcases run with ⟨error | _, after⟩
      · rfl
      · rfl

namespace Correspondence

variable {left right : Environment} {K : Correspondence left right} {world : K.World}

/-! ## Entering and leaving -/

namespace States

variable {state state' : RenderState}

theorem enterView (states : K.States world state state') {fields fields' : Table Value}
    (contexts : K.FieldsLike world fields fields') :
    K.States world (state.enterView state.store fields)
      (state'.enterView state'.store fields') := by
  obtain ⟨stock, _, _⟩ := states
  exact ⟨stock, .object contexts, .cons .nil .nil⟩

/-- The caller has its context and its variables again, which still match. -/
theorem leaveView (states : K.States world state state') {later : K.World}
    (grown : K.le world later) {after after' : RenderState}
    (ended : K.States later after after') :
    K.States later (state.leaveView after) (state'.leaveView after') := by
  obtain ⟨_, contexts, scopes⟩ := states
  obtain ⟨stock, _, _⟩ := ended
  exact ⟨stock, value_mono grown contexts, scopes.imp fun _ _ => fields_mono grown⟩

theorem enterBlock (states : K.States world state state') {frame frame' : Frame}
    (like : K.FieldsLike world frame frame') :
    K.States world (state.enterBlock frame) (state'.enterBlock frame') := by
  obtain ⟨stock, contexts, scopes⟩ := states
  exact ⟨stock, contexts, .cons like scopes⟩

theorem leaveBlock (states : K.States world state state') :
    K.States world state.leaveBlock state'.leaveBlock := by
  have restored := states.popFrame.restoreTarget.2
  unfold RenderState.leaveBlock
  generalize state.popFrame.restoreTarget.2 = after at restored ⊢
  generalize state'.popFrame.restoreTarget.2 = after' at restored ⊢
  obtain ⟨stock, contexts, scopes⟩ := restored
  exact ⟨stock, contexts, scopes⟩

end States

/-! ## Parts of calls -/

namespace Alike

variable {α β : Type} {related : K.World → α → β → Prop}

/-- A failure that is passed on from a print block. -/
theorem relayed {recorded : Recorded RenderError α} {action : Render β}
    (same : K.Alike world related recorded action) :
    K.Alike world related (.relayed recorded) (action.adapt .failed) := by
  intro state state' states fair
  obtain ⟨later, passes, states', ends⟩ := same state state' states fair
  refine ⟨later, passes, ?_⟩
  rw [run_adapt]
  refine ⟨states', ?_⟩
  change Ends _ _ ((recorded.run state).result.mapError _) _
  generalize (recorded.run state).result = result at ends ⊢
  generalize (action.run.run state').1 = result' at ends ⊢
  cases ends with
  | ok same => exact .ok same
  | error may => exact .error may

/-- The steps of a view, in contexts that match. -/
theorem inView {fields fields' : Table Value} (contexts : K.FieldsLike world fields fields')
    {recorded : Recorded RenderError Unit} {action : Render Unit}
    (same : K.Alike world (fun _ => Eq) recorded action) :
    K.Alike world (fun _ => Eq) (.inView fields recorded) (Render.inView fields' action) := by
  intro state state' states fair
  obtain ⟨later, passes, states', ends⟩ :=
    same _ _ (states.enterView contexts) (fair_inside fair)
  exact ⟨later, passes.inside states.known, states.leaveView passes.grown states', ends⟩

/-- The steps of a print block, with arguments that match. -/
theorem inBlock {block : BoundBlock} {origin : Nat} {arguments arguments' : List Value}
    (given : K.ValuesLike world arguments arguments') {recorded : Recorded RenderError Unit}
    {action : Render Unit} (same : K.Alike world (fun _ => Eq) recorded action) :
    K.Alike world K.ValueLike (.inBlock block arguments recorded)
      (Render.inBlock { block with origin } arguments' action) := by
  intro state state' states fair
  have entered := states.enterBlock (argumentFrame_like block.parameters given)
  have known : K.Known world (Event.entered block arguments state).blocks :=
    known_append (values_known given) states.known
  obtain ⟨later, passes, states', ends⟩ :=
    same _ _ entered fun moment mem => fair moment (List.mem_cons_of_mem _ mem)
  rw [Render.inBlock_run]
  unfold Recorded.inBlock
  dsimp only
  generalize recorded.run _ = recording at passes states' ends ⊢
  generalize action.run.run _ = run at states' ends ⊢
  obtain ⟨result, after, moments⟩ := recording
  obtain ⟨result', after'⟩ := run
  have text := states'.popFrame.restoreTarget.1
  refine ⟨later, .cons (K.le_refl world) (entered.sees known nofun) passes, states'.leaveBlock, ?_⟩
  cases ends with
  | error may => exact .error may
  | ok _ =>
    dsimp only at text ⊢
    rw [text]
    exact .ok (.string _)

/-- One more call is refused in both renders, or in none. -/
theorem admission (name : String) (position : Position) :
    K.Alike world (fun _ => Eq) (recordAdmission name position)
      (ViewTemplate.admission name position) := by
  refine .get_bind fun state state' states => ?_
  rw [states.depth]
  split
  · exact .fail False.elim
  · exact .pure rfl

/-- Changes of states that match, with results that match. -/
theorem modifyGet {ε : Type} [Reports ε] {change : RenderState → α × RenderState}
    {change' : RenderState → β × RenderState}
    (kept : ∀ {state state'}, K.States world state state' →
      related world (change state).1 (change' state').1 ∧
        K.States world (change state).2 (change' state').2) :
    K.Alike world related (modifyGet change : Recorded ε α) (modifyGet change') :=
  silent fun _ _ states => ⟨world, K.le_refl world, (kept states).2, .ok (kept states).1⟩

end Alike

/-- **Compiled views that match**: the same program, from compilations that match. -/
abbrev ViewLike (K : Correspondence left right) (world : K.World) (view view' : CompiledView) :
    Prop :=
  K.origins world view.serial view'.serial ∧ view.program = view'.program

/-- A path leads to views that match. -/
theorem compileView_alike (path : String) :
    K.Alike world K.ViewLike (.silent (Render.ofCompiling (left.compileView path)))
      (Render.ofCompiling (right.compileView path)) := by
  refine .silent fun state state' states => ?_
  obtain ⟨later, grown, ends, stock⟩ := K.compile path states.stock
  refine ⟨later, grown, ?_⟩
  rw [Render.ofCompiling_run, Render.ofCompiling_run]
  change Ends _ _ ((left.compileView path).run.run state.store).1
    ((right.compileView path).run.run state'.store).1 at ends
  change K.stocks later ⟨((left.compileView path).run.run state.store).2, state.blocks⟩
    ⟨((right.compileView path).run.run state'.store).2, state'.blocks⟩ at stock
  generalize (left.compileView path).run.run state.store = run at ends stock ⊢
  generalize (right.compileView path).run.run state'.store = run' at ends stock ⊢
  obtain ⟨result, store⟩ := run
  obtain ⟨result', store'⟩ := run'
  cases ends with
  | ok same => exact ⟨states.restock grown stock, .ok same⟩
  | error _ => exact ⟨states.restock grown stock, .error False.elim⟩

/-! ## Calls -/

/-- **Executions that correspond to each other**, of the steps of programs whose compilations
match. -/
def ExecutesAlike (K : Correspondence left right) (record : Recorder) (execute : Executor) : Prop :=
  ∀ (world : K.World) {origin origin' : Nat} (steps : List Step),
    K.origins world origin origin' →
      K.Alike world (fun _ => Eq) (record origin steps) (execute origin' steps)

section

variable {record : Recorder} {execute : Executor}

theorem recordCallView_alike (same : K.ExecutesAlike record execute) (path : String)
    {overrides overrides' : Option Value} (position : Position)
    (like : Option.Rel (K.ValueLike world) overrides overrides') :
    K.Alike world (fun _ => Eq) (recordCallView left record path overrides position)
      (callView right execute path overrides' position) := by
  rw [callView_eq]
  refine .bind (.admission path position) fun first grown _ _ _ => ?_
  refine .bind (compileView_alike path) fun second grown' view view' matching => ?_
  refine .get_bind fun state state' states => ?_
  have like : Option.Rel (K.ValueLike second) overrides overrides' := by
    cases like with
    | none => exact .none
    | some like => exact .some (value_mono (K.le_trans grown grown') like)
  have fields : K.Alike second K.FieldsLike
      (.ofExcept (overriddenFields state.context overrides position))
      (MonadExcept.ofExcept (overriddenFields state'.context overrides' position)) :=
    .ofExcept (overriddenFields_like position states.context like)
  refine .bind fields fun third grown'' fields fields' like => ?_
  rw [matching.2]
  exact .inView like (same third _ (K.origins_mono grown'' matching.1))

/-- A print block that is called is found in both tables, or in none. -/
theorem recordCallBlock_alike (same : K.ExecutesAlike record execute) :
    K.BlocksAlike (recordCallBlock record) (callBlock execute) := by
  intro world index index' arguments arguments' places given
  rw [callBlock_eq]
  refine .get_bind fun state state' states => ?_
  -- The one place where blocks are looked up: matching places hold copies of one block.
  rcases K.find states.stock places with
    ⟨block, origin', found, origins, found'⟩ | ⟨lacking, equal, missing, missing'⟩
  · change state.blocks[index]? = some block at found
    change state'.blocks[index']? = some { block with origin := origin' } at found'
    rw [found, found']
    refine .relayed (.bind (.admission blockName block.position) fun later grown _ _ _ => ?_)
    exact .inBlock (values_mono grown given) (same later _ (K.origins_mono grown origins))
  · change state.blocks[index]? = none at missing
    change state'.blocks[index']? = none at missing'
    have may : K.Permits (.unboundBlock index : Fail) := fun _ => lacking
    rw [missing, missing', equal]
    exact .note_bind_of_known (List.forall_mem_nil _) (fun _ _ => lacking) (.fail may)

theorem callsBy_alike (same : K.ExecutesAlike record execute) :
    K.CallsAlike (recordCallsBy left record) (callsBy right execute) where
  block := recordCallBlock_alike same
  view path _ _ position like := recordCallView_alike same path position like

end

/-- **Executions do the same**, by induction on how deep their calls may be. -/
theorem recordWithin_alike (levels : Nat) :
    K.ExecutesAlike (recordWithin left levels) (executeWithin right levels) := by
  induction levels with
  | zero =>
    intro world _ _ _ _
    show K.Alike world _ (pure () : Recorded RenderError Unit) (pure () : Render Unit)
    exact .pure rfl
  | succ levels ih =>
    intro world origin origin' steps origins
    exact steps_alike (fun step _ world => recordStep_alike (callsBy_alike ih) step world) world
      origins

/-- Executions in two renders. -/
theorem record_alike : K.ExecutesAlike left.record right.execute :=
  recordWithin_alike (maxDepth + 1)

/-- Calls in two renders. -/
theorem recordedCalls_alike : K.CallsAlike left.recordedCalls right.calls :=
  callsBy_alike (recordWithin_alike maxDepth)

/-! ## Layouts and views -/

/-- The same layouts are applied, by induction on how many more there may be. -/
theorem recordLayouts_alike (budget : Nat) (world : K.World) :
    K.Alike world (fun _ => Eq) (left.recordLayouts budget) (right.applyLayouts budget) := by
  induction budget generalizing world with
  | zero => exact .fail False.elim
  | succ budget ih =>
    have pending : K.Alike world (fun _ => Eq)
        (modifyGet fun state => (state.pendingLayout, { state with pendingLayout := none }) :
          Recorded RenderError (Option String))
        (modifyGet fun state => (state.pendingLayout, { state with pendingLayout := none })) := by
      refine .modifyGet ?_
      rintro _ _ ⟨stock, contexts, scopes⟩
      exact ⟨rfl, stock, contexts, scopes⟩
    refine .bind pending fun first _ path _ equal => ?_
    subst equal
    cases path with
    | none => exact .pure rfl
    | some path =>
      have key : K.Alike first (fun _ => Eq)
          (.ofExcept ((left.source.resolve path).mapError RenderError.view))
          (MonadExcept.ofExcept ((right.source.resolve path).mapError RenderError.view)) := by
        refine .ofExcept ?_
        rw [K.source]
        cases right.source.resolve path with
        | ok key => exact .ok rfl
        | error error => exact .error False.elim
      refine .bind key fun second _ key _ equal => ?_
      subst equal
      refine .get_bind fun state state' states => ?_
      have applied : state.layouts = state'.layouts := by
        cases states
        rfl
      rw [applied]
      dsimp only
      split
      · exact .fail False.elim
      · refine .bind (compileView_alike path) fun third _ view view' matching => ?_
        have started : K.Alike third (fun _ => Eq)
            (modify fun state => { state with
              layouts := state'.layouts ++ [key], target := state.target.startLayout,
              frames := [[]] } : Recorded RenderError Unit)
            (modify fun state => { state with
              layouts := state'.layouts ++ [key], target := state.target.startLayout,
              frames := [[]] }) := by
          refine .modify ?_
          rintro _ _ ⟨stock, contexts, scopes⟩
          exact ⟨stock, contexts, .cons .nil .nil⟩
        refine .bind started fun fourth grown _ _ _ => ?_
        rw [matching.2]
        exact .bind (record_alike fourth _ (K.origins_mono grown matching.1))
          fun last _ _ _ _ => ih last

/-- **Views and their layouts do the same.** -/
theorem recordView_alike {view view' : CompiledView} (matching : K.ViewLike world view view') :
    K.Alike world (fun _ => Eq) (left.recordView view) (right.renderView view') := by
  have rest : ∀ later, K.le world later → K.Alike later (fun _ => Eq)
      (do left.record view.serial view.program.steps
          left.recordLayouts (left.source.viewCount + 1))
      (do right.execute view'.serial view'.program.steps
          right.renderLayouts) := by
    intro later grown
    rw [matching.2, K.source]
    exact .bind (record_alike later _ (K.origins_mono grown matching.1)) fun last _ _ _ _ =>
      recordLayouts_alike _ last
  unfold Environment.recordView Environment.renderView
  rw [K.defaultLayout]
  cases right.options.defaultLayout with
  | none => exact rest world (K.le_refl world)
  | some path =>
    exact .bind (.modify fun states => states.setLayout path) fun later grown _ _ _ =>
      rest later grown

/-- **Views without layouts do the same.** -/
theorem recordPart_alike {view view' : CompiledView} (matching : K.ViewLike world view view') :
    K.Alike world (fun _ => Eq) (left.recordPart view) (right.renderPart view') := by
  refine .inPart ?_
  rw [matching.2]
  exact record_alike world _ matching.1

end Correspondence

end ViewTemplate
