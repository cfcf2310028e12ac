import ViewTemplate.Proofs.Render.Declarations
import ViewTemplate.Proofs.Render.StepCoupling

/-!
# Renders under watch

The counter of a render is a number; the calls that are active are a list, which the
nesting of executions gives.  That the one counts the other is said by executing under
watch.

An execution under watch knows the names of the active calls, since it is told them by
the call that it belongs to.  Before and behind every step, however deep it stands, every
call and every body it compares the counter with the length of that list, and fails with
an alarm if they differ.  And it does not ask the counter whether a call may be made: a
call is refused if the list says so, and let in otherwise.

An execution under watch does what the same execution does without
(`watchedWithin_couples`).  So no comparison ever fails, and the counter refuses the calls
that the list refuses.

## Main Definitions

* `RenderState.Tallies` — the counter of a state is the number of active calls
* `watched` — an action under watch
* `watchedCalls`, `watchedStep`, `watchedWithin` — calls, steps and executions under watch
* `tallying` — equal states whose counter is the number of active calls
-/

namespace ViewTemplate

variable {ε α : Type}

/-! ## Watching -/

/-- **The counter is the number of active calls**, of which there are not too many.  The
calls are given by their names, the innermost first. -/
def RenderState.Tallies (active : List String) (state : RenderState) : Prop :=
  state.depth = active.length ∧ active.length ≤ maxDepth

instance (active : List String) (state : RenderState) : Decidable (state.Tallies active) :=
  inferInstanceAs (Decidable (_ ∧ _))

/-- An action under watch: the counter is compared before the action and behind it,
whether or not the action failed. -/
def watched (alarm : ε) (active : List String) (action : ExceptT ε (StateM RenderState) α) :
    ExceptT ε (StateM RenderState) α :=
  ExceptT.mk fun state =>
    if state.Tallies active then
      let ended := action.run.run state
      if ended.2.Tallies active then ended else (.error alarm, ended.2)
    else (.error alarm, state)

/-- What the call of a view does when it is let in, without a look at the counter. -/
def admitView (environment : Environment) (execute : Executor) (path : String)
    (overrides : Option Value) (position : Position) : Render Unit :=
  ExceptT.mk fun state =>
    match (environment.compileView path).run.run state.store with
    | (.error error, store) => (.error (.view error), { state with store })
    | (.ok view, store) =>
      match overriddenFields state.context overrides position with
      | .error error => (.error error, { state with store })
      | .ok fields =>
        let (result, after) := (execute view.serial view.program.steps).run.run
          (state.enterView store fields)
        (result, state.leaveView after)

/-- What the call of a print block does when it is let in. -/
def admitBlock (execute : Executor) (block : BoundBlock) (arguments : List Value) :
    Snippet.Eval RenderState RenderError Value :=
  ExceptT.mk fun state =>
    let (result, after) := (execute block.origin block.body).run.run
      (state.enterBlock (argumentFrame block.parameters arguments))
    match result with
    | .error error => (.error (.failed error), after.leaveBlock)
    | .ok _ =>
      (.ok (.string ((after.popFrame.restoreTarget.1.map (·.default)).getD "")),
        after.leaveBlock)

theorem admitBlock_run (execute : Executor) (block : BoundBlock) (arguments : List Value)
    (state : RenderState) :
    (admitBlock execute block arguments).run.run state =
      let (result, after) := (execute block.origin block.body).run.run
        (state.enterBlock (argumentFrame block.parameters arguments))
      match result with
      | .error error => (.error (.failed error), after.leaveBlock)
      | .ok _ =>
        (.ok (.string ((after.popFrame.restoreTarget.1.map (·.default)).getD "")),
          after.leaveBlock) := rfl

/-- **Calls under watch.**  A call is refused, by its name, exactly when `maxDepth` others
are active; inside a call that is let in, one more is. -/
def watchedCalls (environment : Environment) (alarm : RenderError) (active : List String)
    (execute : (active : List String) → Executor) : Calls where
  view path overrides position :=
    watched alarm active <|
      if active.length = maxDepth then throw (.tooDeep path position)
      else admitView environment (execute (path :: active)) path overrides position
  block index arguments :=
    watched (.failed alarm) active do
      match (← get).blocks[index]? with
      | none => throw (.unboundBlock index)
      | some block =>
        if active.length = maxDepth then throw (.failed (.tooDeep blockName block.position))
        else admitBlock (execute (blockName :: active)) block arguments

section

variable (environment : Environment) (calls : Calls) (alarm : RenderError) (active : List String)

/-- **A step under watch**, and all steps inside it: those that hold others are executed
with the others under watch. -/
def watchedStep (origin : Nat) : Step → Render Unit
  | .block body => watched alarm active (Render.inFrame [] (watchedSteps origin body))
  | .branch condition consequent alternate => watched alarm active do
    if (← evaluateExpression environment calls condition).isTruthy then
      Render.inFrame [] (watchedSteps origin consequent)
    else
      watchedOptional origin alternate
  | .switch expression cases fallback => watched alarm active do
    let value ← evaluateExpression environment calls expression
    watchedCases origin value (watchedOptional origin fallback) cases
  | .foreach identifiers collection body empty => watched alarm active do
    let value ← evaluateExpression environment calls collection
    let items ← MonadExcept.ofExcept (collectionAt collection.position value)
    if items.isEmpty then
      watchedOptional origin empty
    else
      let run := watchedSteps origin body
      Render.forEach (fun values => Render.inFrame (itemFrame identifiers values) run) items
  | .loop condition body => watched alarm active <|
    Render.repeatWhile condition.position
      (return (← evaluateExpression environment calls condition).isTruthy)
      (Render.inFrame [] (watchedSteps origin body))
      environment.turns
  | step => watched alarm active (executeStep environment calls origin step)
where
  /-- Steps under watch, in order. -/
  watchedSteps (origin : Nat) : List Step → Render Unit
    | [] => return ()
    | step :: rest => do
      watchedStep origin step
      watchedSteps origin rest
  /-- Steps under watch with variables of their own, if there are any. -/
  watchedOptional (origin : Nat) : Option (List Step) → Render Unit
    | none => return ()
    | some body => Render.inFrame [] (watchedSteps origin body)
  /-- The first case whose value equals `value` under watch, or else the fallback. -/
  watchedCases (origin : Nat) (value : Value) (fallback : Render Unit) :
      List (Expression × List Step) → Render Unit
    | [] => fallback
    | (expression, body) :: rest => do
      if (← evaluateExpression environment calls expression).strictEquals value then
        Render.inFrame [] (watchedSteps origin body)
      else
        watchedCases origin value fallback rest

end

/-- **An execution under watch** inside active calls, on the same levels as without.  The
lowest level raises the alarm. -/
def watchedWithin (environment : Environment) (alarm : RenderError) :
    (levels : Nat) → (active : List String) → Executor
  | 0, _ => fun _ _ => throw alarm
  | levels + 1, active => fun origin steps =>
    watched alarm active <|
      watchedStep.watchedSteps environment
        (watchedCalls environment alarm active (watchedWithin environment alarm levels))
        alarm active origin steps

/-! ## Under watch and not -/

/-- Equal states whose counter is the number of active calls, on both exits. -/
def tallying (active : List String) : Coupling RenderState where
  returns state other := state = other ∧ state.Tallies active
  throws state other := state = other ∧ state.Tallies active
  throws_of_returns h := h

/-- An action that leaves the counter right does the same under watch. -/
theorem Coupling.Couples.watched {active : List String}
    {action action' : ExceptT ε (StateM RenderState) α} (alarm : ε)
    (h : (tallying active).Couples action action') :
    (tallying active).Couples (watched alarm active action) action' := by
  rintro state _ ⟨rfl, tallies⟩
  have agree := h state state ⟨rfl, tallies⟩
  change (tallying active).Agrees
    (if state.Tallies active then
      if (action.run.run state).2.Tallies active then action.run.run state
      else (.error alarm, (action.run.run state).2)
    else (.error alarm, state)) _
  rw [if_pos tallies]
  generalize action.run.run state = result at agree ⊢
  generalize action'.run.run state = result' at agree ⊢
  rcases result with ⟨error | value, after⟩ <;> rcases result' with ⟨error' | value', after'⟩
  · obtain ⟨rfl, rfl, tallies'⟩ := agree
    rw [if_pos tallies']
    exact ⟨rfl, rfl, tallies'⟩
  · exact agree.elim
  · exact agree.elim
  · obtain ⟨rfl, rfl, tallies'⟩ := agree
    rw [if_pos tallies']
    exact ⟨rfl, rfl, tallies'⟩

section

variable {environment : Environment} {active : List String}

/-- A change that does not touch the counter leaves it right. -/
theorem RenderState.Tallies.of_eq {before after : RenderState} (tallies : before.Tallies active)
    (same : after.depth = before.depth) : after.Tallies active :=
  ⟨same.trans tallies.1, tallies.2⟩

/-- No operation of the state that all steps share touches the counter. -/
theorem tallying_state (environment : Environment) (active : List String) :
    StateCouple environment environment (tallying active) where
  lookup := by
    rintro state _ name ⟨rfl, -⟩
    rfl
  context := by
    rintro state _ ⟨rfl, -⟩
    rfl
  write := by
    rintro text state _ ⟨rfl, tallies⟩
    exact ⟨rfl, tallies.of_eq rfl⟩
  assign := by
    rintro state _ name value ⟨rfl, tallies⟩
    cases assigned : state.assign? name value with
    | none => exact .none
    | some after =>
      refine .some ⟨rfl, ?_⟩
      rw [RenderState.assign?_eq assigned]
      exact tallies.of_eq rfl
  declare := by
    rintro name value state _ ⟨rfl, tallies⟩
    refine ⟨rfl, ?_⟩
    rw [state.declare_eq]
    exact tallies.of_eq rfl
  pushFrame := by
    rintro state _ frame ⟨rfl, tallies⟩
    exact ⟨rfl, tallies.of_eq rfl⟩
  popFrame := by
    rintro state _ ⟨rfl, tallies⟩
    exact ⟨rfl, tallies.of_eq rfl⟩
  popFrame_throws := by
    rintro state _ ⟨rfl, tallies⟩
    exact ⟨rfl, tallies.of_eq rfl⟩

/-- Nor does a step by itself. -/
theorem Step.ownCouples_tallying (origin : Nat) (step : Step) :
    step.OwnCouples environment environment (tallying active) origin := by
  cases step with
  | saveTarget =>
    rintro state _ ⟨rfl, tallies⟩
    exact ⟨rfl, tallies.of_eq rfl⟩
  | mergeTarget slot =>
    rintro state _ ⟨rfl, tallies⟩
    refine ⟨rfl, ?_⟩
    rw [state.mergeTarget_eq]
    exact tallies.of_eq rfl
  | renderContent slot =>
    rintro state _ ⟨rfl, tallies⟩
    refine ⟨rfl, ?_⟩
    cases slot with
    | none => exact tallies.of_eq rfl
    | some slot => exact tallies.of_eq rfl
  | printBlock expression parameters body =>
    rintro state _ ⟨rfl, tallies⟩
    refine ⟨rfl, rfl, tallies.of_eq ?_⟩
    unfold RenderState.bindBlock
    split
    · rfl
    · rfl
  | setLayout path =>
    rintro state _ ⟨rfl, tallies⟩
    refine ⟨rfl, ?_⟩
    split
    · exact tallies.of_eq rfl
    · exact tallies
  | loop condition body => rfl
  | _ => trivial

/-! ## Calls -/

/-- **The call of a view does the same under watch**: the counter refuses it when the list
of active calls does, and inside it is one more. -/
theorem watchedView_couples {alarm : RenderError} {execute : Executor}
    {executeUnder : List String → Executor} (path : String)
    (steps : ∀ origin steps, (tallying (path :: active)).Couples
      (executeUnder (path :: active) origin steps) (execute origin steps))
    (overrides : Option Value) (position : Position) :
    (tallying active).Couples
      ((watchedCalls environment alarm active executeUnder).view path overrides position)
      (callView environment execute path overrides position) := by
  dsimp only [watchedCalls]
  refine .watched alarm ?_
  rintro state _ ⟨rfl, tallies⟩
  rw [callView_run]
  by_cases full : active.length = maxDepth
  · rw [if_pos full, if_pos (Nat.le_of_eq (full.symm.trans tallies.1.symm))]
    exact ⟨rfl, rfl, tallies⟩
  · have room : ¬maxDepth ≤ state.depth := by
      have := tallies.2
      rw [tallies.1]
      omega
    rw [if_neg full, if_neg room]
    change (tallying active).Agrees
      (match (environment.compileView path).run.run state.store with
        | (.error error, store) => _
        | (.ok view, store) => _) _
    rcases (environment.compileView path).run.run state.store with ⟨error | view, store⟩
    · exact ⟨rfl, rfl, tallies⟩
    · dsimp only
      cases overriddenFields state.context overrides position with
      | error error => exact ⟨rfl, rfl, tallies⟩
      | ok fields =>
        have inside : (state.enterView store fields).Tallies (path :: active) := by
          refine ⟨congrArg (· + 1) tallies.1, ?_⟩
          have := tallies.2
          rw [List.length_cons]
          omega
        have agree := steps view.serial view.program.steps _ _ ⟨rfl, inside⟩
        dsimp only
        generalize (executeUnder _ view.serial view.program.steps).run.run _ = result at agree ⊢
        generalize (execute view.serial view.program.steps).run.run _ = result' at agree ⊢
        rcases result with ⟨error | value, after⟩ <;> rcases result' with ⟨error' | value', after'⟩
        · obtain ⟨rfl, rfl, left⟩ := agree
          exact ⟨rfl, rfl, congrArg (· - 1) left.1, tallies.2⟩
        · exact agree.elim
        · exact agree.elim
        · obtain ⟨rfl, rfl, left⟩ := agree
          exact ⟨rfl, rfl, congrArg (· - 1) left.1, tallies.2⟩

/-- **So does the call of a print block.** -/
theorem watchedBlock_couples {alarm : RenderError} {execute : Executor}
    {executeUnder : List String → Executor}
    (steps : ∀ origin steps, (tallying (blockName :: active)).Couples
      (executeUnder (blockName :: active) origin steps) (execute origin steps))
    (index : Nat) (arguments : List Value) :
    (tallying active).Couples
      ((watchedCalls environment alarm active executeUnder).block index arguments)
      (callBlock execute index arguments) := by
  dsimp only [watchedCalls]
  refine .watched _ ?_
  rintro state _ ⟨rfl, tallies⟩
  rw [callBlock_run, run_bind, run_get]
  dsimp only
  cases state.blocks[index]? with
  | none => exact ⟨rfl, rfl, tallies⟩
  | some block =>
    by_cases full : active.length = maxDepth
    · dsimp only
      rw [if_pos full, if_pos (Nat.le_of_eq (full.symm.trans tallies.1.symm))]
      exact ⟨rfl, rfl, tallies⟩
    · have room : ¬maxDepth ≤ state.depth := by
        have := tallies.2
        rw [tallies.1]
        omega
      dsimp only
      rw [if_neg full, if_neg room]
      have inside : (state.enterBlock (argumentFrame block.parameters arguments)).Tallies
          (blockName :: active) := by
        refine ⟨congrArg (· + 1) tallies.1, ?_⟩
        have := tallies.2
        rw [List.length_cons]
        omega
      have left {after : RenderState} (tallies' : after.Tallies (blockName :: active)) :
          after.leaveBlock.Tallies active := by
        refine ⟨?_, tallies.2⟩
        rw [RenderState.leaveBlock, RenderState.restoreTarget_eq]
        exact congrArg (· - 1) tallies'.1
      have agree := steps block.origin block.body _ _ ⟨rfl, inside⟩
      rw [admitBlock_run]
      generalize (executeUnder _ block.origin block.body).run.run _ = result at agree ⊢
      generalize (execute block.origin block.body).run.run _ = result' at agree ⊢
      rcases result with ⟨error | value, after⟩ <;> rcases result' with ⟨error' | value', after'⟩
      · obtain ⟨rfl, rfl, tallies'⟩ := agree
        exact ⟨rfl, rfl, left tallies'⟩
      · exact agree.elim
      · exact agree.elim
      · obtain ⟨rfl, rfl, tallies'⟩ := agree
        exact ⟨rfl, rfl, left tallies'⟩

/-! ## Steps -/

section

variable {calls calls' : Calls} {alarm : RenderError}

theorem watchedOptional_couples {origin : Nat} {body? : Option (List Step)}
    (bodies : ∀ body ∈ body?, (tallying active).Couples
      (watchedStep.watchedSteps environment calls alarm active origin body)
      (executeSteps environment calls' origin body)) :
    (tallying active).Couples
      (watchedStep.watchedOptional environment calls alarm active origin body?)
      (executeStep.executeOptional environment calls' origin body?) := by
  cases body? with
  | none => exact .pure _
  | some body => exact (tallying_state environment active).inFrame _ (bodies body rfl)

theorem watchedCases_couples
    (same : RenderCouple environment environment calls calls' (tallying active)) {origin : Nat}
    {value : Value} {fallback fallback' : Render Unit}
    (otherwise : (tallying active).Couples fallback fallback')
    (cases : List (Expression × List Step))
    (bodies : ∀ case ∈ cases, (tallying active).Couples
      (watchedStep.watchedSteps environment calls alarm active origin case.2)
      (executeSteps environment calls' origin case.2)) :
    (tallying active).Couples
      (watchedStep.watchedCases environment calls alarm active origin value fallback cases)
      (executeStep.executeCases environment calls' origin value fallback' cases) := by
  induction cases with
  | nil => exact otherwise
  | cons case rest ih =>
    refine .bind (same.evaluate _) fun found => ?_
    split
    · exact same.inFrame _ (bodies case List.mem_cons_self)
    · exact ih fun other mem => bodies other (List.mem_cons_of_mem _ mem)

/-- **A step does the same under watch** when the calls do, and the steps directly inside
it. -/
theorem watchedStep_couples
    (same : RenderCouple environment environment calls calls' (tallying active)) {origin : Nat}
    (step : Step)
    (bodies : ∀ body ∈ step.bodies, (tallying active).Couples
      (watchedStep.watchedSteps environment calls alarm active origin body)
      (executeSteps environment calls' origin body)) :
    (tallying active).Couples (watchedStep environment calls alarm active origin step)
      (executeStep environment calls' origin step) := by
  -- What holds no steps that are executed with it is executed as it is.
  have leaf (step : Step) : (tallying active).Couples
      (watched alarm active (executeStep environment calls origin step))
      (executeStep environment calls' origin step) :=
    .watched alarm (executeStep_couples same step (step.ownCouples_tallying origin)
      fun body _ => executeSteps_couple same fun step _ => step.ownCouples_tallying origin)
  cases step with
  | block body => exact .watched alarm (same.inFrame _ (bodies body (by simp [Step.bodies])))
  | branch condition consequent alternate =>
    refine .watched alarm (.bind (same.evaluate _) fun value => ?_)
    split
    · exact same.inFrame _ (bodies consequent (by simp [Step.bodies]))
    · exact watchedOptional_couples fun body mem =>
        bodies body (by simp [Step.bodies, Option.mem_def.mp mem])
  | switch expression cases fallback =>
    refine .watched alarm (.bind (same.evaluate _) fun value => ?_)
    refine watchedCases_couples same ?_ cases fun case mem => ?_
    · exact watchedOptional_couples fun body mem =>
        bodies body (by simp [Step.bodies, Option.mem_def.mp mem])
    · exact bodies case.2 (List.mem_append_left _ (List.mem_map_of_mem mem))
  | foreach identifiers collection body empty =>
    refine .watched alarm (.bind (same.evaluate _) fun value => ?_)
    have items : (tallying active).Couples
        (MonadExcept.ofExcept (collectionAt collection.position value) : Render _)
        (MonadExcept.ofExcept (collectionAt collection.position value)) := by
      cases collectionAt collection.position value with
      | error error => exact .throw _
      | ok items => exact .pure _
    refine .bind items fun items => ?_
    split
    · exact watchedOptional_couples fun body mem =>
        bodies body (by simp [Step.bodies, Option.mem_def.mp mem])
    · exact forEach_couples
        (fun _ => same.inFrame _ (bodies body (by simp [Step.bodies]))) items
  | loop condition body =>
    refine .watched alarm (repeatWhile_couples (.bind (same.evaluate _) fun _ => .pure _) ?_ _)
    exact same.inFrame _ (bodies body (by simp [Step.bodies]))
  | text | comment | cdata | doctype | openTag | closeTag | renderPartial | renderContent
    | saveTarget | mergeTarget | renderValue | renderAction | printBlock | execute | setLayout =>
    exact leaf _

/-- **Steps do the same under watch** when the calls do. -/
theorem watchedSteps_couple
    (same : RenderCouple environment environment calls calls' (tallying active)) (origin : Nat)
    (steps : List Step) :
    (tallying active).Couples
      (watchedStep.watchedSteps environment calls alarm active origin steps)
      (executeSteps environment calls' origin steps) := by
  refine Step.listInduction (.pure _) (fun step rest first others => ?_)
    (fun step (_ : True) => watchedStep_couples same step) fun _ _ => trivial
  rw [executeSteps_cons]
  exact .bind first fun _ => others

end

/-- **Executions do the same under watch**, inside as many active calls as there are levels
above them: by induction on the levels, of which the active calls leave at least one. -/
theorem watchedWithin_couples (alarm : RenderError) {levels : Nat}
    (depth : active.length + levels = maxDepth + 1) (origin : Nat) (steps : List Step) :
    (tallying active).Couples (watchedWithin environment alarm levels active origin steps)
      (executeWithin environment levels origin steps) := by
  induction levels generalizing active origin steps with
  | zero =>
    rintro state _ ⟨rfl, tallies⟩
    exact absurd depth (Nat.ne_of_lt (Nat.lt_succ_of_le tallies.2))
  | succ levels ih =>
    have inside (name : String) (origin : Nat) (steps : List Step) :
        (tallying (name :: active)).Couples
          (watchedWithin environment alarm levels (name :: active) origin steps)
          (executeWithin environment levels origin steps) :=
      ih (by rw [List.length_cons]; omega) origin steps
    have same : RenderCouple environment environment
        (watchedCalls environment alarm active (watchedWithin environment alarm levels))
        (callsBy environment (executeWithin environment levels)) (tallying active) :=
      { tallying_state environment active with
        functions := rfl
        block := watchedBlock_couples (inside blockName)
        view := fun path => watchedView_couples path (inside path) }
    exact .watched alarm (watchedSteps_couple same origin steps)

end

end ViewTemplate
