import ViewTemplate.Proofs.Render.Declarations
import ViewTemplate.Proofs.Render.Outlooks
import ViewTemplate.Proofs.Render.StepCoupling

/-!
# Observed executions

An observed execution does what the execution does: it has the same result and leaves the
same state behind, so it never raises the alarm (`observedWithin_follows`).

What carries this is that the current target holds what the outlook shows
(`RenderState.Showing`).  Steps that switch no target keep it so, and evaluations do not even
touch the outlook: the print blocks that they call run on a target of their own, with an
outlook of their own, and both are forgotten.  A capture puts an empty target on the stack
when its body starts with nothing to be written, and merges it when the outlooks are merged;
that its start meets its end is what balanced steps are for.

## Main Definitions

* `RenderState.Showing`, `showing` — states that show an outlook
* `Follows` — an observed action does what an action does
-/

namespace ViewTemplate

variable {α β : Type} {environment : Environment} {calls : Calls}

/-! ## Following -/

/-- A state whose current target holds what an outlook shows, above some stack. -/
structure RenderState.Showing (here : Outlook) (saved : List Target) (state : RenderState) :
    Prop where
  holds : state.HoldsBalanced
  saved : state.saved = saved
  shows : here.Shows state.target

/-- Equal states that show an outlook. -/
def showing (here : Outlook) (saved : List Target) : Coupling RenderState :=
  .equal (·.Showing here saved)

/-- **An observed action does what an action does**: with the same result, from every state
that shows the outlook, and if it returns, it leaves the captures around it alone, and a
state that shows the outlook there. -/
def Follows (observed : Observed α) (action : Render α) : Prop :=
  ∀ (outlooks : Outlooks) (state : RenderState),
    state.Showing outlooks.here state.saved →
      match action.run.run state with
      | (.error error, after) => (observed.run outlooks).run.run state = (.error error, after)
      | (.ok value, after) => ∃ here,
        (observed.run outlooks).run.run state = (.ok (value, ⟨here, outlooks.around⟩), after) ∧
          after.Showing here state.saved

namespace Follows

theorem pure (value : α) : Follows (Pure.pure value) (Pure.pure value) :=
  fun outlooks _ shows => ⟨outlooks.here, rfl, shows⟩

theorem throw (error : RenderError) :
    Follows (throw error : Observed α) (throw error) :=
  fun _ _ _ => rfl

/-- **Sequences.** -/
theorem bind {observed : Observed α} {action : Render α} (first : Follows observed action)
    {next : α → Observed β} {next' : α → Render β}
    (rest : ∀ value, Follows (next value) (next' value)) :
    Follows (observed >>= next) (action >>= next') := by
  intro outlooks state shows
  have ended := first outlooks state shows
  rw [run_bind, StateT.run_bind, run_bind]
  generalize action.run.run state = result at ended ⊢
  rcases result with ⟨error | value, after⟩
  · dsimp only at ended ⊢
    rw [ended]
  · obtain ⟨here, ran, shows'⟩ := ended
    dsimp only
    rw [ran, ← shows'.saved]
    exact rest value ⟨here, outlooks.around⟩ after { shows' with saved := rfl }

/-- What does the same in states that show an outlook, and keeps them so, follows. -/
theorem of_couples {action action' : Render α}
    (h : ∀ here saved, (showing here saved).Couples action action') :
    Follows (liftM action) action' := by
  intro outlooks state shows
  have agree := h outlooks.here state.saved state state ⟨rfl, shows⟩
  rw [Observed.lift_run]
  generalize action.run.run state = result at agree ⊢
  generalize action'.run.run state = result' at agree ⊢
  rcases result with ⟨error | value, after⟩ <;> rcases result' with ⟨error' | value', after'⟩
  · obtain ⟨rfl, rfl⟩ := agree
    rfl
  · exact agree.elim
  · exact agree.elim
  · obtain ⟨rfl, rfl, shows'⟩ := agree
    exact ⟨outlooks.here, rfl, shows'⟩

theorem inFrame (frame : Frame) {observed : Observed α} {action : Render α}
    (h : Follows observed action) :
    Follows (observed.inFrame frame) (Render.inFrame frame action) := by
  intro outlooks state shows
  have ended := h outlooks (state.pushFrame frame)
    ⟨⟨shows.holds.blocks, shows.holds.store⟩, rfl, shows.shows⟩
  rw [Render.inFrame_run, Observed.inFrame_run]
  generalize action.run.run (state.pushFrame frame) = result at ended ⊢
  rcases result with ⟨error | value, after⟩
  · dsimp only at ended ⊢
    rw [ended]
  · obtain ⟨here, ran, shows'⟩ := ended
    dsimp only
    rw [ran]
    exact ⟨here, rfl, ⟨shows'.holds.blocks, shows'.holds.store⟩, shows'.saved, shows'.shows⟩

theorem forEach {observed : β → Observed Unit} {action : β → Render Unit}
    (h : ∀ thing, Follows (observed thing) (action thing)) (things : List β) :
    Follows (Observed.forEach observed things) (Render.forEach action things) := by
  induction things with
  | nil => exact .pure _
  | cons thing rest ih => exact .bind (h thing) fun _ => ih

theorem repeatWhile {position : Position} {condition condition' : Render Bool}
    {observed : Observed Unit} {action : Render Unit}
    (test : Follows (liftM condition) condition') (body : Follows observed action) (turns : Nat) :
    Follows (Observed.repeatWhile position condition observed turns)
      (Render.repeatWhile position condition' action turns) := by
  induction turns with
  | zero => exact .throw _
  | succ turns ih =>
    refine .bind test fun holds => ?_
    split
    · exact .bind body fun _ => ih
    · exact .pure _

/-- **Content is what the outlook shows.** -/
theorem content (alarm : RenderError) (slot : Option String) :
    Follows (Observed.content alarm slot) (modify (·.writeContent slot)) := by
  intro outlooks state shows
  refine ⟨outlooks.here, ?_, ?_⟩
  · rw [Observed.content_run]
    dsimp only
    rw [if_pos (shows.shows.output_writeContent slot)]
  · cases slot with
    | none => exact ⟨⟨shows.holds.blocks, shows.holds.store⟩, rfl, shows.shows.append _⟩
    | some slot => exact ⟨⟨shows.holds.blocks, shows.holds.store⟩, rfl, shows.shows.append _⟩

/-- **A capture.**  Its body starts with an empty target, as its outlook does, and leaves
the stack with the outer target on top. -/
theorem capture {observed : Observed Unit} {body : Render Unit} (h : Follows observed body)
    (slot : String) :
    Follows
      (do Observed.opening; observed; Observed.closing slot)
      (do modify (·.saveTarget); body; modify (·.mergeTarget slot)) := by
  intro outlooks state shows
  have ended := h outlooks.enter state.saveTarget
    ⟨⟨shows.holds.blocks, shows.holds.store⟩, rfl, .nothing⟩
  rw [run_bind, run_modify]
  dsimp only
  rw [run_bind]
  rw [StateT.run_bind, run_bind, Observed.opening_run]
  dsimp only
  rw [StateT.run_bind, run_bind]
  generalize body.run.run state.saveTarget = result at ended ⊢
  rcases result with ⟨error | _, after⟩
  · dsimp only at ended ⊢
    rw [ended]
  · obtain ⟨here, ran, shows'⟩ := ended
    dsimp only [run_modify]
    rw [ran]
    dsimp only
    rw [Observed.closing_run, RenderState.mergeTarget_of_saved shows'.saved]
    exact ⟨_, rfl, ⟨shows'.holds.blocks, shows'.holds.store⟩, rfl,
      shows.shows.merge shows'.shows slot⟩

end Follows

/-- **What follows an action does the same as it aside**, in states whose current target is
empty, and ends above the same stack. -/
theorem Follows.aside {observed : Observed α} {action : Render α} (h : Follows observed action)
    {state : RenderState} (holds : state.HoldsBalanced) (empty : state.target = {}) :
    observed.aside.run.run state = action.run.run state ∧
      ∀ value after, action.run.run state = (.ok value, after) →
        ∃ here, after.Showing here state.saved := by
  have ended := h {} state ⟨holds, rfl, empty ▸ .nothing⟩
  rw [Observed.aside_run]
  generalize action.run.run state = result at ended ⊢
  rcases result with ⟨error | value, after⟩
  · dsimp only at ended
    rw [ended]
    exact ⟨rfl, nofun⟩
  · obtain ⟨here, ran, shows⟩ := ended
    rw [ran]
    refine ⟨rfl, ?_⟩
    rintro _ _ ⟨⟩
    exact ⟨here, shows⟩

/-! ## Evaluations -/

/-- What all steps do to the state changes nothing that an outlook shows. -/
theorem showing_state (here : Outlook) (saved : List Target) :
    StateCouple environment environment (showing here saved) where
  lookup := by
    rintro state _ name ⟨rfl, -⟩
    rfl
  context := by
    rintro state _ ⟨rfl, -⟩
    rfl
  write := by
    rintro text state _ ⟨rfl, shows⟩
    exact ⟨rfl, ⟨shows.holds.blocks, shows.holds.store⟩, shows.saved, shows.shows.append text⟩
  assign := by
    rintro state _ name value ⟨rfl, shows⟩
    cases assigned : state.assign? name value with
    | none => exact .none
    | some after =>
      refine .some ⟨rfl, ?_⟩
      rw [RenderState.assign?_eq assigned]
      exact ⟨⟨shows.holds.blocks, shows.holds.store⟩, shows.saved, shows.shows⟩
  declare := by
    rintro name value state _ ⟨rfl, shows⟩
    refine ⟨rfl, ?_⟩
    rw [state.declare_eq]
    exact ⟨⟨shows.holds.blocks, shows.holds.store⟩, shows.saved, shows.shows⟩
  pushFrame := by
    rintro state _ frame ⟨rfl, shows⟩
    exact ⟨rfl, ⟨shows.holds.blocks, shows.holds.store⟩, shows.saved, shows.shows⟩
  popFrame := by
    rintro state _ ⟨rfl, shows⟩
    exact ⟨rfl, ⟨shows.holds.blocks, shows.holds.store⟩, shows.saved, shows.shows⟩
  popFrame_throws := by
    rintro state _ rfl
    rfl

/-- The print blocks that two kinds of calls make do the same where an outlook is shown, and
leave it alone. -/
def BlocksShow (calls calls' : Calls) : Prop :=
  ∀ here saved index arguments,
    (showing here saved).Couples (calls.block index arguments) (calls'.block index arguments)

section

variable {calls' : Calls} {here : Outlook} {saved : List Target}

theorem BlocksShow.scope (blocks : BlocksShow calls calls') :
    (renderScope environment calls).Couple (renderScope environment calls')
      (showing here saved) :=
  have state : StateCouple environment environment (showing here saved) :=
    showing_state here saved
  { lookup := state.lookup
    this := state.context
    assign := state.assign
    callBlock := blocks here saved
    callHost := rfl }

theorem BlocksShow.evaluate (blocks : BlocksShow calls calls') (expression : Expression) :
    (showing here saved).Couples (evaluateExpression environment calls expression)
      (evaluateExpression environment calls' expression) :=
  .adapt _ (Snippet.evaluate_couples blocks.scope expression.body)

theorem BlocksShow.run (blocks : BlocksShow calls calls') (action : Action) :
    (showing here saved).Couples (runAction environment calls action)
      (runAction environment calls' action) :=
  have state : StateCouple environment environment (showing here saved) :=
    showing_state here saved
  .adapt _ (Snippet.Statement.run_couples blocks.scope state.declare action.body)

end

/-! ## Steps -/

theorem observedSteps_cons (alarm : RenderError)
    (views : String → Option Value → Position → Observed Unit) (origin : Nat) (step : Step)
    (rest : List Step) :
    observedSteps environment alarm calls views origin (step :: rest) = (do
      observedStep environment alarm calls views origin step
      observedSteps environment alarm calls views origin rest) := rfl

theorem observedSteps_append (alarm : RenderError)
    (views : String → Option Value → Position → Observed Unit) (origin : Nat)
    (first rest : List Step) :
    observedSteps environment alarm calls views origin (first ++ rest) = (do
      observedSteps environment alarm calls views origin first
      observedSteps environment alarm calls views origin rest) := by
  induction first with
  | nil => simp [observedSteps, observedStep.observedSteps]
  | cons step others ih =>
    rw [List.cons_append, observedSteps_cons, observedSteps_cons, ih, bind_assoc]

/-- What the calls of two executions have to do for observed steps to follow steps. -/
structure CallsFollow (environment : Environment) (calls calls' : Calls)
    (views : String → Option Value → Position → Observed Unit) : Prop where
  blocks : BlocksShow calls calls'
  view : ∀ path overrides position,
    Follows (views path overrides position) (calls'.view path overrides position)

section

variable {alarm : RenderError} {calls' : Calls}
  {views : String → Option Value → Position → Observed Unit}

theorem observedOptional_follows {origin : Nat} {body? : Option (List Step)}
    (bodies : ∀ body ∈ body?, Follows (observedSteps environment alarm calls views origin body)
      (executeSteps environment calls' origin body)) :
    Follows (observedStep.observedOptional environment alarm calls views origin body?)
      (executeStep.executeOptional environment calls' origin body?) := by
  cases body? with
  | none => exact .pure _
  | some body => exact .inFrame [] (bodies body rfl)

theorem observedCases_follow (blocks : BlocksShow calls calls') {origin : Nat} {value : Value}
    {fallback : Observed Unit} {fallback' : Render Unit} (otherwise : Follows fallback fallback')
    (cases : List (Expression × List Step))
    (bodies : ∀ case ∈ cases,
      Follows (observedSteps environment alarm calls views origin case.2)
        (executeSteps environment calls' origin case.2)) :
    Follows
      (observedStep.observedCases environment alarm calls views origin value fallback cases)
      (executeStep.executeCases environment calls' origin value fallback' cases) := by
  induction cases with
  | nil => exact otherwise
  | cons case rest ih =>
    refine .bind (.of_couples fun _ _ => blocks.evaluate case.1) fun found => ?_
    split
    · exact .inFrame [] (bodies case List.mem_cons_self)
    · exact ih fun other mem => bodies other (List.mem_cons_of_mem _ mem)

/-- **An observed step that switches no target follows the step**, when calls do and the
steps directly inside it. -/
theorem observedStep_follows (follow : CallsFollow environment calls calls' views) {origin : Nat}
    (step : Step) (leaves : ¬step.SwitchesTarget)
    (balanced : ∀ body ∈ step.bodies, Balanced body)
    (bodies : ∀ body ∈ step.bodies,
      Follows (observedSteps environment alarm calls views origin body)
        (executeSteps environment calls' origin body)) :
    Follows (observedStep environment alarm calls views origin step)
      (executeStep environment calls' origin step) := by
  have state (here : Outlook) (saved : List Target) :
      StateCouple environment environment (showing here saved) := showing_state here saved
  have evaluate (expression : Expression) :
      Follows (liftM (evaluateExpression environment calls expression))
        (evaluateExpression environment calls' expression) :=
    .of_couples fun _ _ => follow.blocks.evaluate expression
  have writes (here : Outlook) (saved : List Target) (text : String) :
      (showing here saved).Couples (modify (·.write text) : Render Unit)
        (modify (·.write text)) :=
    .modify ((state here saved).write text)
  have writesValue (here : Outlook) (saved : List Target) (value : Value) :
      (showing here saved).Couples (modify (·.writeValue value) : Render Unit)
        (modify (·.writeValue value)) := by
    unfold RenderState.writeValue
    cases value.isNullish with
    | true => exact .modify fun _ _ related => related
    | false => exact writes here saved _
  cases step with
  | text | comment | cdata | doctype | closeTag =>
    exact .of_couples fun here saved => writes here saved _
  | openTag name attributes =>
    refine .of_couples fun here saved => ?_
    exact .bind (buildAttributes_couples (fun _ => follow.blocks.evaluate _) [] attributes)
      fun _ => writes here saved _
  | block body => exact .inFrame [] (bodies body (by simp [Step.bodies]))
  | branch condition consequent alternate =>
    refine .bind (evaluate condition) fun value => ?_
    split
    · exact .inFrame [] (bodies consequent (by simp [Step.bodies]))
    · exact observedOptional_follows fun body mem =>
        bodies body (by simp [Step.bodies, Option.mem_def.mp mem])
  | switch expression cases fallback =>
    refine .bind (evaluate expression) fun value => ?_
    refine observedCases_follow follow.blocks ?_ cases fun case mem => ?_
    · exact observedOptional_follows fun body mem =>
        bodies body (by simp [Step.bodies, Option.mem_def.mp mem])
    · exact bodies case.2 (List.mem_append_left _ (List.mem_map_of_mem mem))
  | foreach identifiers collection body empty =>
    refine .bind (evaluate collection) fun value => ?_
    have items : Follows
        (liftM (MonadExcept.ofExcept (collectionAt collection.position value) : Render _))
        (MonadExcept.ofExcept (collectionAt collection.position value)) := by
      cases collectionAt collection.position value with
      | error error => exact .of_couples fun _ _ => .throw _
      | ok items => exact .of_couples fun _ _ => .pure _
    refine .bind items fun items => ?_
    split
    · exact observedOptional_follows fun body mem =>
        bodies body (by simp [Step.bodies, Option.mem_def.mp mem])
    · exact .forEach (fun _ => .inFrame _ (bodies body (by simp [Step.bodies]))) items
  | loop condition body =>
    refine .repeatWhile (.of_couples fun _ _ => ?_)
      (.inFrame [] (bodies body (by simp [Step.bodies]))) _
    exact .bind (follow.blocks.evaluate condition) fun _ => .pure _
  | renderPartial path context position =>
    cases context with
    | none => exact follow.view path none position
    | some expression =>
      change Follows _ (some <$> evaluateExpression environment calls' expression >>= _)
      rw [bind_map_left]
      exact .bind (evaluate expression) fun value => follow.view path (some value) position
  | renderContent slot => exact .content alarm slot
  | saveTarget | mergeTarget slot => exact absurd trivial leaves
  | renderValue expression =>
    exact .of_couples fun here saved =>
      .bind (follow.blocks.evaluate expression) fun _ => writesValue here saved _
  | renderAction action =>
    exact .of_couples fun here saved =>
      .bind (follow.blocks.run action) fun _ => writesValue here saved _
  | printBlock expression parameters body =>
    refine .of_couples fun here saved => .bind (.modifyGet ?_) fun index => ?_
    · rintro state _ ⟨rfl, shows⟩
      have bound : Balanced body := balanced body (by simp [Step.bodies])
      obtain ⟨holds, stack, target⟩ :=
        evaluating_bindBlock ⟨origin, expression.position, parameters, body⟩ bound state shows.holds
      exact ⟨rfl, rfl, holds, stack.trans shows.saved, target ▸ shows.shows⟩
    · exact .bind ((state here saved).inFrame _ (follow.blocks.evaluate expression))
        fun _ => writesValue here saved _
  | execute action =>
    exact .of_couples fun _ _ => .bind (follow.blocks.run action) fun _ => .pure _
  | setLayout path =>
    refine .of_couples fun _ _ => .modify ?_
    rintro state _ ⟨rfl, shows⟩
    refine ⟨rfl, ?_⟩
    split
    · exact ⟨⟨shows.holds.blocks, shows.holds.store⟩, shows.saved, shows.shows⟩
    · exact shows

/-- **Observed steps follow steps** that are balanced, when calls do: by induction on the
derivation that they are, which is where a capture that starts meets its end. -/
theorem observedSteps_follow (follow : CallsFollow environment calls calls' views) (origin : Nat)
    {steps : List Step} (balanced : Balanced steps) :
    Follows (observedSteps environment alarm calls views origin steps)
      (executeSteps environment calls' origin steps) := by
  induction balanced with
  | nil => exact .pure _
  | @step step rest leaves inside _ ihInside ihNext =>
    exact .bind (observedStep_follows follow step leaves inside ihInside) fun _ => ihNext
  | @capture slot body rest _ _ ihInside ihNext =>
    have unfolded : observedSteps environment alarm calls views origin
        (.saveTarget :: (body ++ .mergeTarget slot :: rest)) = (do
          (do
            Observed.opening
            observedSteps environment alarm calls views origin body
            Observed.closing slot)
          observedSteps environment alarm calls views origin rest) := by
      rw [observedSteps_cons, observedSteps_append, observedSteps_cons]
      simp only [bind_assoc]
      rfl
    rw [executeSteps_capture, unfolded]
    exact .bind (.capture ihInside slot) fun _ => ihNext

end

/-! ## Calls and levels -/

section

variable {observe : Observer} {execute : Executor}

/-- **The call of a print block** does the same when its steps are observed aside, and leaves
the outlook of its caller alone. -/
theorem callBlock_shows
    (steps : ∀ origin {steps}, Balanced steps → Follows (observe origin steps)
      (execute origin steps))
    (here : Outlook) (saved : List Target) (index : Nat) (arguments : List Value) :
    (showing here saved).Couples
      (callBlock (fun origin steps => (observe origin steps).aside) index arguments)
      (callBlock execute index arguments) := by
  rintro state _ ⟨rfl, shows⟩
  rw [callBlock_run, callBlock_run]
  cases found : state.blocks[index]? with
  | none => exact ⟨rfl, rfl⟩
  | some block =>
    dsimp only
    split
    · exact ⟨rfl, rfl⟩
    · have balanced := shows.holds.blocks block (List.mem_of_getElem? found)
      let entered := state.enterBlock (argumentFrame block.parameters arguments)
      have holds : entered.HoldsBalanced := ⟨shows.holds.blocks, shows.holds.store⟩
      obtain ⟨same, ended⟩ := (steps block.origin balanced).aside holds rfl
      rw [same]
      generalize (execute block.origin block.body).run.run _ = result at ended ⊢
      rcases result with ⟨error | value, after⟩
      · exact ⟨rfl, rfl⟩
      · obtain ⟨_, inside⟩ := ended value after rfl
        obtain ⟨target, stack⟩ := RenderState.leaveBlock_of_saved inside.saved
        exact ⟨rfl, rfl, after.leaveBlock_holdsBalanced inside.holds, stack.trans shows.saved,
          target ▸ shows.shows⟩

/-- **A view that is rendered in place follows its call.** -/
theorem observedView_follows
    (steps : ∀ origin {steps}, Balanced steps → Follows (observe origin steps)
      (execute origin steps))
    (path : String) (overrides : Option Value) (position : Position) :
    Follows (observedView environment observe path overrides position)
      (callView environment execute path overrides position) := by
  intro outlooks state shows
  rw [callView_run, observedView_run]
  by_cases full : maxDepth ≤ state.depth
  · simp only [if_pos full]
  · simp only [if_neg full]
    have compiled := compileView_balanced environment path shows.holds.store
    generalize (environment.compileView path).run.run state.store = result at compiled ⊢
    rcases result with ⟨error | view, store⟩
    · rfl
    · obtain ⟨balanced, kept⟩ := compiled
      dsimp only
      cases overriddenFields state.context overrides position with
      | error error => rfl
      | ok fields =>
        have ended := steps view.serial balanced outlooks (state.enterView store fields)
          ⟨⟨shows.holds.blocks, kept⟩, rfl, shows.shows⟩
        dsimp only
        generalize (execute view.serial view.program.steps).run.run _ = result at ended ⊢
        rcases result with ⟨error | value, after⟩
        · dsimp only at ended ⊢
          rw [ended]
        · obtain ⟨here, ran, shows'⟩ := ended
          dsimp only
          rw [ran]
          exact ⟨here, rfl, ⟨shows'.holds.blocks, shows'.holds.store⟩, shows'.saved,
            shows'.shows⟩

end

/-- **Observed executions follow executions on every level**, by induction on the levels
below. -/
theorem observedWithin_follows (alarm : RenderError) (levels origin : Nat) {steps : List Step}
    (balanced : Balanced steps) :
    Follows (observedWithin environment alarm levels origin steps)
      (executeWithin environment levels origin steps) := by
  induction levels generalizing origin steps with
  | zero => exact .pure _
  | succ levels ih =>
    refine observedSteps_follow ⟨?_, ?_⟩ origin balanced
    · exact callBlock_shows fun origin _ => ih origin
    · exact observedView_follows fun origin _ => ih origin

end ViewTemplate
