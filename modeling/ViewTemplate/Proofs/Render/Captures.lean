import ViewTemplate.Proofs.Render.Merging
import ViewTemplate.Proofs.Render.TargetStack

/-!
# What is captured for slots

The texts that an execution captures for slots, in order, and what becomes of them.

A history is what an action captures when it is started in some state.  Histories are
built as executions are (`stepHistory` follows `executeStep` case by case, and goes on
from the states that the executed actions leave), and they record one thing: the slot
of every capture that ends, with the text written to its target.

What is captured while a print block runs is not part of the history.  It goes to the
target of the block, of which nothing but the default text is ever read.

Behind an execution that returns, every slot holds its former text and then all that
was captured for it (`executeWithin_gathers`).  Captures inside captures reach the slots
in the order in which they end: ending the outer one first hands on the slots of its
own target, and nothing else can add to the target below in the meantime.

## Main Definitions

* `History` — what is captured when something is done from a state
* `Environment.captures` — the history of steps
* `capturedText` — all that a history holds for a slot
* `Target.Collects` — the slots of a target grew by what was captured
-/

namespace ViewTemplate

variable {environment : Environment} {calls : Calls}

/-! ## Histories -/

/-- Slots and the texts captured for them, in order. -/
abbrev SlotTexts := List (String × String)

/-- What is captured when something is done from a state. -/
abbrev History := RenderState → SlotTexts

namespace History

/-- Nothing is captured. -/
def nothing : History := fun _ => []

/-- What is captured by an action, and then by what follows it if it returns. -/
def andThen {α : Type} (history : History) (action : Render α) (later : α → History) : History :=
  fun state => history state ++
    match action.run.run state with
    | (.ok value, after) => later value after
    | (.error _, _) => []

/-- What is captured in a new innermost frame. -/
def inFrame (frame : Frame) (history : History) : History :=
  fun state => history (state.pushFrame frame)

/-- What is captured by an action for each of several things. -/
def forEach {β : Type} (history : β → History) (action : β → Render Unit) : List β → History
  | [] => nothing
  | thing :: rest => (history thing).andThen (action thing) fun _ => forEach history action rest

/-- What is captured by an action that is repeated while a condition holds. -/
def repeatWhile (condition : Render Bool) (history : History) (action : Render Unit) :
    (turns : Nat) → History
  | 0 => nothing
  | turns + 1 => nothing.andThen condition fun holds =>
    if holds then
      history.andThen action fun _ => repeatWhile condition history action turns
    else
      nothing

/-- What the end of a capture captures: the text of its target. -/
def mergeTarget (slot : String) : History :=
  fun state => [(slot, state.target.default)]

/-- What an action captures does not depend on how it is put together. -/
theorem andThen_assoc {α β : Type} (history : History) (action : Render α) (second : History)
    (next : Render β) (later : β → History) :
    history.andThen action (fun _ => second.andThen next later) =
      (history.andThen action fun _ => second).andThen (do let _ ← action; next) later := by
  funext state
  unfold andThen
  rw [run_bind]
  rcases action.run.run state with ⟨error | value, after⟩
  · exact (List.append_nil _).symm
  · exact (List.append_assoc _ _ _).symm

theorem nothing_andThen_nothing {α : Type} (action : Render α) :
    nothing.andThen action (fun _ => nothing) = nothing := by
  funext state
  unfold andThen
  rcases action.run.run state with ⟨error | value, after⟩
  · rfl
  · rfl

end History

section

variable (environment : Environment) (calls : Calls)
  (views : String → Option Value → Position → History)

open History

/-- What a step captures, given what calls of views do. -/
def stepHistory (origin : Nat) : Step → History
  | .block body => inFrame [] (stepsHistory origin body)
  | .branch condition consequent alternate =>
    nothing.andThen (evaluateExpression environment calls condition) fun value =>
      if value.isTruthy then
        inFrame [] (stepsHistory origin consequent)
      else
        optionalHistory origin alternate
  | .switch expression cases fallback =>
    nothing.andThen (evaluateExpression environment calls expression) fun value =>
      casesHistory origin value (optionalHistory origin fallback) cases
  | .foreach identifiers collection body empty =>
    nothing.andThen (evaluateExpression environment calls collection) fun value =>
      match collectionAt collection.position value with
      | .error _ => nothing
      | .ok items =>
        if items.isEmpty then
          optionalHistory origin empty
        else
          let run := executeSteps environment calls origin body
          let history := stepsHistory origin body
          History.forEach (fun values => inFrame (itemFrame identifiers values) history)
            (fun values => Render.inFrame (itemFrame identifiers values) run) items
  | .loop condition body =>
    History.repeatWhile
      (return (← evaluateExpression environment calls condition).isTruthy)
      (inFrame [] (stepsHistory origin body))
      (Render.inFrame [] (executeSteps environment calls origin body))
      environment.turns
  | .renderPartial path none position => views path none position
  | .renderPartial path (some expression) position =>
    nothing.andThen (evaluateExpression environment calls expression) fun value =>
      views path (some value) position
  | .mergeTarget slot => History.mergeTarget slot
  | _ => nothing
where
  /-- What steps capture, in order. -/
  stepsHistory (origin : Nat) : List Step → History
    | [] => nothing
    | step :: rest =>
      (stepHistory origin step).andThen (executeStep environment calls origin step) fun _ =>
        stepsHistory origin rest
  /-- What steps with variables of their own capture, if there are any. -/
  optionalHistory (origin : Nat) : Option (List Step) → History
    | none => nothing
    | some body => inFrame [] (stepsHistory origin body)
  /-- What the first case whose value equals `value` captures, or else the fallback. -/
  casesHistory (origin : Nat) (value : Value) (fallback : History) :
      List (Expression × List Step) → History
    | [] => fallback
    | (expression, body) :: rest =>
      nothing.andThen (evaluateExpression environment calls expression) fun found =>
        if found.strictEquals value then
          inFrame [] (stepsHistory origin body)
        else
          casesHistory origin value fallback rest

/-- What steps capture, in order. -/
def stepsHistory (origin : Nat) (steps : List Step) : History :=
  stepHistory.stepsHistory environment calls views origin steps

end

/-- What the call of a view captures, given what the steps of the view do. -/
def viewHistory (environment : Environment) (within : Nat → List Step → History) (path : String)
    (overrides : Option Value) (position : Position) : History :=
  fun state =>
    if maxDepth ≤ state.depth then []
    else
      match (environment.compileView path).run.run state.store with
      | (.error _, _) => []
      | (.ok view, store) =>
        match overriddenFields state.context overrides position with
        | .error _ => []
        | .ok fields => within view.serial view.program.steps (state.enterView store fields)

/-- What steps capture whose calls are `levels` deep at most, as `executeWithin` executes
them. -/
def historyWithin (environment : Environment) : (levels : Nat) → Nat → List Step → History
  | 0 => fun _ _ => History.nothing
  | levels + 1 =>
    stepsHistory environment (callsBy environment (executeWithin environment levels))
      (viewHistory environment (historyWithin environment levels))

/-- **What steps capture in a render.** -/
def Environment.captures (environment : Environment) : Nat → List Step → History :=
  historyWithin environment (maxDepth + 1)

/-! ## Slots that grow -/

/-- All that was captured for a slot, in order. -/
def capturedText (captured : SlotTexts) (slot : String) : String :=
  String.join ((captured.filter (·.1 = slot)).map (·.2))

@[simp] theorem capturedText_nil (slot : String) : capturedText [] slot = "" := rfl

theorem capturedText_append (first second : SlotTexts) (slot : String) :
    capturedText (first ++ second) slot = capturedText first slot ++ capturedText second slot := by
  simp only [capturedText, List.filter_append, List.map_append, String.join_append]

theorem capturedText_singleton (name text slot : String) :
    capturedText [(name, text)] slot = if name = slot then text else "" := by
  by_cases same : name = slot
  · simp [capturedText, same]
  · simp [capturedText, same]

/-- **The slots of a target grew by what was captured.**  That each slot stands in the
table once is part of it: a target whose slots are handed on hands on every entry. -/
structure Target.Collects (before : Target) (captured : SlotTexts) (after : Target) : Prop where
  distinct : (Table.names before.slots).Nodup → (Table.names after.slots).Nodup
  slot : ∀ name, after.slot name = before.slot name ++ capturedText captured name

namespace Target.Collects

variable {first second third : Target} {captured captured' : SlotTexts}

theorem refl (target : Target) : target.Collects [] target :=
  ⟨id, fun name => by simp⟩

theorem trans (h : first.Collects captured second) (h' : second.Collects captured' third) :
    first.Collects (captured ++ captured') third where
  distinct := h'.distinct ∘ h.distinct
  slot name := by
    rw [h'.slot, h.slot, capturedText_append, String.append_assoc]

end Target.Collects

/-- Writing to a slot is a capture for it. -/
theorem Target.appendTo_collects (target : Target) (name text : String) :
    target.Collects [(name, text)] (target.appendTo name text) where
  distinct distinct := Table.nodup_names_set distinct name _
  slot other := by
    rw [slot_appendTo, capturedText_singleton]
    split
    · rfl
    · exact (String.append_empty).symm

/-- **Ending a capture hands on what was captured inside**, and then the text of its
target: what was captured for the inner target was captured for the outer one. -/
theorem Target.merge_collects {captured : SlotTexts} {inner : Target}
    (inside : Target.Collects {} captured inner) (target : Target) (slot : String) :
    target.Collects (captured ++ [(slot, inner.default)]) (target.merge inner (some slot)) where
  distinct distinct := by
    rw [merge_some]
    exact fill_distinct distinct _
  slot name := by
    -- The inner target started empty, so it holds nothing but what was captured.
    have whole : inner.slot name = "" ++ capturedText captured name := inside.slot name
    have distinct : (Table.names inner.slots).Nodup := inside.distinct List.nodup_nil
    rw [String.empty_append] at whole
    rw [capturedText_append, ← whole, ← String.append_assoc]
    change ((target.fill inner.slots).appendTo slot inner.default).slot name = _
    rw [(appendTo_collects _ slot inner.default).slot, slot_fill distinct]
    rfl

/-! ## Actions and their histories -/

/-- **An action gathers what its history says**: when it returns, it has left the stack of
targets alone, and the slots of the current target grew by what was captured. -/
def Gathers {α : Type} (action : Render α) (history : History) : Prop :=
  ∀ (state : RenderState) (value : α) (after : RenderState), state.HoldsBalanced →
    action.run.run state = (.ok value, after) →
    after.HoldsBalanced ∧ after.saved = state.saved ∧
      state.target.Collects (history state) after.target

namespace Gathers

open History

variable {α β : Type}

theorem pure (value : α) : Gathers (Pure.pure value) nothing := by
  rintro state _ _ holds ⟨⟩
  exact ⟨holds, rfl, .refl state.target⟩

theorem throw (error : RenderError) (history : History) :
    Gathers (throw error : Render α) history := by
  rintro state _ _ _ ⟨⟩

/-- Evaluations capture nothing. -/
theorem of_evaluating {action : Render α} (h : evaluating.Bounds action) :
    Gathers action nothing := by
  intro state value after holds returned
  have allowed := h state
  rw [returned] at allowed
  obtain ⟨holds', saved, target⟩ := allowed holds
  exact ⟨holds', saved, target ▸ .refl _⟩

/-- Writing captures nothing. -/
theorem write (text : String) : Gathers (modify (·.write text)) nothing := by
  rintro state _ _ holds ⟨⟩
  exact ⟨⟨holds.blocks, holds.store⟩, rfl, id, fun name => (String.append_empty).symm⟩

/-- **Sequences.** -/
theorem bind {action : Render α} {history : History} (first : Gathers action history)
    {next : α → Render β} {later : α → History}
    (rest : ∀ value, Gathers (next value) (later value)) :
    Gathers (action >>= next) (history.andThen action later) := by
  intro state value after holds returned
  rw [run_bind] at returned
  unfold andThen
  rcases ran : action.run.run state with ⟨error | middle, between⟩
  · rw [ran] at returned
    cases returned
  · rw [ran] at returned
    obtain ⟨holds', saved, collects⟩ := first state middle between holds ran
    obtain ⟨holds'', saved', collects'⟩ := rest middle between value after holds' returned
    exact ⟨holds'', saved'.trans saved, collects.trans collects'⟩

/-- A sequence of actions that capture nothing captures nothing. -/
theorem quiet {action : Render α} (first : Gathers action nothing) {next : α → Render β}
    (rest : ∀ value, Gathers (next value) nothing) : Gathers (action >>= next) nothing := by
  rw [← nothing_andThen_nothing action]
  exact bind first rest

theorem inFrame (frame : Frame) {action : Render α} {history : History}
    (h : Gathers action history) :
    Gathers (Render.inFrame frame action) (history.inFrame frame) := by
  intro state value after holds returned
  rw [Render.inFrame_run] at returned
  obtain ⟨result, rfl⟩ := Prod.mk.inj returned
  obtain ⟨holds', saved, collects⟩ :=
    h (state.pushFrame frame) value _ ⟨holds.blocks, holds.store⟩ (Prod.ext result rfl)
  exact ⟨⟨holds'.blocks, holds'.store⟩, saved, collects⟩

theorem forEach {action : β → Render Unit} {history : β → History}
    (h : ∀ thing, Gathers (action thing) (history thing)) (things : List β) :
    Gathers (Render.forEach action things) (History.forEach history action things) := by
  induction things with
  | nil => exact .pure _
  | cons thing rest ih => exact .bind (h thing) fun _ => ih

theorem repeatWhile {position : Position} {condition : Render Bool} {action : Render Unit}
    {history : History} (test : Gathers condition nothing) (body : Gathers action history)
    (turns : Nat) :
    Gathers (Render.repeatWhile position condition action turns)
      (History.repeatWhile condition history action turns) := by
  induction turns with
  | zero => exact .throw _ _
  | succ turns ih =>
    refine .bind test fun holds => ?_
    split
    · exact .bind body fun _ => ih
    · exact .pure _

/-- **A capture gathers** what its body does, and then the text of its target. -/
theorem capture {body : Render Unit} {history : History} (h : Gathers body history)
    (slot : String) :
    Gathers (do modify (·.saveTarget); body; modify (·.mergeTarget slot))
      (nothing.andThen (modify (·.saveTarget)) fun _ =>
        history.andThen body fun _ => History.mergeTarget slot) := by
  intro state value after holds returned
  rw [run_bind, run_modify] at returned
  dsimp only at returned
  rw [run_bind] at returned
  rcases ran : body.run.run state.saveTarget with ⟨error | _, inner⟩
  · rw [ran] at returned
    cases returned
  · rw [ran] at returned
    obtain ⟨holds', saved, collects⟩ :=
      h state.saveTarget () inner ⟨holds.blocks, holds.store⟩ ran
    cases returned
    have gathered : (nothing.andThen (modify (·.saveTarget)) fun _ =>
        history.andThen body fun _ => History.mergeTarget slot) state =
          history state.saveTarget ++ [(slot, inner.target.default)] := by
      unfold andThen
      dsimp only [run_modify]
      rw [ran]
      rfl
    dsimp only
    rw [RenderState.mergeTarget_of_saved saved, gathered]
    exact ⟨⟨holds'.blocks, holds'.store⟩, rfl, Target.merge_collects collects state.target slot⟩

end Gathers

/-! ## Steps -/

theorem stepsHistory_cons (views : String → Option Value → Position → History) (origin : Nat)
    (step : Step) (rest : List Step) :
    stepsHistory environment calls views origin (step :: rest) =
      (stepHistory environment calls views origin step).andThen
        (executeStep environment calls origin step)
        fun _ => stepsHistory environment calls views origin rest := rfl

/-- What evaluations and calls of views have to do for steps to gather. -/
structure CallsGather (environment : Environment) (calls : Calls)
    (views : String → Option Value → Position → History) : Prop where
  evaluate : ∀ expression, evaluating.Bounds (evaluateExpression environment calls expression)
  run : ∀ action, evaluating.Bounds (runAction environment calls action)
  view : ∀ path overrides position,
    Gathers (calls.view path overrides position) (views path overrides position)

section

variable {views : String → Option Value → Position → History}

open History

theorem writeValue_gathers (value : Value) : Gathers (modify (·.writeValue value)) nothing := by
  unfold RenderState.writeValue
  cases value.isNullish with
  | true => exact .pure _
  | false => exact .write _

theorem optional_gathers {origin : Nat} {body? : Option (List Step)}
    (bodies : ∀ body ∈ body?, Gathers (executeSteps environment calls origin body)
      (stepsHistory environment calls views origin body)) :
    Gathers (executeStep.executeOptional environment calls origin body?)
      (stepHistory.optionalHistory environment calls views origin body?) := by
  cases body? with
  | none => exact .pure _
  | some body => exact .inFrame [] (bodies body rfl)

theorem cases_gathers (keeps : CallsGather environment calls views) {origin : Nat} {value : Value}
    {fallback : Render Unit} {history : History} (otherwise : Gathers fallback history)
    (cases : List (Expression × List Step))
    (bodies : ∀ case ∈ cases, Gathers (executeSteps environment calls origin case.2)
      (stepsHistory environment calls views origin case.2)) :
    Gathers (executeStep.executeCases environment calls origin value fallback cases)
      (stepHistory.casesHistory environment calls views origin value history cases) := by
  induction cases with
  | nil => exact otherwise
  | cons case rest ih =>
    refine .bind (.of_evaluating (keeps.evaluate case.1)) fun found => ?_
    split
    · exact .inFrame [] (bodies case List.mem_cons_self)
    · exact ih fun other mem => bodies other (List.mem_cons_of_mem _ mem)

/-- **A step that switches no target gathers what its history says**, when the steps
directly inside it do. -/
theorem step_gathers (keeps : CallsGather environment calls views) {origin : Nat} (step : Step)
    (leaves : ¬step.SwitchesTarget) (balanced : ∀ body ∈ step.bodies, Balanced body)
    (bodies : ∀ body ∈ step.bodies, Gathers (executeSteps environment calls origin body)
      (stepsHistory environment calls views origin body)) :
    Gathers (executeStep environment calls origin step)
      (stepHistory environment calls views origin step) := by
  have evaluate (expression : Expression) :
      Gathers (evaluateExpression environment calls expression) nothing :=
    .of_evaluating (keeps.evaluate expression)
  have run (action : Action) : Gathers (runAction environment calls action) nothing :=
    .of_evaluating (keeps.run action)
  cases step with
  | text | comment | cdata | doctype | closeTag => exact .write _
  | openTag name attributes =>
    exact .quiet (.of_evaluating (buildAttributes_bounds keeps.evaluate attributes []))
      fun _ => .write _
  | block body => exact .inFrame [] (bodies body (by simp [Step.bodies]))
  | branch condition consequent alternate =>
    refine .bind (evaluate condition) fun value => ?_
    split
    · exact .inFrame [] (bodies consequent (by simp [Step.bodies]))
    · exact optional_gathers fun body mem =>
        bodies body (by simp [Step.bodies, Option.mem_def.mp mem])
  | switch expression cases fallback =>
    refine .bind (evaluate expression) fun value => cases_gathers keeps ?_ cases fun case mem => ?_
    · exact optional_gathers fun body mem =>
        bodies body (by simp [Step.bodies, Option.mem_def.mp mem])
    · exact bodies case.2 (List.mem_append_left _ (List.mem_map_of_mem mem))
  | foreach identifiers collection body empty =>
    refine .bind (evaluate collection) fun value => ?_
    cases collectionAt collection.position value with
    | error error => exact .throw _ _
    | ok items =>
      change Gathers (ite _ _ _) (ite _ _ _)
      split
      · exact optional_gathers fun body mem =>
          bodies body (by simp [Step.bodies, Option.mem_def.mp mem])
      · exact .forEach (fun _ => .inFrame _ (bodies body (by simp [Step.bodies]))) items
  | loop condition body =>
    exact .repeatWhile (.quiet (evaluate condition) fun _ => .pure _)
      (.inFrame [] (bodies body (by simp [Step.bodies]))) _
  | renderPartial path context position =>
    cases context with
    | none => exact keeps.view path none position
    | some expression =>
      change Gathers (some <$> evaluateExpression environment calls expression >>= _) _
      rw [bind_map_left]
      exact .bind (evaluate expression) fun value => keeps.view path (some value) position
  | renderContent slot =>
    cases slot with
    | none => exact fun state => Gathers.write state.target.layoutContent state
    | some slot => exact fun state => Gathers.write (state.target.slot slot) state
  | saveTarget | mergeTarget slot => exact absurd trivial leaves
  | renderValue expression => exact .quiet (evaluate expression) fun _ => writeValue_gathers _
  | renderAction action => exact .quiet (run action) fun _ => writeValue_gathers _
  | printBlock expression parameters body =>
    have bound : Balanced body := balanced body (by simp [Step.bodies])
    have bind := evaluating_bindBlock ⟨origin, expression.position, parameters, body⟩ bound
    refine .quiet (.of_evaluating (.modifyGet bind)) fun index => ?_
    exact .quiet (.inFrame _ (evaluate expression)) fun _ => writeValue_gathers _
  | execute action => exact .quiet (run action) fun _ => .pure _
  | setLayout path =>
    rintro state _ _ holds ⟨⟩
    dsimp only
    split
    · exact ⟨⟨holds.blocks, holds.store⟩, rfl, .refl _⟩
    · exact ⟨holds, rfl, .refl _⟩

theorem stepsHistory_append (origin : Nat) (first rest : List Step) :
    stepsHistory environment calls views origin (first ++ rest) =
      (stepsHistory environment calls views origin first).andThen
        (executeSteps environment calls origin first)
        fun _ => stepsHistory environment calls views origin rest := by
  induction first with
  | nil => rfl
  | cons step others ih =>
    rw [List.cons_append, stepsHistory_cons, stepsHistory_cons, ih, executeSteps_cons,
      andThen_assoc]

/-- **Balanced steps gather what their history says**: by induction on the derivation that
they are balanced. -/
theorem steps_gather (keeps : CallsGather environment calls views) (origin : Nat)
    {steps : List Step} (balanced : Balanced steps) :
    Gathers (executeSteps environment calls origin steps)
      (stepsHistory environment calls views origin steps) := by
  induction balanced with
  | nil => exact .pure _
  | @step step rest leaves inside _ ihInside ihNext =>
    exact .bind (step_gathers keeps step leaves inside ihInside) fun _ => ihNext
  | @capture slot body rest _ _ ihInside ihNext =>
    rw [executeSteps_capture]
    -- The history of the steps in a row, read as that of one capture and the rest.
    have unfolded : stepsHistory environment calls views origin
        (.saveTarget :: (body ++ .mergeTarget slot :: rest)) =
        (nothing.andThen (modify (·.saveTarget)) fun _ =>
          (stepsHistory environment calls views origin body).andThen
            (executeSteps environment calls origin body) fun _ => History.mergeTarget slot).andThen
          (do
            modify (·.saveTarget)
            executeSteps environment calls origin body
            modify (·.mergeTarget slot))
          fun _ => stepsHistory environment calls views origin rest := by
      rw [stepsHistory_cons, stepsHistory_append, stepsHistory_cons]
      rw [← andThen_assoc, ← andThen_assoc]
      rfl
    rw [unfolded]
    exact .bind (.capture ihInside slot) fun _ => ihNext

end

/-! ## Calls and levels -/

/-- The call of a view gathers what its steps do. -/
theorem view_gathers {execute : Executor} {within : Nat → List Step → History}
    (steps : ∀ origin {steps}, Balanced steps →
      Gathers (execute origin steps) (within origin steps))
    (path : String) (overrides : Option Value) (position : Position) :
    Gathers (callView environment execute path overrides position)
      (viewHistory environment within path overrides position) := by
  intro state value after holds returned
  rw [callView_run] at returned
  unfold viewHistory
  split
  · rename_i full
    rw [if_pos full] at returned
    cases returned
  · rename_i room
    rw [if_neg room] at returned
    have compiled := compileView_balanced environment path holds.store
    generalize (environment.compileView path).run.run state.store = result at compiled returned ⊢
    rcases result with ⟨error | view, store⟩
    · cases returned
    · obtain ⟨balanced, kept⟩ := compiled
      dsimp only at returned ⊢
      cases overridden : overriddenFields state.context overrides position with
      | error error =>
        rw [overridden] at returned
        cases returned
      | ok fields =>
        rw [overridden] at returned
        dsimp only at returned ⊢
        rcases ran : (execute view.serial view.program.steps).run.run
          (state.enterView store fields) with ⟨result, inner⟩
        rw [ran] at returned
        obtain ⟨rfl, rfl⟩ := Prod.mk.inj returned
        obtain ⟨holds', saved, collects⟩ :=
          steps view.serial balanced (state.enterView store fields) value inner
            ⟨holds.blocks, kept⟩ ran
        exact ⟨⟨holds'.blocks, holds'.store⟩, saved, collects⟩

/-- **Executions of balanced steps gather what their history says on every level**, by
induction on the levels below. -/
theorem executeWithin_gathers (levels origin : Nat) {steps : List Step}
    (balanced : Balanced steps) :
    Gathers (executeWithin environment levels origin steps)
      (historyWithin environment levels origin steps) := by
  induction levels generalizing origin steps with
  | zero => exact .pure _
  | succ levels ih =>
    have scope : (renderScope environment
        (callsBy environment (executeWithin environment levels))).Keeps evaluating :=
      scope_evaluating fun origin _ => executeWithin_appending levels origin
    refine steps_gather ⟨evaluateExpression_bounds scope,
      runAction_bounds scope evaluating_declare, ?_⟩ origin balanced
    exact view_gathers fun origin _ => ih origin

end ViewTemplate
