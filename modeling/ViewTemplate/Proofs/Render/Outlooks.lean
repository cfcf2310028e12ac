import ViewTemplate.Proofs.Render.Captures

/-!
# What content can be written where

A step that writes content writes the text that the layout wraps, or what was captured for
a slot.  Both are kept in the current target, and bodies that capture their output run on a
target of their own.  So what such a step writes depends on where it stands, and this can be
said without a word about targets.

An outlook is what can be written at some place: the text that the layout wraps, and what
was captured so far.  In the body of a capture or of a print block the outlook is empty at
first.  When a capture ends, all that was captured in its body is captured for the place
around it, and then what the body wrote; what was captured in a print block is forgotten.
Everything else, views that are rendered in place among it, leaves the outlook alone.

Executions are observed as follows.  Beside the execution, and from its steps alone, the
outlooks are kept up to date, and whenever content is written, the text that it adds to the
output is compared with the outlook.  If they differ, the alarm is raised.

## Main Definitions

* `Outlook`, `Outlook.text` — what can be written at some place
* `Outlooks` — the outlook of a place and those of the captures around it
* `Observed` — actions that keep outlooks
* `observedStep`, `observedWithin` — observed executions
* `Outlook.Shows` — an outlook shows what a target holds
-/

namespace ViewTemplate

variable {α β : Type}

/-! ## Outlooks -/

/-- **What content can be written at some place.** -/
structure Outlook where
  /-- The text that the layout wraps. -/
  content : String := ""
  /-- What was captured so far. -/
  captured : SlotTexts := []

/-- The text of a slot, or without one the text that the layout wraps. -/
def Outlook.text (outlook : Outlook) : Option String → String
  | none => outlook.content
  | some slot => capturedText outlook.captured slot

/-- The outlook of a place inside captures, and those around it, innermost first. -/
structure Outlooks where
  here : Outlook := {}
  around : List Outlook := []

namespace Outlooks

/-- A capture starts with nothing to be written. -/
def enter (outlooks : Outlooks) : Outlooks :=
  ⟨{}, outlooks.here :: outlooks.around⟩

/-- When a capture ends, all that it captured is captured for the place around it, and then
the text that it wrote. -/
def leave (slot text : String) (outlooks : Outlooks) : Outlooks :=
  match outlooks.around with
  | [] => outlooks
  | outer :: around =>
    let captured := outer.captured ++ (outlooks.here.captured ++ [(slot, text)])
    ⟨{ outer with captured }, around⟩

end Outlooks

/-! ## Observed actions -/

/-- Actions of a render that keep outlooks. -/
abbrev Observed := StateT Outlooks Render

namespace Observed

/-- A capture starts. -/
def opening : Observed Unit := fun outlooks => do
  modify (·.saveTarget)
  return ((), outlooks.enter)

/-- A capture ends. -/
def closing (slot : String) : Observed Unit := fun outlooks => do
  let text := (← get).output
  modify (·.mergeTarget slot)
  return ((), outlooks.leave slot text)

/-- **Content is written**, and the text that was added to the output is compared with the
outlook. -/
def content (alarm : RenderError) (slot : Option String) : Observed Unit := fun outlooks => do
  let before := (← get).output
  modify (·.writeContent slot)
  if (← get).output = before ++ outlooks.here.text slot then
    return ((), outlooks)
  else
    throw alarm

/-- Does something in a new innermost frame. -/
def inFrame (frame : Frame) (action : Observed α) : Observed α := fun outlooks =>
  Render.inFrame frame (action.run outlooks)

/-- Does something for each of several things, in order. -/
def forEach (action : β → Observed Unit) : List β → Observed Unit
  | [] => return ()
  | thing :: rest => do
    action thing
    forEach action rest

/-- Does something again and again while a condition holds, at most `turns` times. -/
def repeatWhile (position : Position) (condition : Render Bool) (action : Observed Unit) :
    (turns : Nat) → Observed Unit
  | 0 => throw (.tooManyTurns position)
  | turns + 1 => do
    if ← condition then
      action
      repeatWhile position condition action turns

/-- Does something with nothing to be written at first, and forgets what it captured. -/
def aside (action : Observed α) : Render α :=
  action.run' {}

variable (outlooks : Outlooks) (state : RenderState)

theorem opening_run :
    (opening.run outlooks).run.run state = (.ok ((), outlooks.enter), state.saveTarget) := rfl

theorem closing_run (slot : String) :
    ((closing slot).run outlooks).run.run state =
      (.ok ((), outlooks.leave slot state.output), state.mergeTarget slot) := rfl

theorem content_run (alarm : RenderError) (slot : Option String) :
    ((content alarm slot).run outlooks).run.run state =
      let after := state.writeContent slot
      if after.output = state.output ++ outlooks.here.text slot then
        (.ok ((), outlooks), after)
      else
        (.error alarm, after) := by
  change (if _ then _ else _ : Render (Unit × Outlooks)).run.run _ = ite _ _ _
  split
  · rfl
  · rfl

theorem inFrame_run (frame : Frame) (action : Observed α) :
    ((action.inFrame frame).run outlooks).run.run state =
      (((action.run outlooks).run.run (state.pushFrame frame)).1,
        ((action.run outlooks).run.run (state.pushFrame frame)).2.popFrame) := rfl

/-- Actions that keep no outlooks leave them alone. -/
theorem lift_run (action : Render α) :
    ((liftM action : Observed α).run outlooks).run.run state =
      match action.run.run state with
      | (.ok value, after) => (.ok (value, outlooks), after)
      | (.error error, after) => (.error error, after) := by
  change (action >>= fun value => pure (value, outlooks)).run.run state = _
  rw [run_bind]
  rcases action.run.run state with ⟨error | value, after⟩
  · rfl
  · rfl

theorem aside_run (action : Observed α) :
    action.aside.run.run state =
      match (action.run {}).run.run state with
      | (.ok (value, _), after) => (.ok value, after)
      | (.error error, after) => (.error error, after) := by
  rw [aside, StateT.run'_eq, map_eq_pure_bind, run_bind]
  rcases (action.run {}).run.run state with ⟨error | value, after⟩
  · rfl
  · rfl

end Observed

/-! ## Observed executions -/

/-- How steps of the program of some compilation are executed and observed. -/
abbrev Observer := Nat → List Step → Observed Unit

section

variable (environment : Environment) (alarm : RenderError) (calls : Calls)
  (views : String → Option Value → Position → Observed Unit)

open Observed

/-- **An observed step**, given the calls that its expressions make and how views are
rendered in place. -/
def observedStep (origin : Nat) : Step → Observed Unit
  | .block body => inFrame [] (observedSteps origin body)
  | .branch condition consequent alternate => do
    if (← evaluateExpression environment calls condition).isTruthy then
      inFrame [] (observedSteps origin consequent)
    else
      observedOptional origin alternate
  | .switch expression cases fallback => do
    let value ← evaluateExpression environment calls expression
    observedCases origin value (observedOptional origin fallback) cases
  | .foreach identifiers collection body empty => do
    let value ← evaluateExpression environment calls collection
    let items ← (MonadExcept.ofExcept (collectionAt collection.position value) : Render _)
    if items.isEmpty then
      observedOptional origin empty
    else
      let run := observedSteps origin body
      forEach (fun values => inFrame (itemFrame identifiers values) run) items
  | .loop condition body =>
    repeatWhile condition.position
      (return (← evaluateExpression environment calls condition).isTruthy)
      (inFrame [] (observedSteps origin body))
      environment.turns
  | .renderPartial path none position => views path none position
  | .renderPartial path (some expression) position => do
    views path (some (← evaluateExpression environment calls expression)) position
  | .renderContent slot => content alarm slot
  | .saveTarget => opening
  | .mergeTarget slot => closing slot
  | step => executeStep environment calls origin step
where
  /-- Observed steps, in order. -/
  observedSteps (origin : Nat) : List Step → Observed Unit
    | [] => return ()
    | step :: rest => do
      observedStep origin step
      observedSteps origin rest
  /-- Observed steps with variables of their own, if there are any. -/
  observedOptional (origin : Nat) : Option (List Step) → Observed Unit
    | none => return ()
    | some body => inFrame [] (observedSteps origin body)
  /-- The first case whose value equals `value`, observed, or else the fallback. -/
  observedCases (origin : Nat) (value : Value) (fallback : Observed Unit) :
      List (Expression × List Step) → Observed Unit
    | [] => fallback
    | (expression, body) :: rest => do
      if (← evaluateExpression environment calls expression).strictEquals value then
        inFrame [] (observedSteps origin body)
      else
        observedCases origin value fallback rest

/-- Observed steps, in order. -/
def observedSteps (origin : Nat) (steps : List Step) : Observed Unit :=
  observedStep.observedSteps environment alarm calls views origin steps

end

/-- **A view that is rendered in place** has the outlook of its place. -/
def observedView (environment : Environment) (observe : Observer) (path : String)
    (overrides : Option Value) (position : Position) : Observed Unit := fun outlooks =>
  ExceptT.mk fun state =>
    if maxDepth ≤ state.depth then (.error (.tooDeep path position), state)
    else
      match (environment.compileView path).run.run state.store with
      | (.error error, store) => (.error (.view error), { state with store })
      | (.ok view, store) =>
        match overriddenFields state.context overrides position with
        | .error error => (.error error, { state with store })
        | .ok fields =>
          let (result, after) := ((observe view.serial view.program.steps).run outlooks).run.run
            (state.enterView store fields)
          (result, state.leaveView after)

theorem observedView_run (environment : Environment) (observe : Observer) (path : String)
    (overrides : Option Value) (position : Position) (outlooks : Outlooks)
    (state : RenderState) :
    ((observedView environment observe path overrides position).run outlooks).run.run state =
      if maxDepth ≤ state.depth then (.error (.tooDeep path position), state)
      else
        match (environment.compileView path).run.run state.store with
        | (.error error, store) => (.error (.view error), { state with store })
        | (.ok view, store) =>
          match overriddenFields state.context overrides position with
          | .error error => (.error error, { state with store })
          | .ok fields =>
            let (result, after) := ((observe view.serial view.program.steps).run
              outlooks).run.run (state.enterView store fields)
            (result, state.leaveView after) := rfl

/-- **Observed executions** of steps whose calls are `levels` deep at most.  Print blocks
have outlooks of their own. -/
def observedWithin (environment : Environment) (alarm : RenderError) : (levels : Nat) → Observer
  | 0 => fun _ _ => return ()
  | levels + 1 =>
    let observe := observedWithin environment alarm levels
    observedSteps environment alarm
      (callsBy environment fun origin steps => (observe origin steps).aside)
      (observedView environment observe)

/-! ## Outlooks and targets -/

/-- **An outlook shows what a target holds.** -/
structure Outlook.Shows (outlook : Outlook) (target : Target) : Prop where
  content : target.layoutContent = outlook.content
  captured : Target.Collects {} outlook.captured target

namespace Outlook.Shows

variable {outlook inner : Outlook} {target ended : Target}

/-- A new target holds nothing. -/
theorem nothing : Outlook.Shows {} {} :=
  ⟨rfl, .refl _⟩

/-- Writing adds nothing that content could be. -/
theorem append (shows : outlook.Shows target) (text : String) :
    outlook.Shows (target.append text) :=
  ⟨shows.content, shows.captured.distinct, shows.captured.slot⟩

/-- **A capture that ends** adds what it captured, and then its text. -/
theorem merge (shows : outlook.Shows target) (inside : inner.Shows ended) (slot : String) :
    Outlook.Shows
      { outlook with captured := outlook.captured ++ (inner.captured ++ [(slot, ended.default)]) }
      (target.merge ended (some slot)) where
  content := (target.merge_extends ended (some slot)).layoutContent.trans shows.content
  captured := shows.captured.trans (Target.merge_collects inside.captured target slot)

/-- **The text that content adds is that of the outlook.** -/
theorem output_writeContent {state : RenderState} (shows : outlook.Shows state.target)
    (slot : Option String) :
    (state.writeContent slot).output = state.output ++ outlook.text slot := by
  cases slot with
  | none => exact congrArg (state.output ++ ·) shows.content
  | some slot =>
    have text : state.target.slot slot = capturedText outlook.captured slot :=
      (shows.captured.slot slot).trans String.empty_append
    exact congrArg (state.output ++ ·) text

end Outlook.Shows

end ViewTemplate
