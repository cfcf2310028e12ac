import ViewTemplate.Proofs.Render.Interruptions
import ViewTemplate.Proofs.Render.TargetStack
import ViewTemplate.Proofs.Snippet.EvaluationAnnotation

/-!
# Captures that stay open

What a failure leaves on the stack of targets.

A capture that fails half way leaves its target where it is, and a print block that fails ends one
target, the newest.  So the targets of the captures that a failure interrupts stay, no matter how
far out it goes: where a print block is called and fails in the midst of captures of its own, the
newest of these takes the place of the block, and the target of the block stays in its stead.

Nothing is lost below.  Under the targets that stay are all those that were there before, in the
same order, and none of them was written to but the one that was current
(`failed_call_leaves_interrupted`).

## Main Definitions

* `RenderState.LeavesOpen` — some targets stay above a target and those below it
* `interruptingEvaluation`, `interrupting` — what the failures of evaluations and of executions
  leave behind, with the number of captures that they interrupt
* `CallsCounted`, `ExecutionsCounted` — calls and executions, and what is counted of them
-/

namespace ViewTemplate

open Snippet

variable {α β : Type} {environment : Environment} {calls : Calls} {counted : CountedCalls}

/-! ## Failures and their form without a count -/

namespace Interruption

/-- The failure of an evaluation, without a count. -/
def causeOf (cause : EvalError Interruption) : EvalError RenderError :=
  match cause.own with
  | .error interruption => .failed interruption.error
  | .ok own => own.raise

/-- How many captures the failure of an evaluation interrupts. -/
def capturesOf (cause : EvalError Interruption) : Nat :=
  match cause.own with
  | .error interruption => interruption.captures
  | .ok _ => 0

theorem causeOf_raise (cause : EvalError Empty) : causeOf cause.raise = cause.raise := by
  rw [causeOf, EvalError.own_raise]

theorem capturesOf_raise (cause : EvalError Empty) : capturesOf cause.raise = 0 := by
  rw [capturesOf, EvalError.own_raise]

/-- A failed evaluation is reported as the same error, counted or not. -/
theorem error_ofEval (position : Position) (cause : EvalError Interruption) :
    (ofEval position cause).error = RenderError.ofEval position (causeOf cause) := by
  unfold ofEval causeOf
  cases cause.own with
  | error interruption => rfl
  | ok own =>
    dsimp only [RenderError.ofEval]
    rw [EvalError.own_raise]
    rfl

/-- And it interrupts the same captures. -/
theorem captures_ofEval (position : Position) (cause : EvalError Interruption) :
    (ofEval position cause).captures = capturesOf cause := by
  unfold ofEval capturesOf
  cases cause.own with
  | error interruption => rfl
  | ok own => rfl

end Interruption

/-! ## Targets that stay -/

/-- **Some targets stay** above a target, under which are those that were waiting before. -/
def RenderState.LeavesOpen (before : RenderState) (target : Target) (captures : Nat)
    (after : RenderState) : Prop :=
  ∃ left : List Target,
    left.length = captures ∧ after.target :: after.saved = left ++ target :: before.saved

namespace RenderState.LeavesOpen

variable {before after inner : RenderState} {target : Target} {captures : Nat}

/-- Where nothing was started, nothing stays. -/
theorem of_eq (saved : after.saved = before.saved) (target : after.target = before.target) :
    before.LeavesOpen before.target 0 after :=
  ⟨[], rfl, by rw [saved, target]; rfl⟩

/-- All targets are back exactly if none stays above them. -/
theorem eq_iff (h : before.LeavesOpen before.target captures after) :
    after.target = before.target ∧ after.saved = before.saved ↔ captures = 0 := by
  obtain ⟨left, rfl, stack⟩ := h
  constructor
  · rintro ⟨-, saved⟩
    have lengths := congrArg List.length stack
    rw [List.length_append, List.length_cons, List.length_cons, saved] at lengths
    omega
  · intro none
    rw [List.eq_nil_of_length_eq_zero none] at stack
    exact List.cons.inj stack

/-- What is interrupted in a capture interrupts the capture as well: its target stays. -/
theorem of_saveTarget (h : before.saveTarget.LeavesOpen target captures after) :
    before.LeavesOpen before.target (captures + 1) after := by
  obtain ⟨left, rfl, stack⟩ := h
  exact ⟨left ++ [target], List.length_append, by simpa [saveTarget] using stack⟩

/-- **A print block that fails ends one target.**  As many stay as captures are interrupted in
it: where there are any, the newest of them is ended and that of the block stays. -/
theorem leaveBlock {frame : Frame}
    (h : (before.enterBlock frame).LeavesOpen target captures inner) :
    before.LeavesOpen before.target captures inner.leaveBlock := by
  obtain ⟨left, rfl, stack⟩ := h
  have ended {newest : Target} {rest : List Target} (saved : inner.saved = newest :: rest) :
      inner.leaveBlock.target :: inner.leaveBlock.saved = newest :: rest := by
    have ⟨target, saved⟩ := RenderState.leaveBlock_of_saved saved
    rw [target, saved]
  have waiting : (before.enterBlock frame).saved = before.target :: before.saved := rfl
  rw [waiting] at stack
  cases left with
  | nil => exact ⟨[], rfl, ended (List.cons.inj stack).2⟩
  | cons newest others =>
    have saved := (List.cons.inj stack).2
    refine ⟨others ++ [target], by simp, ?_⟩
    rw [List.append_assoc]
    cases others with
    | nil => exact ended saved
    | cons next rest => exact ended saved

end RenderState.LeavesOpen

/-! ## Annotations -/

/-- **What evaluations that fail leave behind**: the targets of the captures that are interrupted
stay above those that were there, which are as they were. -/
def interruptingEvaluation :
    Annotation RenderState (EvalError RenderError) (EvalError Interruption) where
  holds := RenderState.HoldsBalanced
  returns := evaluating.returns
  throws before cause cause' after :=
    cause = Interruption.causeOf cause' ∧
      before.LeavesOpen before.target (Interruption.capturesOf cause') after
  returns_refl := evaluating.returns_refl
  returns_trans := evaluating.returns_trans
  holds_after holds h := (h holds).1
  throws_after holds h thrown := by
    obtain ⟨-, saved, target⟩ := h holds
    refine ⟨thrown.1, ?_⟩
    have left := thrown.2
    rw [target, RenderState.LeavesOpen, saved] at left
    exact left

/-- **What executions that fail leave behind**, inside a number of captures that were open before:
the same, but that the target which was current has been written to. -/
def interrupting (opened : Nat) : Annotation RenderState RenderError Interruption where
  holds := RenderState.HoldsBalanced
  returns := appending.returns
  throws before error interruption after :=
    error = interruption.error ∧ ∃ target captures, before.target.Extends target ∧
      interruption.captures = opened + captures ∧ before.LeavesOpen target captures after
  returns_refl := appending.returns_refl
  returns_trans := appending.returns_trans
  holds_after holds h := (h holds).1
  throws_after holds h thrown := by
    obtain ⟨-, saved, grown⟩ := h holds
    obtain ⟨same, target, captures, grown', counted, left⟩ := thrown
    rw [RenderState.LeavesOpen, saved] at left
    exact ⟨same, target, captures, grown.trans grown', counted, left⟩

/-- A failure outside of all captures that leaves the targets alone. -/
theorem interrupting_bare (error : RenderError) {state after : RenderState}
    (saved : after.saved = state.saved) (target : after.target = state.target) :
    (interrupting 0).throws state error (.bare error) after :=
  ⟨rfl, state.target, 0, .refl _, rfl, .of_eq saved target⟩

namespace Annotation.Annotates

/-- Snippets of templates. -/
theorem snippet {action : Eval RenderState RenderError α}
    {action' : Eval RenderState Interruption α} (position : Position)
    (h : interruptingEvaluation.Annotates action action') :
    (interrupting 0).Annotates (action.adapt (RenderError.ofEval position))
      (action'.adapt (Interruption.ofEval position)) := by
  intro state holds
  rw [run_adapt, run_adapt]
  have alike := h state holds
  generalize action.run.run state = result at alike ⊢
  generalize action'.run.run state = result' at alike ⊢
  cases alike with
  | ok same =>
    refine .ok fun holds => ?_
    obtain ⟨holds', saved, target⟩ := same holds
    exact ⟨holds', saved, target ▸ .refl _⟩
  | @error cause cause' after said =>
    obtain ⟨rfl, left⟩ := said
    have same := (Interruption.error_ofEval position cause').symm
    refine .error ⟨same, state.target, _, .refl _, ?_, left⟩
    rw [Interruption.captures_ofEval, Nat.zero_add]

/-- What is inside captures of a list of steps interrupts these as well. -/
theorem within {action : Render α} {action' : Counted α} (opened : Nat)
    (h : (interrupting 0).Annotates action action') :
    (interrupting opened).Annotates action (action'.adapt (.within opened)) := by
  intro state holds
  rw [run_adapt]
  have alike := h state holds
  generalize action.run.run state = result at alike ⊢
  generalize action'.run.run state = result' at alike ⊢
  cases alike with
  | ok same => exact .ok same
  | @error error interruption after said =>
    obtain ⟨rfl, target, captures, grown, counted, left⟩ := said
    refine .error ⟨rfl, target, captures, grown, ?_, left⟩
    change opened + interruption.captures = _
    rw [counted, Nat.zero_add]

theorem inFrame {action : Render α} {action' : Counted α} (frame : Frame)
    (h : (interrupting 0).Annotates action action') :
    (interrupting 0).Annotates (Render.inFrame frame action) (Counted.inFrame frame action') := by
  intro state holds
  have alike := h (state.pushFrame frame) ⟨holds.blocks, holds.store⟩
  change (interrupting 0).Allows state
    ((action.run.run (state.pushFrame frame)).1,
      (action.run.run (state.pushFrame frame)).2.popFrame)
    ((action'.run.run (state.pushFrame frame)).1,
      (action'.run.run (state.pushFrame frame)).2.popFrame)
  generalize action.run.run (state.pushFrame frame) = result at alike ⊢
  generalize action'.run.run (state.pushFrame frame) = result' at alike ⊢
  cases alike with
  | ok same => exact .ok (appending_state.popFrame frame same)
  | error said => exact .error said

theorem forEach {action : β → Render Unit} {action' : β → Counted Unit}
    (h : ∀ thing, (interrupting 0).Annotates (action thing) (action' thing)) (things : List β) :
    (interrupting 0).Annotates (Render.forEach action things) (Counted.forEach action' things) := by
  induction things with
  | nil => exact .pure _
  | cons thing rest ih => exact .bind (h thing) fun _ => ih

theorem repeatWhile {position : Position} {condition : Render Bool} {condition' : Counted Bool}
    {action : Render Unit} {action' : Counted Unit}
    (test : (interrupting 0).Annotates condition condition')
    (body : (interrupting 0).Annotates action action') (turns : Nat) :
    (interrupting 0).Annotates (Render.repeatWhile position condition action turns)
      (Counted.repeatWhile position condition' action' turns) := by
  induction turns with
  | zero => exact .throw fun state => interrupting_bare _ rfl rfl
  | succ turns ih =>
    refine .bind test fun holds => ?_
    split
    · exact .bind body fun _ => ih
    · exact .pure _

end Annotation.Annotates

/-! ## Steps -/

theorem countedOptional_annotates {origin : Nat} {body? : Option (List Step)}
    (bodies : ∀ body ∈ body?, (interrupting 0).Annotates
      (executeSteps environment calls origin body)
      (countedSteps environment counted origin 0 body)) :
    (interrupting 0).Annotates (executeStep.executeOptional environment calls origin body?)
      (countedStep.countedOptional environment counted origin body?) := by
  cases body? with
  | none => exact .pure _
  | some body => exact .inFrame [] (bodies body rfl)

/-- **Calls and what is counted of them.** -/
structure CallsCounted (calls : Calls) (counted : CountedCalls) : Prop where
  view : ∀ path overrides position,
    (interrupting 0).Annotates (calls.view path overrides position)
      (counted.view path overrides position)
  block : ∀ index arguments,
    interruptingEvaluation.Annotates (calls.block index arguments) (counted.block index arguments)

namespace CallsCounted

variable (same : CallsCounted calls counted)

include same

/-- Expressions call nothing but print blocks. -/
theorem blocks : (renderScope environment calls).BlocksAnnotated counted.block
    interruptingEvaluation where
  assign := evaluating_assign
  callBlock := same.block
  raise state cause := by
    refine ⟨(Interruption.causeOf_raise cause).symm, ?_⟩
    rw [Interruption.capturesOf_raise]
    exact .of_eq rfl rfl

theorem evaluate (expression : Expression) :
    (interrupting 0).Annotates (evaluateExpression environment calls expression)
      (countedExpression environment counted expression) :=
  .snippet _ (evaluate_annotates same.blocks expression.body)

theorem run (action : Action) :
    (interrupting 0).Annotates (runAction environment calls action)
      (countedAction environment counted action) :=
  .snippet _ (Statement.run_annotates same.blocks evaluating_declare action.body)

theorem text (parts : List AttributePart) :
    (interrupting 0).Annotates (attributeText environment calls parts)
      (countedText environment counted parts) := by
  induction parts with
  | nil => exact .pure _
  | cons part rest ih =>
    cases part with
    | literal text => exact .bind ih fun _ => .pure _
    | expression expression =>
      exact .bind (same.evaluate expression) fun _ => .bind ih fun _ => .pure _

theorem attributes (steps : List AttributeStep) (attributes : AttributeSet) :
    (interrupting 0).Annotates (buildAttributes environment calls attributes steps)
      (countedAttributes environment counted attributes steps) := by
  induction steps generalizing attributes with
  | nil => exact .pure _
  | cons step rest ih =>
    cases step with
    | plain name value =>
      cases value with
      | none => exact ih _
      | some value => exact .bind (same.text _) fun _ => ih _
    | bound name quote expression => exact .bind (same.evaluate expression) fun _ => ih _
    | conditional name condition | append name quote suffix condition =>
      refine .bind (same.evaluate condition) fun value => ?_
      split
      · exact ih _
      · exact ih _

variable {origin : Nat}

theorem cases {value : Value} {fallback : Render Unit} {fallback' : Counted Unit}
    (otherwise : (interrupting 0).Annotates fallback fallback')
    (cases : List (Expression × List Step))
    (bodies : ∀ case ∈ cases, (interrupting 0).Annotates
      (executeSteps environment calls origin case.2)
      (countedSteps environment counted origin 0 case.2)) :
    (interrupting 0).Annotates
      (executeStep.executeCases environment calls origin value fallback cases)
      (countedStep.countedCases environment counted origin value fallback' cases) := by
  induction cases with
  | nil => exact otherwise
  | cons case rest ih =>
    refine .bind (same.evaluate _) fun found => ?_
    split
    · exact .inFrame [] (bodies case List.mem_cons_self)
    · exact ih fun other mem => bodies other (List.mem_cons_of_mem _ mem)

/-- **A step that switches no target** interrupts what is interrupted inside it. -/
theorem step {step : Step} (own : step.OwnChange appending origin)
    (bodies : ∀ body ∈ step.bodies, (interrupting 0).Annotates
      (executeSteps environment calls origin body)
      (countedSteps environment counted origin 0 body)) :
    (interrupting 0).Annotates (executeStep environment calls origin step)
      (countedStep environment counted origin step) := by
  have writes (text : String) : (interrupting 0).Annotates
      (modify (·.write text) : Render Unit) (modify (·.write text)) :=
    .modify fun state => appending_state.write state text
  have writesValue (value : Value) : (interrupting 0).Annotates
      (modify (·.writeValue value) : Render Unit) (modify (·.writeValue value)) := by
    unfold RenderState.writeValue
    cases value.isNullish with
    | true => exact .modify appending.returns_refl
    | false => exact writes _
  cases step with
  | text | comment | cdata | doctype | closeTag => exact writes _
  | openTag name attributes => exact .bind (same.attributes attributes []) fun _ => writes _
  | block body => exact .inFrame [] (bodies body (by simp [Step.bodies]))
  | branch condition consequent alternate =>
    refine .bind (same.evaluate _) fun value => ?_
    split
    · exact .inFrame [] (bodies consequent (by simp [Step.bodies]))
    · exact countedOptional_annotates fun body mem =>
        bodies body (by simp [Step.bodies, Option.mem_def.mp mem])
  | switch expression cases fallback =>
    refine .bind (same.evaluate _) fun value => ?_
    refine same.cases ?_ cases fun case mem => ?_
    · exact countedOptional_annotates fun body mem =>
        bodies body (by simp [Step.bodies, Option.mem_def.mp mem])
    · exact bodies case.2 (List.mem_append_left _ (List.mem_map_of_mem mem))
  | foreach identifiers collection body empty =>
    refine .bind (same.evaluate _) fun value => ?_
    refine .bind (.ofExcept fun error state => interrupting_bare error rfl rfl) fun items => ?_
    split
    · exact countedOptional_annotates fun body mem =>
        bodies body (by simp [Step.bodies, Option.mem_def.mp mem])
    · exact .forEach (fun _ => .inFrame _ (bodies body (by simp [Step.bodies]))) items
  | loop condition body =>
    exact .repeatWhile (.bind (same.evaluate _) fun _ => .pure _)
      (.inFrame [] (bodies body (by simp [Step.bodies]))) _
  | renderPartial path context position =>
    cases context with
    | none => exact .bind (.pure _) fun _ => same.view _ _ _
    | some expression => exact .bind (.map _ (same.evaluate _)) fun _ => same.view _ _ _
  | renderContent slot =>
    cases slot with
    | none => exact .modify fun state => appending_state.write state _
    | some slot => exact .modify fun state => appending_state.write state _
  | saveTarget | mergeTarget slot => exact .modify own
  | renderValue expression => exact .bind (same.evaluate _) fun _ => writesValue _
  | renderAction action => exact .bind (same.run _) fun _ => writesValue _
  | printBlock expression parameters body =>
    refine .bind (.modifyGet own) fun index => ?_
    exact .bind (.inFrame _ (same.evaluate _)) fun _ => writesValue _
  | execute action => exact .bind (same.run _) fun _ => .pure _
  | setLayout path =>
    refine .modify fun state => ?_
    split
    · exact own state ‹_›
    · exact appending.returns_refl state

end CallsCounted

/-! ## Captures -/

/-- A step that switches no target leaves as many captures open as there were. -/
theorem Step.opens_of_keeps {step : Step} (keeps : ¬step.SwitchesTarget) (opened : Nat) :
    step.opens opened = opened := by
  cases step with
  | saveTarget | mergeTarget slot => exact absurd trivial keeps
  | _ => rfl

/-- So do balanced steps, and what follows them is counted as it is without them. -/
theorem countedSteps_append {steps : List Step} (balanced : Balanced steps)
    (origin opened : Nat) (rest : List Step) :
    countedSteps environment counted origin opened (steps ++ rest) = (do
      countedSteps environment counted origin opened steps
      countedSteps environment counted origin opened rest) := by
  induction balanced generalizing opened rest with
  | nil => simp
  | @step step next leaves _ _ _ ih =>
    rw [List.cons_append, countedSteps_cons, countedSteps_cons, step.opens_of_keeps leaves, ih,
      bind_assoc]
  | @capture slot body next _ _ ihInside ihNext =>
    rw [List.cons_append, List.append_assoc, List.cons_append, countedSteps_cons,
      countedSteps_cons]
    dsimp only [Step.opens]
    rw [ihInside, ihInside, countedSteps_cons, countedSteps_cons]
    dsimp only [Step.opens]
    rw [Nat.add_sub_cancel, ihNext]
    simp only [bind_assoc]

/-- A capture and what follows it, as a sequence of two counted actions. -/
theorem countedSteps_capture (origin opened : Nat) (slot : String) {body : List Step}
    (inside : Balanced body) (rest : List Step) :
    countedSteps environment counted origin opened
        (.saveTarget :: (body ++ .mergeTarget slot :: rest)) = (do
      (do
        modify (·.saveTarget)
        countedSteps environment counted origin (opened + 1) body
        modify (·.mergeTarget slot))
      countedSteps environment counted origin opened rest) := by
  rw [countedSteps_cons]
  dsimp only [Step.opens]
  rw [countedSteps_append inside, countedSteps_cons]
  simp only [bind_assoc]
  rfl

/-- **A capture is interrupted by what fails inside it**: its target stays, and one more capture
is counted. -/
theorem capture_interrupting {opened : Nat} {body : Render Unit} {body' : Counted Unit}
    (h : (interrupting (opened + 1)).Annotates body body') (slot : String) :
    (interrupting opened).Annotates
      (do
        modify (·.saveTarget)
        body
        modify (·.mergeTarget slot))
      (do
        modify (·.saveTarget)
        body'
        modify (·.mergeTarget slot)) := by
  intro state holds
  rw [run_bind, run_modify, run_bind, run_modify]
  dsimp only
  rw [run_bind, run_bind]
  have inside := h state.saveTarget ⟨holds.blocks, holds.store⟩
  generalize body.run.run state.saveTarget = result at inside ⊢
  generalize body'.run.run state.saveTarget = result' at inside ⊢
  cases inside with
  | ok same => exact .ok (appending_mergeTarget same slot)
  | error said =>
    obtain ⟨rfl, target, captures, -, counted, left⟩ := said
    refine .error ⟨rfl, state.target, captures + 1, .refl _, ?_, left.of_saveTarget⟩
    rw [counted, Nat.add_assoc, Nat.add_comm 1]

/-- **Balanced steps interrupt what is interrupted by their calls and by their captures**: by
induction on the derivation that they are balanced. -/
theorem countedSteps_annotates (same : CallsCounted calls counted) (origin opened : Nat)
    {steps : List Step} (balanced : Balanced steps) :
    (interrupting opened).Annotates (executeSteps environment calls origin steps)
      (countedSteps environment counted origin opened steps) := by
  induction balanced generalizing opened with
  | nil => exact .pure _
  | @step step rest leaves inside _ ihInside ihNext =>
    have own := Step.ownChange_appending origin leaves inside
    have alike : (interrupting 0).Annotates (executeStep environment calls origin step)
        (countedStep environment counted origin step) :=
      same.step own fun body mem => ihInside body mem 0
    rw [executeSteps_cons, countedSteps_cons, step.opens_of_keeps leaves]
    exact .bind (alike.within opened) fun _ => ihNext opened
  | @capture slot body rest inside _ ihInside ihNext =>
    rw [executeSteps_capture, countedSteps_capture origin opened slot inside]
    exact .bind (capture_interrupting (ihInside (opened + 1)) slot) fun _ => ihNext opened

/-! ## Calls -/

/-- **Executions and what is counted of them**, of all steps that are balanced. -/
def ExecutionsCounted (execute : Executor) (count : Counter) : Prop :=
  ∀ (origin : Nat) {steps : List Step}, Balanced steps →
    (interrupting 0).Annotates (execute origin steps) (count origin steps)

variable {execute : Executor} {count : Counter}

/-- The call of a view interrupts what its steps interrupt. -/
theorem countedView_annotates (steps : ExecutionsCounted execute count)
    (path : String) (overrides : Option Value) (position : Position) :
    (interrupting 0).Annotates (callView environment execute path overrides position)
      (countedView environment count path overrides position) := by
  intro state holds
  rw [callView_run, countedView_run]
  split
  · exact .error (interrupting_bare _ rfl rfl)
  · have compiled := compileView_balanced environment path holds.store
    generalize (environment.compileView path).run.run state.store = result at compiled ⊢
    rcases result with ⟨error | view, store⟩
    · exact .error (interrupting_bare _ rfl rfl)
    · obtain ⟨balanced, kept⟩ := compiled
      dsimp only
      cases overriddenFields state.context overrides position with
      | error error => exact .error (interrupting_bare _ rfl rfl)
      | ok fields =>
        have alike := steps view.serial balanced (state.enterView store fields)
          ⟨holds.blocks, kept⟩
        dsimp only
        generalize (execute view.serial view.program.steps).run.run _ = result at alike ⊢
        generalize (count view.serial view.program.steps).run.run _ = result' at alike ⊢
        cases alike with
        | @ok value after same =>
          have inside : appending.Allows (state.enterView store fields)
              ((.ok value, after) : Except RenderError Unit × RenderState) := same
          exact .ok (RenderState.leaveView_appending kept inside)
        | error said => exact .error said

/-- **The call of a print block interrupts what its steps interrupt**, and ends one target. -/
theorem countedBlock_annotates (steps : ExecutionsCounted execute count)
    (index : Nat) (arguments : List Value) :
    interruptingEvaluation.Annotates (callBlock execute index arguments)
      (countedBlock count index arguments) := by
  intro state holds
  rw [callBlock_run, countedBlock_run]
  cases found : state.blocks[index]? with
  | none => exact .error ⟨rfl, .of_eq rfl rfl⟩
  | some block =>
    dsimp only
    split
    · exact .error ⟨rfl, .of_eq rfl rfl⟩
    · have alike := steps block.origin (holds.blocks block (List.mem_of_getElem? found))
        (state.enterBlock (argumentFrame block.parameters arguments)) ⟨holds.blocks, holds.store⟩
      generalize (execute block.origin block.body).run.run _ = result at alike ⊢
      generalize (count block.origin block.body).run.run _ = result' at alike ⊢
      cases alike with
      | ok same => exact .ok (evaluating_leaveBlock same)
      | @error error interruption after said =>
        obtain ⟨rfl, target, captures, -, counted, left⟩ := said
        refine .error ⟨rfl, ?_⟩
        change state.LeavesOpen state.target interruption.captures after.leaveBlock
        rw [counted, Nat.zero_add]
        exact left.leaveBlock

/-- So calls are counted whose steps are. -/
theorem CallsCounted.of_executions (steps : ExecutionsCounted execute count) :
    CallsCounted (callsBy environment execute) (countedCallsBy environment count) :=
  ⟨countedView_annotates steps, countedBlock_annotates steps⟩

/-- **Counted executions are executions**, on every level: by induction on the levels below. -/
theorem countedWithin_annotates (environment : Environment) (levels : Nat) :
    ExecutionsCounted (executeWithin environment levels) (countedWithin environment levels) := by
  induction levels with
  | zero => exact fun _ _ _ => .pure _
  | succ levels ih =>
    intro origin steps balanced
    exact countedSteps_annotates (.of_executions ih) origin 0 balanced

/-! ## Failed calls -/

/-- **A failed call of a print block leaves the targets of its caller as they were, and above them
one target for each capture that its failure interrupts.**  So it undoes its capture exactly if
no capture is interrupted: if the step that failed stands in no capture of the block, nor in one
of a view or print block from which the failure came out.  The failure may be any, that of a call
which is refused among them.  The state is any that holds balanced programs, as the one does in
which a render starts and every one that an execution of a compiled program leaves behind. -/
theorem failed_call_leaves_interrupted (environment : Environment) {state : RenderState}
    (holds : state.HoldsBalanced) {index : Nat} {arguments : List Value}
    {cause : EvalError RenderError} {after : RenderState}
    (failed : (environment.calls.block index arguments).run.run state = (.error cause, after)) :
    ∃ cause' : EvalError Interruption,
      (environment.countedCalls.block index arguments).run.run state = (.error cause', after) ∧
      cause = Interruption.causeOf cause' ∧
      (∃ left : List Target, left.length = Interruption.capturesOf cause' ∧
        after.target :: after.saved = left ++ state.target :: state.saved) ∧
      (after.target = state.target ∧ after.saved = state.saved ↔
        Interruption.capturesOf cause' = 0) := by
  have alike := countedBlock_annotates (countedWithin_annotates environment maxDepth) index arguments
    state holds
  change interruptingEvaluation.Allows state
    ((environment.calls.block index arguments).run.run state)
    ((environment.countedCalls.block index arguments).run.run state) at alike
  rw [failed] at alike
  generalize (environment.countedCalls.block index arguments).run.run state = run at alike ⊢
  cases alike with
  | @error _ cause' _ said =>
    obtain ⟨same, left⟩ := said
    exact ⟨cause', rfl, same, left, left.eq_iff⟩

/-- A print block that fails inside two captures: the targets of the block and of the outer
capture stay above that of the caller. -/
theorem failed_call_leaves_interrupted_twice :
    let position : Position := .start
    let unreadable : Expression :=
      ⟨"x.y", position, .member ⟨0, 3⟩ (.identifier ⟨0, 1⟩ "x") (.string ⟨2, 3⟩ "y") false false⟩
    let document : Document := ⟨[.text position "a", .contentFor position "s" [.text position "b",
      .contentFor position "t" [.text position "c", .print position unreadable none]]]⟩
    let body : List Step := [.text "a", .saveTarget, .block [.text "b", .saveTarget,
      .block [.text "c", .renderValue unreadable], .mergeTarget "t"], .mergeTarget "s"]
    let environment : Environment :=
      { options := {}, source := .memory [], functions := fun _ _ => .ok .null }
    let state : RenderState :=
      { RenderState.start .undefined {} with
        target := { default := "A" }, blocks := [⟨0, position, [], body⟩] }
    let run := (environment.calls.block 0 []).run.run state
    document.compile = .ok ⟨body⟩ ∧ state.HoldsBalanced ∧
      run.1 = .error (.failed (.evaluation (.unreadable "undefined" "y") position)) ∧
      run.2.target :: run.2.saved = [{ default := "b" }, { default := "a" }, { default := "A" }] ∧
      ∃ cause, (environment.countedCalls.block 0 []).run.run state = (.error cause, run.2) ∧
        Interruption.capturesOf cause = 2 := by
  intro position unreadable document body environment state run
  have compiled : document.compile = .ok ⟨body⟩ := rfl
  have holds : state.HoldsBalanced := by
    refine ⟨fun block mem => ?_, nofun⟩
    rw [List.mem_singleton.mp mem]
    exact document.compile_balanced compiled
  have ended : run.1 = .error (.failed (.evaluation (.unreadable "undefined" "y") position)) := rfl
  have stack : run.2.target :: run.2.saved =
      [{ default := "b" }, { default := "a" }, { default := "A" }] := rfl
  obtain ⟨cause, counted, -, ⟨left, length, split⟩, -⟩ :=
    failed_call_leaves_interrupted environment holds (Prod.ext ended rfl : run = (_, run.2))
  refine ⟨compiled, holds, ended, stack, cause, counted, ?_⟩
  have lengths := congrArg List.length (stack.symm.trans split)
  rw [← length]
  simpa [state, RenderState.start] using lengths.symm

/-- **A failed call that does not undo its capture**: the block fails inside a capture, and leaves
its own target in place of the one of its caller, which still waits below. -/
theorem failed_call_leaves_interrupted_once :
    let position : Position := .start
    let unreadable : Expression :=
      ⟨"x.y", position, .member ⟨0, 3⟩ (.identifier ⟨0, 1⟩ "x") (.string ⟨2, 3⟩ "y") false false⟩
    let document : Document :=
      ⟨[.contentFor position "s" [.print position unreadable none]]⟩
    let body : List Step := [.saveTarget, .block [.renderValue unreadable], .mergeTarget "s"]
    let environment : Environment :=
      { options := {}, source := .memory [], functions := fun _ _ => .ok .null }
    let state : RenderState :=
      { RenderState.start .undefined {} with
        target := { default := "A" }, blocks := [⟨0, position, [], body⟩] }
    let run := (environment.calls.block 0 []).run.run state
    document.compile = .ok ⟨body⟩ ∧
      run.1 = .error (.failed (.evaluation (.unreadable "undefined" "y") position)) ∧
      state.target = { default := "A" } ∧ state.saved = [] ∧
      run.2.target = {} ∧ run.2.saved = [{ default := "A" }] :=
  ⟨rfl, rfl, rfl, rfl, rfl, rfl⟩

end ViewTemplate
