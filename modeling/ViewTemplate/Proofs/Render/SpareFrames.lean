import ViewTemplate.Proofs.Render.Declarations
import ViewTemplate.Proofs.Render.Isolation
import ViewTemplate.Proofs.Render.StepCoupling

/-!
# Frames to spare

A frame without variables that nothing declares into is not noticed: names are looked up
and assigned behind it as if it were not there.

Such frames come about where a body consists of one step that executes bodies of its own.
A choice is the case that matters: an else-if branch is a choice that stands by itself in
the other branch of a choice, and for that branch it does the same with a frame around it
as without (`inFrame_branch`).

The frame stands at some place among the others, and moves away from the innermost place
with each body and each call of a block.  So the relation of the two runs says how many
frames stand above it (`RenderState.SpareAt`), and the proof is an induction on steps for
all these numbers at once.  Only right under it, where the number is zero, nothing may be
declared; but a choice does nothing there besides evaluating its condition.

## Main Definitions

* `RenderState.SpareAt` — two states that are the same but for one empty frame
* `sparing` — the coupling of such states
* `Calls.Spare` — calls that do not notice such a frame
-/

namespace ViewTemplate

variable {environment : Environment} {calls : Calls}

/-! ## States with a frame to spare -/

/-- **Two states are the same but for an empty frame**, which has `above` frames above it
in the first one. -/
def RenderState.SpareAt (above : Nat) (state other : RenderState) : Prop :=
  ∃ inner outer : List Frame, inner.length = above ∧ state.frames = inner ++ [] :: outer ∧
    other = state.withFrames (inner ++ outer)

/-- States that differ by an empty frame, on either exit. -/
def sparing (above : Nat) : Coupling RenderState where
  returns := RenderState.SpareAt above
  throws := RenderState.SpareAt above
  throws_of_returns := id

namespace RenderState

/-- A name is looked up behind a frame that does not have it. -/
theorem lookupFrames_behind {other : Frame} {name : String} (absent : other.get? name = none)
    (inner outer : List Frame) :
    lookupFrames (inner ++ other :: outer) name = lookupFrames (inner ++ outer) name := by
  induction inner with
  | nil => rw [List.nil_append, List.nil_append, lookupFrames, absent]
  | cons frame rest ih =>
    rw [List.cons_append, List.cons_append, lookupFrames, lookupFrames, ih]

/-- A name is assigned behind a frame that does not have it, which stays where it is. -/
theorem assignFrames?_behind {other : Frame} {name : String} (absent : other.get? name = none)
    (value : Value) (inner outer : List Frame) :
    Option.Rel (fun frames frames' => ∃ inner' outer' : List Frame,
        inner'.length = inner.length ∧ frames = inner' ++ other :: outer' ∧
          frames' = inner' ++ outer')
      (assignFrames? (inner ++ other :: outer) name value)
      (assignFrames? (inner ++ outer) name value) := by
  induction inner with
  | nil =>
    have kept : other.update? name value = none := by
      rw [Table.update?, Table.contains, absent]
      rfl
    rw [List.nil_append, List.nil_append, assignFrames?, kept]
    dsimp only
    cases assignFrames? outer name value with
    | none => exact .none
    | some outer' => exact .some ⟨[], outer', rfl, rfl, rfl⟩
  | cons frame rest ih =>
    rw [List.cons_append, List.cons_append, assignFrames?, assignFrames?]
    cases frame.update? name value with
    | some frame' => exact .some ⟨frame' :: rest, outer, rfl, rfl, rfl⟩
    | none =>
      dsimp only
      generalize assignFrames? (rest ++ other :: outer) name value = found at ih ⊢
      generalize assignFrames? (rest ++ outer) name value = found' at ih ⊢
      cases ih with
      | none => exact .none
      | some related =>
        obtain ⟨inner', outer', length, rfl, rfl⟩ := related
        exact .some ⟨frame :: inner', outer', congrArg (· + 1) length, rfl, rfl⟩

/-- Targets end without regard to frames. -/
theorem restoreTarget_withFrames (state : RenderState) (frames : List Frame) :
    (state.withFrames frames).restoreTarget =
      (state.restoreTarget.1, state.restoreTarget.2.withFrames frames) := by
  rcases state with ⟨store, target, _ | ⟨waiting, saved⟩, _⟩
  · rfl
  · rfl

theorem restoreTarget_frames (state : RenderState) :
    state.restoreTarget.2.frames = state.frames := by
  rw [restoreTarget_eq]

/-- Print blocks are bound without regard to frames. -/
theorem bindBlock_withFrames (state : RenderState) (frames : List Frame) (block : BoundBlock) :
    (state.withFrames frames).bindBlock block =
      ((state.bindBlock block).1, (state.bindBlock block).2.withFrames frames) := by
  unfold bindBlock withFrames
  cases state.blocks.findIdx? (· == block) with
  | none => rfl
  | some index => rfl

theorem bindBlock_frames (state : RenderState) (block : BoundBlock) :
    (state.bindBlock block).2.frames = state.frames := by
  unfold bindBlock
  cases state.blocks.findIdx? (· == block) with
  | none => rfl
  | some index => rfl

namespace SpareAt

variable {above : Nat} {state other : RenderState}

/-- An empty frame that was just added has nothing above it. -/
theorem pushed (state : RenderState) : (state.pushFrame []).SpareAt 0 state :=
  ⟨[], state.frames, rfl, rfl, rfl⟩

/-- What does not look at frames and leaves them alone does not notice the frame. -/
theorem change (h : state.SpareAt above other) {change : RenderState → RenderState}
    (keeps : (change state).frames = state.frames)
    (blind : ∀ frames, change (state.withFrames frames) = (change state).withFrames frames) :
    (change state).SpareAt above (change other) := by
  obtain ⟨inner, outer, length, frames, rfl⟩ := h
  exact ⟨inner, outer, length, keeps.trans frames, blind _⟩

theorem pushFrame (h : state.SpareAt above other) (frame : Frame) :
    (state.pushFrame frame).SpareAt (above + 1) (other.pushFrame frame) := by
  obtain ⟨inner, outer, rfl, frames, rfl⟩ := h
  exact ⟨frame :: inner, outer, rfl, congrArg (frame :: ·) frames, rfl⟩

theorem popFrame (h : state.SpareAt (above + 1) other) :
    state.popFrame.SpareAt above other.popFrame := by
  obtain ⟨inner, outer, length, frames, rfl⟩ := h
  obtain ⟨frame, rest, rfl⟩ := List.exists_cons_of_length_eq_add_one length
  refine ⟨rest, outer, Nat.succ.inj length, ?_, rfl⟩
  rw [RenderState.popFrame, frames]
  rfl

/-- An empty frame with nothing above it can be removed. -/
theorem popFrame_eq (h : state.SpareAt 0 other) : state.popFrame = other := by
  obtain ⟨inner, outer, length, frames, rfl⟩ := h
  obtain rfl := List.eq_nil_of_length_eq_zero length
  rw [RenderState.popFrame, frames]
  rfl

theorem lookup (h : state.SpareAt above other) (name : String) :
    state.lookup environment name = other.lookup environment name := by
  obtain ⟨inner, outer, length, frames, rfl⟩ := h
  unfold RenderState.lookup
  rw [frames, lookupFrames_behind rfl]
  rfl

theorem assign? (h : state.SpareAt above other) (name : String) (value : Value) :
    Option.Rel (SpareAt above) (state.assign? name value) (other.assign? name value) := by
  obtain ⟨inner, outer, rfl, frames, rfl⟩ := h
  have assigned := assignFrames?_behind (Table.get?_nil name) value inner outer
  unfold RenderState.assign?
  rw [frames]
  have others : (state.withFrames (inner ++ outer)).frames = inner ++ outer := rfl
  have context : (state.withFrames (inner ++ outer)).context = state.context := rfl
  rw [others, context]
  generalize assignFrames? (inner ++ [] :: outer) name value = found at assigned ⊢
  generalize assignFrames? (inner ++ outer) name value = found' at assigned ⊢
  cases assigned with
  | some related =>
    obtain ⟨inner', outer', length, rfl, rfl⟩ := related
    exact .some ⟨inner', outer', length, rfl, rfl⟩
  | none =>
    dsimp only
    cases (contextFields state.context).update? name value with
    | none => exact .none
    | some fields => exact .some ⟨inner, outer, rfl, rfl, rfl⟩

/-- What is declared goes to the innermost frame, which is not the empty one. -/
theorem declare (h : state.SpareAt (above + 1) other) (name : String) (value : Value) :
    (state.declare name value).SpareAt (above + 1) (other.declare name value) := by
  obtain ⟨inner, outer, length, frames, rfl⟩ := h
  obtain ⟨frame, rest, rfl⟩ := List.exists_cons_of_length_eq_add_one length
  refine ⟨frame.set name value :: rest, outer, length, ?_, ?_⟩
  · rw [RenderState.declare, frames]
    rfl
  · rw [RenderState.declare, RenderState.declare, frames]
    rfl

theorem restoreTarget (h : state.SpareAt above other) :
    state.restoreTarget.1 = other.restoreTarget.1 ∧
      state.restoreTarget.2.SpareAt above other.restoreTarget.2 := by
  refine ⟨?_, @change above state other h (·.restoreTarget.2) state.restoreTarget_frames
    fun frames => congrArg Prod.snd (state.restoreTarget_withFrames frames)⟩
  obtain ⟨inner, outer, -, -, rfl⟩ := h
  rw [restoreTarget_withFrames]

theorem mergeTarget (h : state.SpareAt above other) (slot : String) :
    (state.mergeTarget slot).SpareAt above (other.mergeTarget slot) := by
  obtain ⟨same, restored⟩ := h.restoreTarget
  unfold RenderState.mergeTarget
  generalize state.restoreTarget = result at same restored ⊢
  generalize other.restoreTarget = result' at same restored ⊢
  obtain ⟨ended, after⟩ := result
  obtain ⟨ended', after'⟩ := result'
  obtain rfl : ended = ended' := same
  cases ended with
  | none => exact restored
  | some ended =>
    let merge (state : RenderState) : RenderState :=
      { state with target := state.target.merge ended (some slot) }
    exact @change above after after' restored merge rfl fun _ => rfl

theorem bindBlock (h : state.SpareAt above other) (block : BoundBlock) :
    (state.bindBlock block).1 = (other.bindBlock block).1 ∧
      (state.bindBlock block).2.SpareAt above (other.bindBlock block).2 := by
  refine ⟨?_, @change above state other h (·.bindBlock block |>.2) (state.bindBlock_frames block)
    fun frames => congrArg Prod.snd (state.bindBlock_withFrames frames block)⟩
  obtain ⟨inner, outer, -, -, rfl⟩ := h
  rw [bindBlock_withFrames]

end SpareAt

end RenderState

/-- What does the same with one more frame above the empty one does the same in a frame of
its own. -/
theorem inFrame_sparing {α : Type} {above : Nat} {action : Render α}
    (h : (sparing (above + 1)).Couples action action) (frame : Frame) :
    (sparing above).Couples (Render.inFrame frame action) (Render.inFrame frame action) := by
  intro state other related
  rw [Render.inFrame_run, Render.inFrame_run]
  have agree := h _ _ (related.pushFrame frame)
  generalize action.run.run (state.pushFrame frame) = result at agree ⊢
  generalize action.run.run (other.pushFrame frame) = result' at agree ⊢
  rcases result with ⟨error | value, after⟩ <;> rcases result' with ⟨error' | value', after'⟩
  · exact ⟨agree.1, agree.2.popFrame⟩
  · exact agree.elim
  · exact agree.elim
  · exact ⟨agree.1, agree.2.popFrame⟩

/-! ## Calls -/

/-- **The calls of a render do not notice an empty frame**, wherever it stands. -/
structure Calls.Spare (calls : Calls) : Prop where
  view : ∀ above path overrides position, (sparing above).Couples
    (calls.view path overrides position) (calls.view path overrides position)
  block : ∀ above index arguments, (sparing above).Couples
    (calls.block index arguments) (calls.block index arguments)

/-- The call of a view sees no frames at all. -/
theorem callView_sparing (execute : Executor) (above : Nat) (path : String)
    (overrides : Option Value) (position : Position) :
    (sparing above).Couples (callView environment execute path overrides position)
      (callView environment execute path overrides position) := by
  rintro state other ⟨inner, outer, length, frames, rfl⟩
  obtain ⟨again, kept⟩ := @callView_withFrames environment execute path overrides position state
    (inner ++ outer)
  rw [again]
  generalize (callView environment execute path overrides position).run.run state = result
    at kept ⊢
  have related : result.2.SpareAt above (result.2.withFrames (inner ++ outer)) :=
    ⟨inner, outer, length, kept.trans frames, rfl⟩
  rcases result with ⟨error | value, after⟩
  · exact ⟨rfl, related⟩
  · exact ⟨rfl, related⟩

/-- The steps of a print block have the frame of its arguments above the empty one. -/
theorem callBlock_sparing {execute : Executor}
    (steps : ∀ above origin steps,
      (sparing (above + 1)).Couples (execute origin steps) (execute origin steps))
    (above index : Nat) (arguments : List Value) :
    (sparing above).Couples (callBlock execute index arguments)
      (callBlock execute index arguments) := by
  intro state other related
  rw [callBlock_run, callBlock_run]
  have blocks : other.blocks = state.blocks := by
    obtain ⟨inner, outer, -, -, rfl⟩ := related
    rfl
  have depth : other.depth = state.depth := by
    obtain ⟨inner, outer, -, -, rfl⟩ := related
    rfl
  rw [blocks, depth]
  cases state.blocks[index]? with
  | none => exact ⟨rfl, related⟩
  | some block =>
    dsimp only
    by_cases full : maxDepth ≤ state.depth
    · rw [if_pos full, if_pos full]
      exact ⟨rfl, related⟩
    · rw [if_neg full, if_neg full]
      let frame := argumentFrame block.parameters arguments
      have entered : (state.enterBlock frame).SpareAt (above + 1) (other.enterBlock frame) := by
        have deeper : (RenderState.saveTarget { state with depth := state.depth + 1 }).SpareAt
            above (RenderState.saveTarget { other with depth := other.depth + 1 }) :=
          @RenderState.SpareAt.change above state other related
            (fun state => RenderState.saveTarget { state with depth := state.depth + 1 }) rfl
            fun _ => rfl
        exact deeper.pushFrame frame
      have left {after after' : RenderState} (ended : after.SpareAt (above + 1) after') :
          after.leaveBlock.SpareAt above after'.leaveBlock :=
        ended.popFrame.restoreTarget.2.change rfl fun _ => rfl
      have agree := steps above block.origin block.body _ _ entered
      generalize (execute block.origin block.body).run.run (state.enterBlock frame) = result
        at agree ⊢
      generalize (execute block.origin block.body).run.run (other.enterBlock frame) = result'
        at agree ⊢
      rcases result with ⟨error | value, after⟩ <;>
        rcases result' with ⟨error' | value', after'⟩
      · exact ⟨congrArg _ agree.1, left agree.2⟩
      · exact agree.elim
      · exact agree.elim
      · refine ⟨?_, left agree.2⟩
        rw [agree.2.popFrame.restoreTarget.1]

/-! ## Steps -/

/-- Evaluations declare nothing, so the empty frame may be the innermost one. -/
theorem evaluateExpression_sparing (spare : calls.Spare) (above : Nat)
    (expression : Expression) :
    (sparing above).Couples (evaluateExpression environment calls expression)
      (evaluateExpression environment calls expression) := by
  have scope : (renderScope environment calls).Couple (renderScope environment calls)
      (sparing above) :=
    { lookup := fun name related => related.lookup name
      this := by
        rintro state _ ⟨inner, outer, -, -, rfl⟩
        rfl
      assign := fun name value related => related.assign? name value
      callBlock := spare.block above
      callHost := rfl }
  exact .adapt _ (Snippet.evaluate_couples scope expression.body)

/-- Statements may declare a variable, so the empty frame must not be the innermost one. -/
theorem runAction_sparing (spare : calls.Spare) (above : Nat) (action : Action) :
    (sparing (above + 1)).Couples (runAction environment calls action)
      (runAction environment calls action) := by
  have scope : (renderScope environment calls).Couple (renderScope environment calls)
      (sparing (above + 1)) :=
    { lookup := fun name related => related.lookup name
      this := by
        rintro state _ ⟨inner, outer, -, -, rfl⟩
        rfl
      assign := fun name value related => related.assign? name value
      callBlock := spare.block (above + 1)
      callHost := rfl }
  exact .adapt _ (Snippet.Statement.run_couples scope
    (fun name value _ _ related => related.declare name value) action.body)

/-- **A step does not notice an empty frame** when its bodies do not notice one under a
frame of their own, unless it runs a statement right under it. -/
theorem executeStep_sparing (spare : calls.Spare) (origin above : Nat) (step : Step)
    (declares : ∀ action ∈ step.action?, above ≠ 0)
    (bodies : ∀ body ∈ step.bodies, (sparing (above + 1)).Couples
      (executeSteps environment calls origin body) (executeSteps environment calls origin body)) :
    (sparing above).Couples (executeStep environment calls origin step)
      (executeStep environment calls origin step) := by
  refine StepCouple.couples
    { write := fun text state other related => related.change rfl fun _ => rfl
      evaluate := evaluateExpression_sparing spare above
      print := fun frame expression =>
        inFrame_sparing (evaluateExpression_sparing spare (above + 1) expression) frame
      run := fun action runs => ?_
      view := spare.view above
      bodies := fun body direct frame => inFrame_sparing (bodies body direct) frame
      own := ?_ }
  · obtain ⟨fewer, rfl⟩ := Nat.exists_eq_add_one_of_ne_zero (declares action runs)
    exact runAction_sparing spare fewer action
  · cases step with
    | saveTarget => exact fun state other related => related.change rfl fun _ => rfl
    | mergeTarget slot => exact fun state other related => related.mergeTarget slot
    | renderContent slot =>
      intro state other related
      cases slot with
      | none =>
        exact related.change rfl fun _ => rfl
      | some slot =>
        exact related.change rfl fun _ => rfl
    | printBlock expression parameters body =>
      exact fun state other related => related.bindBlock _
    | setLayout path =>
      intro state other related
      have counted : other.partialDepth = state.partialDepth := by
        obtain ⟨inner, outer, -, -, rfl⟩ := related
        rfl
      rw [counted]
      split
      · exact related.change rfl fun _ => rfl
      · exact related
    | loop condition body => exact rfl
    | _ => trivial

/-- **Steps do not notice an empty frame** that is not the innermost one, by induction on
how they are nested. -/
theorem executeSteps_sparing (spare : calls.Spare) (origin above : Nat) (steps : List Step) :
    (sparing (above + 1)).Couples (executeSteps environment calls origin steps)
      (executeSteps environment calls origin steps) := by
  have everywhere : ∀ above, (sparing (above + 1)).Couples
      (executeSteps environment calls origin steps)
      (executeSteps environment calls origin steps) := by
    refine @Step.listInduction (fun _ => True)
      (fun step => ∀ above, (sparing (above + 1)).Couples
        (executeStep environment calls origin step) (executeStep environment calls origin step))
      (fun steps => ∀ above, (sparing (above + 1)).Couples
        (executeSteps environment calls origin steps)
        (executeSteps environment calls origin steps))
      (fun _ => .pure _) (fun step rest first others above => ?_)
      (fun step _ bodies above => ?_) steps fun _ _ => trivial
    · rw [executeSteps_cons]
      exact .bind (first above) fun _ => others above
    · exact executeStep_sparing spare origin (above + 1) step (fun _ _ => Nat.succ_ne_zero above)
        fun body direct => bodies body direct (above + 1)
  exact everywhere above

/-- **Executions do not notice an empty frame** that is not the innermost one, by induction
on the levels below. -/
theorem executeWithin_sparing (environment : Environment) (levels above origin : Nat)
    (steps : List Step) :
    (sparing (above + 1)).Couples (executeWithin environment levels origin steps)
      (executeWithin environment levels origin steps) := by
  induction levels generalizing above origin steps with
  | zero => exact .pure _
  | succ levels ih =>
    exact executeSteps_sparing ⟨callView_sparing _, callBlock_sparing ih⟩ origin above steps

/-- The calls of a render do not notice an empty frame, on any level. -/
theorem callsBy_spare (environment : Environment) (levels : Nat) :
    (callsBy environment (executeWithin environment levels)).Spare :=
  ⟨callView_sparing _, callBlock_sparing (executeWithin_sparing environment levels)⟩

/-! ## Choices -/

/-- **A choice needs no frame around it**: it declares nothing by itself, and its branches
have frames of their own. -/
theorem inFrame_branch (spare : calls.Spare) (origin : Nat) (condition : Expression)
    (consequent : List Step) (alternate : Option (List Step)) :
    let choose := executeStep environment calls origin (.branch condition consequent alternate)
    Render.inFrame [] choose = choose := by
  intro choose
  refine ExceptT.ext (StateT.ext fun state => ?_)
  have agree : (sparing 0).Agrees (choose.run.run (state.pushFrame [])) (choose.run.run state) :=
    executeStep_sparing spare origin 0 _ (fun _ runs => by cases runs)
      (fun body _ => executeSteps_sparing spare origin 0 body) _ _ (.pushed state)
  change (Render.inFrame [] choose).run.run state = choose.run.run state
  rw [Render.inFrame_run]
  generalize choose.run.run (state.pushFrame []) = result at agree ⊢
  generalize choose.run.run state = result' at agree ⊢
  rcases result with ⟨error | value, after⟩ <;> rcases result' with ⟨error' | value', after'⟩
  · obtain ⟨rfl, related⟩ := agree
    rw [related.popFrame_eq]
  · exact agree.elim
  · exact agree.elim
  · obtain ⟨rfl, related⟩ := agree
    rw [related.popFrame_eq]

end ViewTemplate
