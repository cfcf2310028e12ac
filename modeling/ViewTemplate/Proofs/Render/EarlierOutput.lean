import Mathlib
import ViewTemplate.Proofs.Render.Captures
import ViewTemplate.Proofs.Render.Declarations
import ViewTemplate.Proofs.Render.Merging
import ViewTemplate.Proofs.Render.StepCoupling

/-!
# Output after earlier output

Steps write behind what was written before them, and do not look at it.

The one exception is the step that writes the content of a layout or of a slot.  Where no
program has it, an execution can be started with an empty target instead, and what it
writes there is merged into the old target afterwards (`execute_appends`).

Two runs are compared, one with the old text in its target and one without.  Captured
blocks and print blocks put targets of their own on top of the two that differ, and on
these the runs do the same, even where a block writes what its own target holds.  So the
relation says how many targets stand on top (`Target.StacksAhead`), and the proof is an
induction on balanced steps for all these numbers at once: a started target makes one
more, and its end merges it into the two below, which is where merging has to be
associative (`Target.merge_assoc`).

Failures keep nothing but their error: a capture that fails leaves its target open.

## Main Definitions

* `Contentless` — steps that never write the content of a layout or of a slot
* `Target.StacksAhead` — two stacks of targets that differ in one, by text at its front
* `RenderState.Ahead` — two states that differ in their stacks so
-/

namespace ViewTemplate

/-! ## Stacks that differ in one target -/

/-- A list of steps in which no step writes the content of a layout or of a slot, however
deep it stands. -/
def Contentless (steps : List Step) : Prop :=
  ∀ slot, ¬(Step.renderContent slot).Occurs steps

namespace Contentless

variable {step : Step} {steps rest body : List Step}

theorem nil : Contentless [] := by
  rintro slot (mem | ⟨mem, -, -⟩)
  · cases mem
  · cases mem

/-- A list has no such step when its first one and those behind it have none. -/
theorem cons (first : ∀ slot, step ≠ .renderContent slot)
    (inside : ∀ body ∈ step.bodies, Contentless body) (others : Contentless rest) :
    Contentless (step :: rest) := by
  rintro slot (mem | ⟨mem, direct, occurs⟩)
  · rcases List.mem_cons.mp mem with same | later
    · exact first slot same.symm
    · exact others slot (.here later)
  · rcases List.mem_cons.mp mem with rfl | later
    · exact inside _ direct slot occurs
    · exact others slot (.inside later direct occurs)

theorem of_mem_bodies (h : Contentless (step :: rest)) (direct : body ∈ step.bodies) :
    Contentless body :=
  fun slot occurs => h slot (.inside List.mem_cons_self direct occurs)

theorem of_subset (h : Contentless steps) (fewer : rest ⊆ steps) : Contentless rest :=
  fun slot occurs => h slot (occurs.mono fun _ mem => fewer mem)

end Contentless

/-- **Two stacks of targets, the newest first, that differ in one target**: there the first
stack has what was merged into an old target, and the second what was merged.  So many
other targets were started since. -/
inductive Target.StacksAhead (old : Target) : Nat → List Target → List Target → Prop where
  | here {written : Target} {saved : List Target} (distinct : (Table.names written.slots).Nodup) :
      StacksAhead old 0 (old.merge written none :: saved) (written :: saved)
  | pushed {above : Nat} {stack stack' : List Target} (target : Target)
      (inside : StacksAhead old above stack stack') :
      StacksAhead old (above + 1) (target :: stack) (target :: stack')

namespace Target.StacksAhead

variable {old target target' : Target} {above : Nat} {saved saved' : List Target}

/-- Below a target that was started since, the stacks differ in the same target. -/
theorem of_pushed (h : StacksAhead old (above + 1) (target :: saved) (target' :: saved')) :
    target = target' ∧ StacksAhead old above saved saved' := by
  cases h with
  | pushed target inside => exact ⟨rfl, inside⟩

/-- Where no target was started since, the stacks differ in the newest one. -/
theorem of_front (h : StacksAhead old 0 (target :: saved) (target' :: saved')) :
    (Table.names target'.slots).Nodup ∧ target = old.merge target' none ∧ saved = saved' := by
  cases h with
  | here distinct => exact ⟨distinct, rfl, rfl⟩

/-- Where the stacks differ there are targets. -/
theorem exists_cons (h : StacksAhead old above saved saved') :
    ∃ target rest target' rest', saved = target :: rest ∧ saved' = target' :: rest' := by
  cases h with
  | here => exact ⟨_, _, _, _, rfl, rfl⟩
  | pushed => exact ⟨_, _, _, _, rfl, rfl⟩

/-- Text is written behind old text as it is without. -/
theorem append (h : StacksAhead old above (target :: saved) (target' :: saved')) (text : String) :
    StacksAhead old above (target.append text :: saved) (target'.append text :: saved') := by
  cases h with
  | here distinct =>
    have moved : (old.merge target' none).append text = old.merge (target'.append text) none := by
      simp only [merge_none, Target.append, String.append_assoc]
    rw [moved]
    exact .here distinct
  | pushed target inside => exact .pushed _ inside

/-- A capture ends in a target with old text as it does in one without. -/
theorem merge (h : StacksAhead old above (target :: saved) (target' :: saved')) (ended : Target)
    (slot : String) :
    StacksAhead old above (target.merge ended (some slot) :: saved)
      (target'.merge ended (some slot) :: saved') := by
  cases h with
  | here distinct =>
    rw [merge_assoc old distinct]
    refine .here ?_
    rw [merge_some]
    exact fill_distinct distinct _
  | pushed target inside => exact .pushed _ inside

end Target.StacksAhead

/-- The targets of a state, the newest first. -/
def RenderState.targets (state : RenderState) : List Target :=
  state.target :: state.saved

/-- A state with other targets. -/
def RenderState.withTargets (target : Target) (saved : List Target) (state : RenderState) :
    RenderState :=
  { state with target, saved }

namespace RenderState

/-! ### Operations that do not look at targets -/

theorem assign?_withTargets (state : RenderState) (target : Target) (saved : List Target)
    (name : String) (value : Value) :
    (state.withTargets target saved).assign? name value =
      (state.assign? name value).map (withTargets target saved) := by
  unfold assign? withTargets
  cases assignFrames? state.frames name value with
  | some frames => rfl
  | none =>
    dsimp only
    cases (contextFields state.context).update? name value with
    | none => rfl
    | some fields => rfl

theorem declare_withTargets (state : RenderState) (target : Target) (saved : List Target)
    (name : String) (value : Value) :
    (state.withTargets target saved).declare name value =
      (state.declare name value).withTargets target saved := by
  rcases state with ⟨_, _, _, _, _, _, _ | ⟨frame, rest⟩, _⟩
  · rfl
  · rfl

theorem bindBlock_withTargets (state : RenderState) (target : Target) (saved : List Target)
    (block : BoundBlock) :
    (state.withTargets target saved).bindBlock block =
      ((state.bindBlock block).1, (state.bindBlock block).2.withTargets target saved) := by
  unfold bindBlock withTargets
  cases state.blocks.findIdx? (· == block) with
  | none => rfl
  | some index => rfl

theorem bindBlock_targets (state : RenderState) (block : BoundBlock) :
    (state.bindBlock block).2.targets = state.targets := by
  unfold bindBlock
  split
  · rfl
  · rfl

end RenderState

/-- **Two states that are the same but for old text in one target.**  Their programs are
balanced, and the views that they keep write no content. -/
structure RenderState.Ahead (old : Target) (above : Nat) (state other : RenderState) : Prop where
  targets : Target.StacksAhead old above state.targets other.targets
  others : state = other.withTargets state.target state.saved
  holds : other.Holds (fun steps => Balanced steps ∧ Contentless steps) Balanced

/-- Two states that differ so while both runs return. -/
def ahead (old : Target) (above : Nat) : Coupling RenderState where
  returns := RenderState.Ahead old above
  throws _ _ := True
  throws_of_returns _ := trivial

variable {environment : Environment} {calls : Calls} {old : Target} {above : Nat}

namespace RenderState.Ahead

variable {state other : RenderState}

/-- What neither reads nor exchanges targets keeps states as they differ. -/
theorem change (h : state.Ahead old above other) (change : RenderState → RenderState)
    (targets : ∀ state, (change state).targets = state.targets)
    (blind : ∀ target saved,
      change (other.withTargets target saved) = (change other).withTargets target saved)
    (holds : (change other).Holds (fun steps => Balanced steps ∧ Contentless steps) Balanced) :
    (change state).Ahead old above (change other) where
  targets := by
    rw [targets, targets]
    exact h.targets
  others := by
    obtain ⟨target, saved⟩ := List.cons.inj (targets state)
    rw [target, saved]
    exact (congrArg change h.others).trans (blind _ _)
  holds := holds

theorem lookup (h : state.Ahead old above other) (name : String) :
    state.lookup environment name = other.lookup environment name := by
  rw [h.others]
  rfl

theorem context (h : state.Ahead old above other) : state.context = other.context := by
  rw [h.others]
  rfl

theorem write (h : state.Ahead old above other) (text : String) :
    (state.write text).Ahead old above (other.write text) where
  targets := h.targets.append text
  others := by
    rw [h.others]
    rfl
  holds := ⟨h.holds.blocks, h.holds.store⟩

/-- On a target that was started since, content is the same in both states. -/
theorem writeContent (h : state.Ahead old (above + 1) other) (slot? : Option String) :
    (state.writeContent slot?).Ahead old (above + 1) (other.writeContent slot?) := by
  have same : state.target = other.target := h.targets.of_pushed.1
  unfold RenderState.writeContent
  rw [same]
  cases slot? with
  | none => exact h.write _
  | some slot => exact h.write _

theorem assign? (h : state.Ahead old above other) (name : String) (value : Value) :
    Option.Rel (RenderState.Ahead old above) (state.assign? name value)
      (other.assign? name value) := by
  have assigned : state.assign? name value =
      (other.assign? name value).map (withTargets state.target state.saved) :=
    (congrArg (·.assign? name value) h.others).trans (assign?_withTargets ..)
  rw [assigned]
  cases found : other.assign? name value with
  | none => exact .none
  | some after =>
    rw [assign?_eq found]
    exact .some ⟨h.targets, rfl, ⟨h.holds.blocks, h.holds.store⟩⟩

theorem declare (h : state.Ahead old above other) (name : String) (value : Value) :
    (state.declare name value).Ahead old above (other.declare name value) := by
  refine h.change ((·.declare name value)) (fun state => ?_)
    (fun target saved => other.declare_withTargets target saved name value) ?_
  · rw [state.declare_eq]
    rfl
  · rw [other.declare_eq]
    exact ⟨h.holds.blocks, h.holds.store⟩

/-- A target that was started since ends with the same text in both states. -/
theorem restoreTarget (h : state.Ahead old (above + 1) other) :
    state.restoreTarget.1 = other.restoreTarget.1 ∧
      state.restoreTarget.2.Ahead old above other.restoreTarget.2 := by
  obtain ⟨same, inside⟩ := h.targets.of_pushed
  obtain ⟨target, rest, target', rest', saved, saved'⟩ := inside.exists_cons
  unfold RenderState.restoreTarget
  rw [saved, saved']
  refine ⟨congrArg some same, ?_, ?_, ⟨h.holds.blocks, h.holds.store⟩⟩
  · rw [saved, saved'] at inside
    exact inside
  · rw [h.others]
    rfl

theorem mergeTarget (h : state.Ahead old (above + 1) other) (slot : String) :
    (state.mergeTarget slot).Ahead old above (other.mergeTarget slot) := by
  obtain ⟨same, inside⟩ := h.targets.of_pushed
  obtain ⟨target, rest, target', rest', saved, saved'⟩ := inside.exists_cons
  unfold RenderState.mergeTarget RenderState.restoreTarget
  rw [saved, saved']
  refine ⟨?_, ?_, ⟨h.holds.blocks, h.holds.store⟩⟩
  · rw [saved, saved'] at inside
    exact same ▸ inside.merge state.target slot
  · rw [h.others]
    rfl

theorem bindBlock (h : state.Ahead old above other) {block : BoundBlock}
    (balanced : Balanced block.body) :
    (state.bindBlock block).1 = (other.bindBlock block).1 ∧
      (state.bindBlock block).2.Ahead old above (other.bindBlock block).2 := by
  refine ⟨?_, h.change ((·.bindBlock block |>.2)) (·.bindBlock_targets block)
    (fun target saved => ?_) (bindBlock_holds h.holds balanced)⟩
  · rw [h.others, bindBlock_withTargets]
  · rw [bindBlock_withTargets]

end RenderState.Ahead

/-! ## Calls -/

/-- **The call of a view** writes behind old text as it does without, if the steps of views
do. -/
theorem callView_ahead {execute : Executor}
    (makes : environment.Makes fun steps => Balanced steps ∧ Contentless steps)
    (steps : ∀ origin steps, Balanced steps → Contentless steps →
      (ahead old above).Couples (execute origin steps) (execute origin steps))
    (path : String) (overrides : Option Value) (position : Position) :
    (ahead old above).Couples (callView environment execute path overrides position)
      (callView environment execute path overrides position) := by
  intro state other related
  rw [callView_run, callView_run]
  have depth : state.depth = other.depth := by
    rw [related.others]
    rfl
  have store : state.store = other.store := by
    rw [related.others]
    rfl
  rw [depth, store, related.context]
  split
  · exact ⟨rfl, trivial⟩
  · have compiled := compileView_holds makes path related.holds.store
    generalize (environment.compileView path).run.run other.store = result at compiled ⊢
    rcases result with ⟨error | view, store⟩
    · exact ⟨rfl, trivial⟩
    · obtain ⟨⟨balanced, silent⟩, kept⟩ := compiled
      dsimp only
      cases overriddenFields other.context overrides position with
      | error error => exact ⟨rfl, trivial⟩
      | ok fields =>
        have entered : (state.enterView store fields).Ahead old above
            (other.enterView store fields) :=
          related.change ((·.enterView store fields)) (fun _ => rfl) (fun _ _ => rfl)
            ⟨related.holds.blocks, kept⟩
        have agree := steps view.serial view.program.steps balanced silent _ _ entered
        dsimp only
        generalize (execute view.serial view.program.steps).run.run (state.enterView _ _) = result
          at agree ⊢
        generalize (execute view.serial view.program.steps).run.run (other.enterView _ _) = result'
          at agree ⊢
        rcases result with ⟨error | value, after⟩ <;>
          rcases result' with ⟨error' | value', after'⟩
        · exact ⟨agree.1, trivial⟩
        · exact agree.elim
        · exact agree.elim
        · refine ⟨rfl, ?_⟩
          have left : (other.leaveView after).Ahead old above (other.leaveView after') :=
            agree.2.change other.leaveView (fun _ => rfl) (fun _ _ => rfl)
              ⟨agree.2.holds.blocks, agree.2.holds.store⟩
          have callers : state.leaveView after = other.leaveView after := by
            rw [related.others]
            rfl
          rw [callers]
          exact left

/-- **The call of a print block** does the same, whatever its steps write: its own target
stands on top. -/
theorem callBlock_ahead {execute : Executor}
    (steps : ∀ origin steps, Balanced steps →
      (ahead old (above + 1)).Couples (execute origin steps) (execute origin steps))
    (index : Nat) (arguments : List Value) :
    (ahead old above).Couples (callBlock execute index arguments)
      (callBlock execute index arguments) := by
  intro state other related
  rw [callBlock_run, callBlock_run]
  have blocks : state.blocks = other.blocks := by
    rw [related.others]
    rfl
  have depth : state.depth = other.depth := by
    rw [related.others]
    rfl
  rw [blocks, depth]
  cases found : other.blocks[index]? with
  | none => exact ⟨rfl, trivial⟩
  | some block =>
    dsimp only
    split
    · exact ⟨rfl, trivial⟩
    · let frame := argumentFrame block.parameters arguments
      have entered : (state.enterBlock frame).Ahead old (above + 1) (other.enterBlock frame) :=
        ⟨.pushed {} related.targets, by rw [related.others]; rfl,
          ⟨related.holds.blocks, related.holds.store⟩⟩
      have balanced : Balanced block.body :=
        related.holds.blocks block (List.mem_of_getElem? found)
      have agree := steps block.origin block.body balanced _ _ entered
      generalize (execute block.origin block.body).run.run (state.enterBlock frame) = result
        at agree ⊢
      generalize (execute block.origin block.body).run.run (other.enterBlock frame) = result'
        at agree ⊢
      rcases result with ⟨error | value, after⟩ <;>
        rcases result' with ⟨error' | value', after'⟩
      · exact ⟨congrArg _ agree.1, trivial⟩
      · exact agree.elim
      · exact agree.elim
      · have popped : after.popFrame.Ahead old (above + 1) after'.popFrame :=
          agree.2.change RenderState.popFrame (fun _ => rfl) (fun _ _ => rfl)
            ⟨agree.2.holds.blocks, agree.2.holds.store⟩
        obtain ⟨same, restored⟩ := popped.restoreTarget
        refine ⟨by rw [same], ?_⟩
        exact restored.change Render.leave (fun _ => rfl) (fun _ _ => rfl)
          ⟨restored.holds.blocks, restored.holds.store⟩

/-! ## Steps -/

/-- A step that switches no target does by itself the same, if it writes no content where
the states differ. -/
theorem Step.ownCouples_ahead (environment : Environment) (origin : Nat) {step : Step}
    (keeps : ¬step.SwitchesTarget)
    (inside : ∀ body ∈ step.bodies, Balanced body)
    (silent : above = 0 → ∀ slot, step ≠ .renderContent slot) :
    step.OwnCouples environment environment (ahead old above) origin := by
  cases step with
  | saveTarget | mergeTarget slot => exact absurd trivial keeps
  | renderContent slot =>
    cases above with
    | zero => exact absurd rfl (silent rfl slot)
    | succ above => exact fun state other related => related.writeContent slot
  | printBlock expression parameters body =>
    exact fun state other related => related.bindBlock (inside body (by simp [bodies]))
  | setLayout path =>
    intro state other related
    have counted : state.partialDepth = other.partialDepth := by
      rw [related.others]
      rfl
    rw [counted]
    split
    · exact related.change ((·.setLayout path)) (fun _ => rfl) (fun _ _ => rfl)
        ⟨related.holds.blocks, related.holds.store⟩
    · exact related
  | loop condition body => exact rfl
  | _ => trivial

/-- **A capture** does the same behind old text as without, if its body does with one more
target on top. -/
theorem capture_ahead {body : Render Unit} (h : (ahead old (above + 1)).Couples body body)
    (slot : String) :
    (ahead old above).Couples
      (do modify (·.saveTarget); body; modify (·.mergeTarget slot))
      (do modify (·.saveTarget); body; modify (·.mergeTarget slot)) := by
  intro state other related
  simp only [run_bind, run_modify]
  have started : state.saveTarget.Ahead old (above + 1) other.saveTarget :=
    ⟨.pushed {} related.targets, by rw [related.others]; rfl,
      ⟨related.holds.blocks, related.holds.store⟩⟩
  have agree := h _ _ started
  generalize body.run.run state.saveTarget = result at agree ⊢
  generalize body.run.run other.saveTarget = result' at agree ⊢
  rcases result with ⟨error | value, after⟩ <;> rcases result' with ⟨error' | value', after'⟩
  · exact ⟨agree.1, trivial⟩
  · exact agree.elim
  · exact agree.elim
  · exact ⟨rfl, agree.2.mergeTarget slot⟩

/-- The operations of the state that all steps share do the same on all targets. -/
theorem ahead_state (environment : Environment) (old : Target) (above : Nat) :
    StateCouple environment environment (ahead old above) where
  lookup name related := related.lookup name
  context related := related.context
  write text _ _ related := related.write text
  assign name value related := related.assign? name value
  declare name value _ _ related := related.declare name value
  pushFrame frame related :=
    related.change ((·.pushFrame frame)) (fun _ => rfl) (fun _ _ => rfl)
      ⟨related.holds.blocks, related.holds.store⟩
  popFrame related :=
    related.change ((·.popFrame)) (fun _ => rfl) (fun _ _ => rfl)
      ⟨related.holds.blocks, related.holds.store⟩
  popFrame_throws _ := trivial

/-- **Balanced steps do the same behind old text as without**, wherever the old text
stands, but for content where it stands at the front.  By induction on the derivation that
they are balanced. -/
theorem executeSteps_ahead
    (same : ∀ above, RenderCouple environment environment calls calls (ahead old above))
    (origin : Nat) {steps : List Step} (balanced : Balanced steps) (above : Nat)
    (silent : above = 0 → Contentless steps) :
    (ahead old above).Couples (executeSteps environment calls origin steps)
      (executeSteps environment calls origin steps) := by
  induction balanced generalizing above with
  | nil => exact .pure _
  | @step step rest leaves inside _ ihInside ihNext =>
    rw [executeSteps_cons]
    refine .bind (executeStep_couples (same above) step ?_ fun body direct => ?_) fun _ => ?_
    · refine Step.ownCouples_ahead environment origin leaves inside fun front slot here => ?_
      exact silent front slot (.here (here ▸ List.mem_cons_self))
    · exact ihInside body direct above fun front => (silent front).of_mem_bodies direct
    · exact ihNext above fun front => (silent front).of_subset (List.subset_cons_self step rest)
  | @capture slot body rest _ _ ihInside ihNext =>
    rw [executeSteps_capture]
    refine .bind (capture_ahead (ihInside (above + 1) nofun) slot) fun _ => ?_
    refine ihNext above fun front => (silent front).of_subset fun step mem => ?_
    exact List.mem_cons_of_mem _ (List.mem_append_right _ (List.mem_cons_of_mem _ mem))

/-- **Executions do the same behind old text as without**, by induction on the levels
below. -/
theorem executeWithin_ahead
    (makes : environment.Makes fun steps => Balanced steps ∧ Contentless steps)
    (levels origin : Nat) {steps : List Step} (balanced : Balanced steps) (above : Nat)
    (silent : above = 0 → Contentless steps) :
    (ahead old above).Couples (executeWithin environment levels origin steps)
      (executeWithin environment levels origin steps) := by
  induction levels generalizing above origin steps with
  | zero => exact .pure _
  | succ levels ih =>
    refine executeSteps_ahead (fun above => ?_) origin balanced above silent
    exact
      { ahead_state environment old above with
        functions := rfl
        block := callBlock_ahead fun origin steps balanced =>
          ih origin balanced (above + 1) nofun
        view := callView_ahead makes fun origin steps balanced silent =>
          ih origin balanced above fun _ => silent }

/-! ## The whole execution -/

/-- **Output is written behind what was written before, which makes no other difference.**
The program is compiled, writes no content of layouts or slots, and neither does any view
that is kept or can be made.

Executed from a state, and from the same state with an empty target, it ends with the same
result.  When it returns, the states are the same but for their targets, and the target of
the first is the old one into which that of the second was merged: all its texts are
written behind the old ones, and the content of the layout is the old one. -/
theorem execute_appends (environment : Environment) {document : Document} {program : Program}
    (compiled : document.compile = .ok program) (silent : Contentless program.steps)
    (views : environment.Makes Contentless) {state : RenderState} (holds : state.HoldsBalanced)
    (kept : state.store.Holds Contentless) (origin : Nat) :
    let run := (environment.execute origin program.steps).run.run state
    let fresh := (environment.execute origin program.steps).run.run { state with target := {} }
    run.1 = fresh.1 ∧
      (run.1 = .ok () →
        run.2 = { fresh.2 with target := state.target.merge fresh.2.target none } ∧
        run.2.target.default = state.target.default ++ fresh.2.target.default ∧
        (∀ slot, run.2.target.slot slot =
          state.target.slot slot ++ fresh.2.target.slot slot) ∧
        run.2.target.layoutContent = state.target.layoutContent) := by
  intro run fresh
  have makes : environment.Makes fun steps => Balanced steps ∧ Contentless steps :=
    fun key source program loaded made =>
      ⟨compileSource_balanced environment key source program made,
        views key source program loaded made⟩
  have nothing : state.target.merge {} none = state.target := by
    simp [Target.merge, Target.append]
  have start : state.Ahead state.target 0 { state with target := {} } := by
    refine ⟨?_, rfl, holds.blocks, fun entry mem => ⟨holds.store entry mem, kept entry mem⟩⟩
    have front : Target.StacksAhead state.target 0 (state.target.merge {} none :: state.saved)
        ({} :: state.saved) := .here List.nodup_nil
    rwa [nothing] at front
  have agree : (ahead state.target 0).Agrees run fresh :=
    executeWithin_ahead makes (maxDepth + 1) origin (document.compile_balanced compiled) 0
      (fun _ => silent) _ _ start
  generalize run = run at agree
  generalize fresh = fresh at agree
  rcases run with ⟨error | _, after⟩ <;> rcases fresh with ⟨error' | _, after'⟩
  · exact ⟨congrArg Except.error agree.1, nofun⟩
  · exact agree.elim
  · exact agree.elim
  · refine ⟨rfl, fun _ => ?_⟩
    obtain ⟨-, related⟩ := agree
    obtain ⟨distinct, target, saved⟩ := related.targets.of_front
    have merged : after = { after' with target := state.target.merge after'.target none } := by
      rw [related.others, target, saved]
      rfl
    have text : after.target = (state.target.fill after'.target.slots).append
        after'.target.default := target
    refine ⟨merged, ?_, fun slot => ?_, ?_⟩
    · rw [text, Target.append, Target.fill_default]
    · rw [text]
      exact Target.slot_fill distinct state.target slot
    · rw [text, Target.append, Target.fill_layoutContent]

/-- A capture, a printed block and another view, behind old text in the default text and in
a slot. -/
theorem execute_appends_captures :
    let position : Position := .start
    let call : Expression := ⟨"$block()", position, .call ⟨0, 8⟩ (.identifier ⟨0, 6⟩ "$block") []⟩
    let document : Document := ⟨[.contentFor position "head" [.text position "1"],
      .print position call (some ([], [.text position "p"])), .render position "row" none]⟩
    let program : Program := ⟨[.saveTarget, .block [.text "1"], .mergeTarget "head",
      .printBlock call [] [.text "p"], .renderPartial "row" none position]⟩
    let environment : Environment :=
      { options := {}, source := .memory [("row", "r")], functions := fun _ _ => .ok .null }
    let old : Target := { default := "a", slots := [("head", "0")], layoutContent := "C" }
    let state : RenderState := { RenderState.start .undefined {} with target := old }
    let run := (environment.execute 0 program.steps).run.run state
    let fresh := (environment.execute 0 program.steps).run.run { state with target := {} }
    document.compile = .ok program ∧ Contentless program.steps ∧
      environment.Makes Contentless ∧ state.HoldsBalanced ∧ state.store.Holds Contentless ∧
      run.1 = .ok () ∧ fresh.2.target = { default := "pr", slots := [("head", "1")] } ∧
      run.2.target.default = "apr" ∧ run.2.target.slot "head" = "01" ∧
      run.2.target.layoutContent = "C" := by
  intro position call document program environment old state run fresh
  have compiled : document.compile = .ok program := rfl
  have leaf {step : Step} (bodies : step.bodies = [])
      (other : ∀ slot, step ≠ .renderContent slot) {rest : List Step} (others : Contentless rest) :
      Contentless (step :: rest) :=
    .cons other (by rw [bodies]; exact List.forall_mem_nil _) others
  have text (text : String) : Contentless [.text text] := leaf rfl (fun _ => Step.noConfusion) .nil
  have silent : Contentless program.steps :=
    leaf rfl (fun _ => Step.noConfusion) <|
      .cons (fun _ => Step.noConfusion) (List.forall_mem_singleton.mpr (text "1")) <|
        leaf rfl (fun _ => Step.noConfusion) <|
          .cons (fun _ => Step.noConfusion) (List.forall_mem_singleton.mpr (text "p")) <|
            leaf rfl (fun _ => Step.noConfusion) .nil
  have compiledRow : environment.compileSource "row" "r" = .ok ⟨[.text "r"]⟩ := by
    cbv
  have views : environment.Makes Contentless := by
    intro key source program loaded made
    have entry : (key, source) ∈ [("row", "r")] := by
      simp only [environment, ViewSource.load] at loaded
      split at loaded
      · cases loaded
        exact Table.mem_of_get? (by assumption)
      · cases loaded
    obtain ⟨rfl, rfl⟩ := Prod.mk.inj (List.mem_singleton.mp entry)
    cases compiledRow.symm.trans made
    exact text "r"
  have holds : state.HoldsBalanced := ⟨List.forall_mem_nil _, List.forall_mem_nil _⟩
  have kept : state.store.Holds Contentless := List.forall_mem_nil _
  have returned : run.1 = .ok () := eq_ok_of_toOption (by decide +kernel)
  have written : fresh.2.target = { default := "pr", slots := [("head", "1")] } := by
    decide +kernel
  obtain ⟨-, merged⟩ := execute_appends environment compiled silent views holds kept 0
  obtain ⟨-, default, slots, content⟩ := merged returned
  refine ⟨compiled, silent, views, holds, kept, returned, written, ?_, ?_, content⟩
  · rw [written] at default
    exact default
  · rw [written] at slots
    exact slots "head"

end ViewTemplate
