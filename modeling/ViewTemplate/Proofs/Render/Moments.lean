import ViewTemplate.Proofs.Program.Identity
import ViewTemplate.Proofs.Render.Calls

/-!
# Moments of a render

What happens in the middle of a render is gone when it ends: which values were evaluated and
compared, what was called from where, which step failed first.  A recorded action keeps
account of it.  It does what an action does, and it lists the moments at which something
happened, each with the state of the render at that moment and with what the views that are
rendered in place have put aside.

Two things can be read off any account, whatever was recorded, because no way of making a
recorded action breaks them:

* a failure is not survived: if a step failed, or an expression did, then so did everything
  around it, and with the very error (`Recorded.faithful`);
* what a moment says of its state is so: a print block that is bound stands in the table, and
  one that is called starts from the caller's state with its arguments (`Recorded.sound`).

## Main Definitions

* `Event`, `Moment` — something that happens, and when
* `Recording` — what comes of a recorded action
* `Recorded` — recorded actions
* `Recorded.step`, `Recorded.snippet` — recording failures
* `Recorded.binding`, `Recorded.inBlock`, `Recorded.inView` — binding and calling
-/

namespace ViewTemplate

/-! ## Moments -/

/-- Why the evaluation of a snippet fails during a render. -/
abbrev Fail := Snippet.EvalError RenderError

/-- **What happens during a render.** -/
inductive Event where
  /-- An expression or a call has a value. -/
  | evaluated (value : Value)
  /-- Two values are compared for equality. -/
  | compared (value other : Value)
  /-- A function is called. -/
  | called (callable : Callable) (arguments : List Value)
  /-- A print block is called that is not in the table. -/
  | missed (index : Nat)
  /-- A print block is given its place in the table. -/
  | bound (index : Nat) (block : BoundBlock)
  /-- The steps of a print block begin, called from some state. -/
  | entered (block : BoundBlock) (arguments : List Value) (caller : RenderState)
  /-- The evaluation of the snippet at some place fails. -/
  | threw (position : Position) (cause : Fail)
  /-- A step fails. -/
  | failed (step : Step) (error : RenderError)

/-- What the failure of a step or snippet is reported as. -/
def Event.failure? : Event → Option RenderError
  | threw position cause => some (.ofEval position cause)
  | failed _ error => some error
  | _ => none

/-- An event that neither is a failure nor says anything of the state. -/
def Event.Mere : Event → Prop
  | evaluated _ | compared .. | called .. | missed _ => True
  | bound .. | entered .. | threw .. | failed .. => False

/-- What expressions see: the context of a render and its frames. -/
structure Surroundings where
  context : Value
  frames : List Frame

/-- What expressions see in a state. -/
def RenderState.surroundings (state : RenderState) : Surroundings :=
  ⟨state.context, state.frames⟩

/-- **A moment of a render.** -/
structure Moment where
  event : Event
  /-- The state at that moment. -/
  state : RenderState
  /-- What the views that are being rendered in place have put aside, the outermost first. -/
  asides : List Surroundings := []

/-- A moment inside a view that is rendered in place. -/
def Moment.inside (aside : Surroundings) (moment : Moment) : Moment :=
  { moment with asides := aside :: moment.asides }

/-- What a moment says of its state is so. -/
def Moment.Sound (moment : Moment) : Prop :=
  match moment.event with
  | .bound index block => moment.state.blocks[index]? = some block
  | .entered block arguments caller =>
    moment.state = caller.enterBlock (argumentFrame block.parameters arguments)
  | _ => True

/-! ## Places of print blocks -/

/-- The place of a print block in a table, and the table with the block in it. -/
def BoundBlock.bindIn (block : BoundBlock) (blocks : List BoundBlock) : Nat × List BoundBlock :=
  match blocks.findIdx? (· == block) with
  | some index => (index, blocks)
  | none => (blocks.length, blocks ++ [block])

theorem RenderState.bindBlock_eq (block : BoundBlock) (state : RenderState) :
    state.bindBlock block =
      ((block.bindIn state.blocks).1, { state with blocks := (block.bindIn state.blocks).2 }) := by
  unfold bindBlock BoundBlock.bindIn
  cases state.blocks.findIdx? (· == block) with
  | none => rfl
  | some index => rfl

/-- What is found in a list is found in the same place when the list has grown. -/
theorem getElem?_of_prefix {α : Type} {things more : List α} (grown : things <+: more) {index : Nat}
    {thing : α} (found : things[index]? = some thing) : more[index]? = some thing := by
  obtain ⟨bound, rfl⟩ := List.getElem?_eq_some_iff.mp found
  exact List.prefix_iff_getElem?.mp grown index bound

namespace BoundBlock

variable (block : BoundBlock) (blocks : List BoundBlock)

/-- In the place of a print block is the block. -/
theorem getElem?_bindIn : (block.bindIn blocks).2[(block.bindIn blocks).1]? = some block := by
  unfold bindIn
  cases found : blocks.findIdx? (· == block) with
  | none => exact List.getElem?_concat_length
  | some index =>
    obtain ⟨bound, same, -⟩ := List.findIdx?_eq_some_iff_getElem.mp found
    rw [List.getElem?_eq_getElem bound, eq_of_beq same]

theorem bindIn_lt : (block.bindIn blocks).1 < (block.bindIn blocks).2.length :=
  (List.getElem?_eq_some_iff.mp (block.getElem?_bindIn blocks)).1

/-- The table grows at its end. -/
theorem prefix_bindIn : blocks <+: (block.bindIn blocks).2 := by
  unfold bindIn
  cases blocks.findIdx? (· == block) with
  | none => exact List.prefix_append _ _
  | some index => exact List.prefix_rfl

variable {block blocks}

/-- A print block is added only where it is not in the table. -/
theorem nodup_bindIn (nodup : blocks.Nodup) : (block.bindIn blocks).2.Nodup := by
  unfold bindIn
  cases found : blocks.findIdx? (· == block) with
  | some index => exact nodup
  | none =>
    refine List.nodup_append.mpr ⟨nodup, List.pairwise_singleton _ _, ?_⟩
    rintro other mem _ mem' rfl
    have absent := List.findIdx?_eq_none_iff.mp found other mem
    rw [List.mem_singleton.mp mem', beq_self_eq_true] at absent
    cases absent

/-- A print block that is in the table keeps its place. -/
theorem bindIn_of_getElem? (nodup : blocks.Nodup) {index : Nat}
    (here : blocks[index]? = some block) : block.bindIn blocks = (index, blocks) := by
  unfold bindIn
  cases found : blocks.findIdx? (· == block) with
  | none =>
    have absent := List.findIdx?_eq_none_iff.mp found block (List.mem_of_getElem? here)
    rw [beq_self_eq_true] at absent
    cases absent
  | some other =>
    obtain ⟨bound, same, -⟩ := List.findIdx?_eq_some_iff_getElem.mp found
    have there : blocks[other]? = some block := by
      rw [List.getElem?_eq_getElem bound, eq_of_beq same]
    rw [(List.getElem?_inj bound nodup).mp (there.trans here.symm)]

end BoundBlock

/-! ## Recorded actions -/

/-- Errors as which a failed render can be reported. -/
class Reports (ε : Type) where
  report : RenderError → ε
  /-- Errors for a print block that is not in the table. -/
  lacks : ε → Prop

/-- The error of a render in which a print block is called that is not in the table. -/
def RenderError.Lacks : RenderError → Prop
  | .evaluation (.unboundBlock _) _ => True
  | _ => False

/-- A print block is called that is not in the table, here or inside another one. -/
def Fail.Lacks : Fail → Prop
  | .unboundBlock _ => True
  | .failed failure => failure.Lacks
  | _ => False

instance : Reports RenderError := ⟨id, RenderError.Lacks⟩

instance : Reports Fail := ⟨.failed, Fail.Lacks⟩

variable {ε α β : Type} [Reports ε]

/-- **What comes of a recorded action.** -/
structure Recording (ε α : Type) where
  result : Except ε α
  /-- The state that is left behind. -/
  after : RenderState
  /-- What happened, in order. -/
  moments : List Moment

/-- No failure is survived. -/
def Recording.Faithful (recording : Recording ε α) : Prop :=
  ∀ moment ∈ recording.moments, ∀ error, moment.event.failure? = some error →
    recording.result = .error (Reports.report error)

/-- All moments are sound. -/
def Recording.Sound (recording : Recording ε α) : Prop :=
  ∀ moment ∈ recording.moments, moment.Sound

/-- **A recorded action**: an action of a render that lists what happens, survives no failure
and tells the truth about its states. -/
structure Recorded (ε : Type) [Reports ε] (α : Type) where
  run : RenderState → Recording ε α
  faithful : ∀ state, (run state).Faithful
  sound : ∀ state, (run state).Sound

/-- A recording, and behind it that of what follows if there is a result. -/
def Recording.andThen (recording : Recording ε α) (next : α → RenderState → Recording ε β) :
    Recording ε β :=
  match recording.result with
  | .error error => ⟨.error error, recording.after, recording.moments⟩
  | .ok value =>
    let rest := next value recording.after
    ⟨rest.result, rest.after, recording.moments ++ rest.moments⟩

namespace Recorded

/-- An action in which nothing is recorded. -/
def silent (action : ExceptT ε (StateM RenderState) α) : Recorded ε α where
  run state := ⟨(action.run.run state).1, (action.run.run state).2, []⟩
  faithful _ _ mem := by cases mem
  sound _ _ mem := by cases mem

instance : Monad (Recorded ε) where
  pure value := silent (pure value)
  bind action next :=
    { run := fun state => (action.run state).andThen fun value => (next value).run
      faithful := by
        intro state moment mem error reported
        have before := action.faithful state moment
        unfold Recording.andThen at mem ⊢
        generalize action.run state = recording at before mem ⊢
        obtain ⟨result, after, moments⟩ := recording
        cases result with
        | error own =>
          cases before mem error reported
          rfl
        | ok value =>
          rcases List.mem_append.mp mem with earlier | later
          -- There is a result, so nothing has failed before it.
          · cases before earlier error reported
          · exact (next value).faithful after moment later error reported
      sound := by
        intro state moment mem
        have before := action.sound state moment
        unfold Recording.andThen at mem
        generalize action.run state = recording at before mem
        obtain ⟨result, after, moments⟩ := recording
        cases result with
        | error own => exact before mem
        | ok value =>
          rcases List.mem_append.mp mem with earlier | later
          · exact before earlier
          · exact (next value).sound after moment later }

instance : MonadStateOf RenderState (Recorded ε) where
  get := silent get
  set state := silent (set state)
  modifyGet change := silent (modifyGet change)

/-- A failure that is raised here. -/
def fail (error : ε) : Recorded ε α :=
  silent (throw error)

/-- A result that depends on no state. -/
def ofExcept (result : Except ε α) : Recorded ε α :=
  silent (MonadExcept.ofExcept result)

/-- Records an event. -/
def note (event : Event) (mere : event.Mere) : Recorded ε Unit where
  run state := ⟨.ok (), state, [⟨event, state, []⟩]⟩
  faithful _ moment mem error reported := by
    rw [List.mem_singleton.mp mem] at reported
    cases event <;> cases mere <;> cases reported
  sound _ moment mem := by
    rw [List.mem_singleton.mp mem]
    cases event <;> cases mere <;> trivial

/-- What has a value that is recorded. -/
def valued (action : Recorded ε Value) : Recorded ε Value := do
  let value ← action
  note (.evaluated value) trivial
  return value

/-! ### Brackets -/

/-- A change of the state before an action, and one behind it whether or not it failed. -/
def bracket (opening : RenderState → RenderState) (closing : RenderState → RenderState → RenderState)
    (result : RenderState → α → β) (action : Recorded ε α) : Recorded ε β where
  run state :=
    let inside := action.run (opening state)
    ⟨inside.result.map (result inside.after), closing state inside.after, inside.moments⟩
  faithful state moment mem error reported := by
    change (action.run (opening state)).result.map _ = _
    rw [action.faithful (opening state) moment mem error reported]
    rfl
  sound state := action.sound (opening state)

/-- An action in a new innermost frame. -/
def inFrame (frame : Frame) : Recorded ε α → Recorded ε α :=
  bracket (·.pushFrame frame) (fun _ after => after.popFrame) fun _ value => value

/-- The steps of a view that is a part of another one. -/
def inPart : Recorded ε α → Recorded ε α :=
  bracket (fun state => { state with partialDepth := state.partialDepth + 1 })
    (fun _ after => { after with partialDepth := after.partialDepth - 1 }) fun _ value => value

/-- The steps of a view that is rendered in place, with fields of its own.  What was there
before is put aside for them. -/
def inView (fields : Table Value) (action : Recorded ε α) : Recorded ε α where
  run state :=
    let inside := action.run (state.enterView state.store fields)
    ⟨inside.result, state.leaveView inside.after,
      inside.moments.map (.inside state.surroundings)⟩
  faithful state moment mem error reported := by
    obtain ⟨own, here, rfl⟩ := List.mem_map.mp mem
    exact action.faithful (state.enterView state.store fields) own here error reported
  sound state moment mem := by
    obtain ⟨own, here, rfl⟩ := List.mem_map.mp mem
    exact action.sound (state.enterView state.store fields) own here

/-- The steps of a print block, called with arguments, and the text that they write. -/
def inBlock (block : BoundBlock) (arguments : List Value) (action : Recorded ε Unit) :
    Recorded ε Value where
  run state :=
    let entered := state.enterBlock (argumentFrame block.parameters arguments)
    let inside := action.run entered
    ⟨inside.result.map fun _ =>
        .string ((inside.after.popFrame.restoreTarget.1.map (·.default)).getD ""),
      inside.after.leaveBlock, ⟨.entered block arguments state, entered, []⟩ :: inside.moments⟩
  faithful state moment mem error reported := by
    rcases List.mem_cons.mp mem with rfl | mem
    · cases reported
    · dsimp only
      rw [action.faithful _ moment mem error reported]
      rfl
  sound state moment mem := by
    rcases List.mem_cons.mp mem with rfl | mem
    · rfl
    · exact action.sound _ moment mem

/-- A print block is given its place in the table. -/
def binding (block : BoundBlock) : Recorded ε Nat where
  run state :=
    let (index, after) := state.bindBlock block
    ⟨.ok index, after, [⟨.bound index block, after, []⟩]⟩
  faithful _ moment mem error reported := by
    rw [List.mem_singleton.mp mem] at reported
    cases reported
  sound state moment mem := by
    rw [List.mem_singleton.mp mem]
    change (state.bindBlock block).2.blocks[(state.bindBlock block).1]? = some block
    rw [RenderState.bindBlock_eq]
    exact block.getElem?_bindIn state.blocks

theorem binding_run (block : BoundBlock) (state : RenderState) :
    (binding block : Recorded ε Nat).run state =
      let (index, blocks) := block.bindIn state.blocks
      ⟨.ok index, { state with blocks }, [⟨.bound index block, { state with blocks }, []⟩]⟩ := by
  unfold binding
  dsimp only
  rw [RenderState.bindBlock_eq]

/-! ### Failures -/

/-- A step, whose failure is recorded. -/
def step (step : Step) (action : Recorded RenderError α) : Recorded RenderError α where
  run state :=
    let inside := action.run state
    match inside.result with
    | .ok _ => inside
    | .error error =>
      { inside with moments := inside.moments ++ [⟨.failed step error, inside.after, []⟩] }
  faithful state moment mem error reported := by
    have before := action.faithful state moment
    dsimp only at mem ⊢
    generalize action.run state = recording at before mem ⊢
    obtain ⟨result, after, moments⟩ := recording
    cases result with
    | ok value => exact before mem error reported
    | error own =>
      rcases List.mem_append.mp mem with earlier | here
      · exact before earlier error reported
      · rw [List.mem_singleton.mp here] at reported
        cases reported
        rfl
  sound state moment mem := by
    have before := action.sound state moment
    dsimp only at mem
    generalize action.run state = recording at before mem
    obtain ⟨result, after, moments⟩ := recording
    cases result with
    | ok value => exact before mem
    | error own =>
      rcases List.mem_append.mp mem with earlier | here
      · exact before earlier
      · rw [List.mem_singleton.mp here]
        trivial

/-- The evaluation of the snippet at some place, whose failure is recorded. -/
def snippet (position : Position) (action : Recorded Fail α) : Recorded RenderError α where
  run state :=
    let inside := action.run state
    match inside.result with
    | .ok value => ⟨.ok value, inside.after, inside.moments⟩
    | .error cause =>
      ⟨.error (.ofEval position cause), inside.after,
        inside.moments ++ [⟨.threw position cause, inside.after, []⟩]⟩
  faithful state moment mem error reported := by
    have before := action.faithful state moment
    dsimp only at mem ⊢
    generalize action.run state = recording at before mem ⊢
    obtain ⟨result, after, moments⟩ := recording
    cases result with
    | ok value => cases before mem error reported
    | error own =>
      rcases List.mem_append.mp mem with earlier | here
      · cases before earlier error reported
        rfl
      · rw [List.mem_singleton.mp here] at reported
        cases reported
        rfl
  sound state moment mem := by
    have before := action.sound state moment
    dsimp only at mem
    generalize action.run state = recording at before mem
    obtain ⟨result, after, moments⟩ := recording
    cases result with
    | ok value => exact before mem
    | error own =>
      rcases List.mem_append.mp mem with earlier | here
      · exact before earlier
      · rw [List.mem_singleton.mp here]
        trivial

/-- What fails inside a snippet because the steps of a print block do. -/
def relayed (action : Recorded RenderError α) : Recorded Fail α where
  run state :=
    let inside := action.run state
    ⟨inside.result.mapError .failed, inside.after, inside.moments⟩
  faithful state moment mem error reported := by
    dsimp only
    rw [action.faithful state moment mem error reported]
    rfl
  sound := action.sound

/-! ### Loops -/

/-- An action for each of several things, in order. -/
def forEach (action : β → Recorded ε Unit) : List β → Recorded ε Unit
  | [] => return ()
  | thing :: rest => do
    action thing
    forEach action rest

/-- An action again and again while a condition holds, at most `turns` times. -/
def repeatWhile (position : Position) (condition : Recorded RenderError Bool)
    (action : Recorded RenderError Unit) : (turns : Nat) → Recorded RenderError Unit
  | 0 => fail (.tooManyTurns position)
  | turns + 1 => do
    if ← condition then
      action
      repeatWhile position condition action turns

end Recorded

end ViewTemplate
