import ViewTemplate.Proofs.Document.Placement
import ViewTemplate.Proofs.Program.Origins
import ViewTemplate.Proofs.Render.KnownBlocks
import ViewTemplate.Proofs.Render.Nesting
import ViewTemplate.Proofs.Render.SpareFrames

/-!
# Print blocks that run in place

A print block that does nothing with its body but to call it once prints what the body would
have written where it stands (`prints_in_place`).

The two executions go different ways.  In place the body runs in one frame, on the target
that is current.  As a print block it is bound under a name in a frame of its own, called
with a further frame, on a target of its own and one call deeper; what it wrote becomes a
value, which is written to the target from before, and an error passes through the
evaluation of the expression.

A body notices none of that if its steps only write, evaluate, choose and repeat
(`Node.InPlace`), and if no expression or statement in it names the block
(`Node.names`).  The proof has one relation for all of the differences
(`RenderState.CapturedAt`), and every step keeps it.  Because no print block is anywhere to be
found in the state, none is ever called: values are alike on both sides where no blocks are
matched with each other (`Unmatched`).

## Main Definitions

* `Node.expressions`, `Node.names` — the expressions of a node, and the variables in them
* `Node.InPlace`, `Step.InPlace` — what writes, evaluates and chooses, and does nothing else
* `Unmatched` — no print blocks are matched, so only values without them are alike
* `RenderState.CapturedAt` — a state inside the call of a block, and the same one in place
* `capturing` — the coupling of such states
-/

namespace ViewTemplate

open Snippet

/-! ## What nodes name -/

/-- The expressions of a node itself, in order. -/
def Node.expressions : Node → List Expression
  | element _ tag _ => tag.attributes.flatMap (·.form.expressions)
  | print _ expression _ => [expression]
  | conditional _ condition _ _ => [condition]
  | elseIf _ condition _ _ => [condition]
  | switch _ expression cases _ => expression :: cases.map (·.condition)
  | foreach _ _ collection _ _ => [collection]
  | loop _ condition _ => [condition]
  | render _ _ context => context.toList
  | _ => []

/-- The statement of a node. -/
def Node.action? : Node → Option Action
  | action _ statement => some statement
  | printAction _ statement => some statement
  | _ => none

/-- The variables that expressions and perhaps a statement read, assign or make. -/
def snippetNames (expressions : List Expression) (action? : Option Action) : List String :=
  expressions.flatMap (·.body.names) ++ action?.toList.flatMap (·.body.names)

/-- The variables that the snippets of a node read, assign or make. -/
def Node.names (node : Node) : List String :=
  snippetNames node.expressions node.action?

/-- The variables that the snippets of a step read, assign or make, and not those in its
bodies. -/
def Step.names (step : Step) : List String :=
  snippetNames step.expressions step.action?

/-- **A node that can run in place**: it does not capture content, nor show what was
captured, nor render a view, nor print with a block. -/
def Node.InPlace : Node → Prop
  | contentFor .. => False
  | renderContent .. => False
  | render .. => False
  | print _ _ (some _) => False
  | _ => True

/-- A step that writes, evaluates, and executes bodies, and does nothing else. -/
def Step.InPlace : Step → Prop
  | renderPartial .. => False
  | renderContent _ => False
  | saveTarget => False
  | mergeTarget _ => False
  | printBlock .. => False
  | setLayout _ => False
  | _ => True

/-- A compiled attribute has the expressions of the attribute. -/
theorem Attribute.lower_expressions (written : Attribute) :
    written.lower.expressions = written.form.expressions := by
  obtain ⟨position, name, form⟩ := written
  cases form with
  | plain value =>
    cases value with
    | none => rfl
    | some value =>
      show value.2.filterMap _ = value.2.filterMap _
      congr
  | bound | conditional | append => rfl

namespace Node.Makes

variable {node : Node} {step : Step}

/-- A step names no other variables than its node. -/
theorem names_subset (made : node.Makes step) : step.names ⊆ node.names := by
  cases made with
  | openTag position tag children =>
    have same : (tag.attributes.map Attribute.lower).flatMap AttributeStep.expressions =
        tag.attributes.flatMap (·.form.expressions) := by
      rw [List.flatMap_map]
      simp only [Attribute.lower_expressions]
    simp only [Step.names, Node.names, Step.expressions, Node.expressions, same]
    exact List.Subset.refl _
  | switch position expression fallback other same =>
    simp only [Step.names, Node.names, Step.expressions, Node.expressions, same]
    exact List.Subset.refl _
  | closeTag => exact List.nil_subset _
  | _ => exact List.Subset.refl _

theorem inPlace (made : node.Makes step) (kind : node.InPlace) : step.InPlace := by
  cases made with
  | printBlock | render | renderContent | saveTarget | captured | mergeTarget =>
    exact absurd kind id
  | _ => trivial

end Node.Makes

/-! ## Values without print blocks -/

/-- **No print blocks are matched** with each other.  So only values without them are alike,
and only if they are equal. -/
def Unmatched (_ _ : Nat) : Prop :=
  False

namespace Unmatched

variable {value value' : Value}

theorem like (free : value.blocks = []) : value.Like Unmatched value := by
  apply Value.Like.refl
  rw [free]
  exact List.forall_mem_nil _

theorem eq (like : value.Like Unmatched value') : value = value' :=
  like.eq False.elim

theorem blocks_eq_nil (like : value.Like Unmatched value') : value.blocks = [] := by
  apply List.eq_nil_iff_forall_not_mem.mpr
  intro index mem
  obtain ⟨_, none⟩ := like.blocks_matched index mem
  exact none

theorem keptApart (value other : Value) : value.KeptApart Unmatched other :=
  fun _ _ _ _ _ _ none => none.elim

/-- Helpers that pass on what they were given make no print blocks of their own. -/
theorem helpers {environment : Environment} (honest : environment.PassesOn) (name : String)
    {arguments arguments' : List Value} (given : Value.ListLike Unmatched arguments arguments') :
    Ends (Value.Like Unmatched) (fun _ => True) (environment.functions name arguments)
      (environment.functions name arguments') := by
  rw [← given.eq False.elim]
  cases returned : environment.functions name arguments with
  | error fault => exact .error trivial
  | ok value =>
    refine .ok (like (List.eq_nil_iff_forall_not_mem.mpr fun index mem => ?_))
    obtain ⟨argument, here, inside⟩ := List.mem_flatMap.mp (honest _ _ _ returned mem)
    obtain ⟨_, same⟩ := exists_mem_of_forall₂ given argument here
    rw [blocks_eq_nil same] at inside
    exact absurd inside List.not_mem_nil

end Unmatched

/-- **No print block is to be found in a state**, neither in its context nor in its frames. -/
structure RenderState.Free (state : RenderState) : Prop where
  context : state.context.Like Unmatched state.context
  frames : List.Forall₂ (Value.FieldsLike Unmatched) state.frames state.frames

theorem RenderState.Free.of_surroundings {state : RenderState}
    (free : state.surroundings.blocks = []) : state.Free := by
  obtain ⟨context, frames⟩ := List.append_eq_nil_iff.mp free
  refine ⟨Unmatched.like context, List.forall₂_same.mpr fun frame here => ?_⟩
  cases Unmatched.like (List.flatMap_eq_nil_iff.mp frames frame here) with
  | object like => exact like

/-! ## States inside a call -/

theorem get?_blockFrame {index : Nat} {name : String} (other : name ≠ blockName) :
    (blockFrame index).get? name = none := by
  apply Table.get?_eq_none
  rintro (_ | ⟨_, ⟨⟩⟩)
  exact other rfl

/-- The state inside the call of a print block whose body wrote a text so far: the frame with
the name of the block stands between the frames of the body and the others, the target holds
nothing but the text, and the one from `outside` is saved; the table has the block in it, and
one more call is active. -/
def RenderState.inCall (index : Nat) (table : List BoundBlock) (outside : Target)
    (inner outer : List Frame) (text : String) (place : RenderState) : RenderState :=
  { place with
    frames := inner ++ blockFrame index :: outer
    target := { default := text }
    saved := outside :: place.saved
    blocks := table
    depth := place.depth + 1 }

/-- **A state inside the call of a print block, and the same state in place**, where the body has
`above` frames of its own and no print block is to be found. -/
def RenderState.CapturedAt (index : Nat) (table : List BoundBlock) (outside : Target)
    (above : Nat) (captured place : RenderState) : Prop :=
  ∃ (inner outer : List Frame) (text : String), inner.length = above ∧
    place.Free ∧ place.frames = inner ++ outer ∧ place.target = outside.append text ∧
      captured = place.inCall index table outside inner outer text

/-- States inside a call and in place, until the body returns.  Nothing is said of how they
differ when it fails. -/
def capturing (index : Nat) (table : List BoundBlock) (outside : Target) (above : Nat) :
    Coupling RenderState where
  returns := RenderState.CapturedAt index table outside above
  throws _ _ := True
  throws_of_returns _ := trivial

namespace RenderState.CapturedAt

variable {index : Nat} {table : List BoundBlock} {outside : Target} {above : Nat}
  {captured place : RenderState}

theorem lookup (states : CapturedAt index table outside above captured place)
    (environment : Environment) {name : String} (other : name ≠ blockName) :
    Option.Rel (Value.Like Unmatched) (captured.lookup environment name)
      (place.lookup environment name) := by
  obtain ⟨inner, outer, text, -, free, frames, -, rfl⟩ := states
  have same : (place.inCall index table outside inner outer text).lookup environment name =
      place.lookup environment name := by
    unfold RenderState.lookup inCall
    rw [frames, lookupFrames_behind (get?_blockFrame other)]
  rw [same]
  exact lookup_like rfl free.context free.frames name

theorem context (states : CapturedAt index table outside above captured place) :
    captured.context.Like Unmatched place.context := by
  obtain ⟨inner, outer, text, -, free, -, -, rfl⟩ := states
  exact free.context

theorem write (states : CapturedAt index table outside above captured place) (text : String) :
    CapturedAt index table outside above (captured.write text) (place.write text) := by
  obtain ⟨inner, outer, before, length, free, frames, target, rfl⟩ := states
  refine ⟨inner, outer, before ++ text, length, ⟨free.context, free.frames⟩, frames, ?_, rfl⟩
  show place.target.append text = _
  rw [target, Target.append, Target.append, Target.append, String.append_assoc]

theorem pushFrame (states : CapturedAt index table outside above captured place)
    {frame frame' : Frame} (like : Value.FieldsLike Unmatched frame frame') :
    CapturedAt index table outside (above + 1) (captured.pushFrame frame)
      (place.pushFrame frame') := by
  obtain ⟨inner, outer, text, rfl, free, frames, target, rfl⟩ := states
  obtain rfl := like.eq Unmatched.eq
  refine ⟨frame :: inner, outer, text, rfl, ⟨free.context, .cons like free.frames⟩, ?_, target, rfl⟩
  exact congrArg (frame :: ·) frames

theorem popFrame (states : CapturedAt index table outside (above + 1) captured place) :
    CapturedAt index table outside above captured.popFrame place.popFrame := by
  obtain ⟨inner, outer, text, length, free, frames, target, rfl⟩ := states
  obtain ⟨frame, rest, rfl⟩ := List.exists_cons_of_length_eq_add_one length
  have popped : place.popFrame.frames = rest ++ outer := by
    rw [RenderState.popFrame, frames]
    rfl
  refine ⟨rest, outer, text, Nat.succ.inj length, ⟨free.context, ?_⟩, popped, target, rfl⟩
  have likes := free.frames
  rw [frames] at likes
  rw [popped]
  cases likes with
  | cons _ likes => exact likes

/-- What is declared goes to the innermost frame, which is one of the body. -/
theorem declare (states : CapturedAt index table outside (above + 1) captured place)
    (name : String) {value value' : Value} (like : value.Like Unmatched value') :
    CapturedAt index table outside (above + 1) (captured.declare name value)
      (place.declare name value') := by
  obtain ⟨inner, outer, text, length, free, frames, target, rfl⟩ := states
  obtain ⟨frame, rest, rfl⟩ := List.exists_cons_of_length_eq_add_one length
  obtain rfl := Unmatched.eq like
  have declared : place.declare name value =
      { place with frames := frame.set name value :: (rest ++ outer) } := by
    rw [RenderState.declare, frames]
    rfl
  have likes := free.frames
  rw [frames] at likes
  rw [declared]
  refine ⟨frame.set name value :: rest, outer, text, length, ⟨free.context, ?_⟩, rfl, target, rfl⟩
  cases likes with
  | cons first likes => exact .cons (first.set name like) likes

theorem assign? (states : CapturedAt index table outside above captured place) {name : String}
    (other : name ≠ blockName) {value value' : Value} (like : value.Like Unmatched value') :
    Option.Rel (CapturedAt index table outside above) (captured.assign? name value)
      (place.assign? name value') := by
  obtain ⟨inner, outer, text, rfl, free, frames, target, rfl⟩ := states
  obtain rfl := Unmatched.eq like
  have absent : (blockFrame index).get? name = none := get?_blockFrame other
  have behind := assignFrames?_behind absent value inner outer
  have scopes := free.frames
  rw [frames] at scopes
  have likes := assignFrames?_like scopes name like
  -- The frame of the block has no such variable, so either both find it in a frame that they
  -- share, or both go on to the context.
  unfold RenderState.assign? inCall
  rw [frames]
  dsimp only
  generalize assignFrames? (inner ++ blockFrame index :: outer) name value = found at behind ⊢
  generalize assignFrames? (inner ++ outer) name value = found' at behind likes ⊢
  cases behind with
  | some related =>
    obtain ⟨inner', outer', length, rfl, rfl⟩ := related
    cases likes with
    | some likes =>
      exact .some ⟨inner', outer', text, length, ⟨free.context, likes⟩, rfl, target, rfl⟩
  | none =>
    have updated := (contextFields_like free.context).update? name like
    dsimp only
    generalize (contextFields place.context).update? name value = fields at updated ⊢
    cases updated with
    | none => exact .none
    | some like => exact .some ⟨inner, outer, text, rfl, ⟨.object like, scopes⟩, rfl, target, rfl⟩

end RenderState.CapturedAt

/-! ## Steps -/

section

variable {environment : Environment} {calls calls' : Calls} {origin origin' : Nat}
  {index : Nat} {table : List BoundBlock} {outside : Target} {above : Nat}

/-- Operations of the state do the same inside a call and in place, for all names but that of
the block. -/
theorem scope_capturing (honest : environment.PassesOn) :
    (renderScope environment calls).Relate (renderScope environment calls')
      (capturing index table outside above) Unmatched (· ≠ blockName) where
  lookup states other := RenderState.CapturedAt.lookup states environment other
  this states := RenderState.CapturedAt.context states
  assign states other like := RenderState.CapturedAt.assign? states other like
  callBlock none := none.elim
  callHost name _ _ given := Unmatched.helpers honest name given
  apart := Unmatched.keptApart

theorem evaluateExpression_capturing (honest : environment.PassesOn) {expression : Expression}
    (unnamed : blockName ∉ expression.body.names) :
    (capturing index table outside above).Relates (Value.Like Unmatched)
      (evaluateExpression environment calls expression)
      (evaluateExpression environment calls' expression) := by
  refine .adapt _ (evaluate_relates (scope_capturing honest) expression.body ?_)
  rintro name mem rfl
  exact unnamed mem

theorem runAction_capturing (honest : environment.PassesOn) {action : Action}
    (unnamed : blockName ∉ action.body.names) :
    (capturing index table outside (above + 1)).Relates (Value.Like Unmatched)
      (runAction environment calls action) (runAction environment calls' action) := by
  refine .adapt _ (Statement.run_relates (scope_capturing honest) ?_ action.body ?_)
  · intro state state' name value value' states _ like
    exact RenderState.CapturedAt.declare states name like
  · rintro name mem rfl
    exact unnamed mem

/-- What does the same under one more frame does the same in a frame of its own. -/
theorem inFrame_capturing {action action' : Render Unit} {frame frame' : Frame}
    (h : (capturing index table outside (above + 1)).Couples action action')
    (like : Value.FieldsLike Unmatched frame frame') :
    (capturing index table outside above).Couples (Render.inFrame frame action)
      (Render.inFrame frame' action') := by
  intro captured place states
  rw [Render.inFrame_run, Render.inFrame_run]
  have agree := h _ _ (RenderState.CapturedAt.pushFrame states like)
  generalize action.run.run (captured.pushFrame frame) = result at agree ⊢
  generalize action'.run.run (place.pushFrame frame') = result' at agree ⊢
  rcases result with ⟨error | value, after⟩ <;> rcases result' with ⟨error' | value', after'⟩
  · exact ⟨agree.1, trivial⟩
  · exact agree.elim
  · exact agree.elim
  · exact ⟨agree.1, RenderState.CapturedAt.popFrame agree.2⟩

/-- **A step does the same inside a call and in place** if it can run in place and does not
name the block, and if its bodies do. -/
theorem executeStep_capturing (honest : environment.PassesOn) {step : Step}
    (own : step.InPlace ∧ blockName ∉ step.names)
    (bodies : ∀ body ∈ step.bodies, (capturing index table outside (above + 2)).Couples
      (executeSteps environment calls origin body)
      (executeSteps environment calls' origin' body)) :
    (capturing index table outside (above + 1)).Couples
      (executeStep environment calls origin step)
      (executeStep environment calls' origin' step) := by
  obtain ⟨kind, unnamed⟩ := own
  have ⟨evaluated, run⟩ := not_or.mp (mt List.mem_append.mpr unnamed)
  refine StepRelate.couples
    { write := fun text _ _ states => RenderState.CapturedAt.write states text
      evaluate := fun expression mem => ?_
      run := fun action mem => ?_
      bodies := fun body direct _ _ like => inFrame_capturing (bodies body direct) like
      own := ?_
      apart := Unmatched.keptApart }
  · apply evaluateExpression_capturing honest
    exact fun inside => evaluated (List.mem_flatMap.mpr ⟨expression, mem, inside⟩)
  · apply runAction_capturing honest
    exact fun inside => run (List.mem_flatMap.mpr ⟨action, Option.mem_toList.mpr mem, inside⟩)
  · cases step with
    | renderPartial | renderContent | saveTarget | mergeTarget | printBlock | setLayout =>
      exact absurd kind id
    | loop => exact rfl
    | _ => trivial

/-- **Steps do the same inside a call and in place**, by induction on how they are nested. -/
theorem executeSteps_capturing (honest : environment.PassesOn) {steps : List Step}
    (own : Step.All (fun step => step.InPlace ∧ blockName ∉ step.names) steps) :
    (capturing index table outside (above + 1)).Couples
      (executeSteps environment calls origin steps)
      (executeSteps environment calls' origin' steps) := by
  -- Each body has a frame more than the steps around it, so all depths are covered at once.
  have everywhere : ∀ above, (capturing index table outside (above + 1)).Couples
      (executeSteps environment calls origin steps)
      (executeSteps environment calls' origin' steps) := by
    refine @Step.listInduction (fun step => step.InPlace ∧ blockName ∉ step.names)
      (fun step => ∀ above, (capturing index table outside (above + 1)).Couples
        (executeStep environment calls origin step) (executeStep environment calls' origin' step))
      (fun steps => ∀ above, (capturing index table outside (above + 1)).Couples
        (executeSteps environment calls origin steps)
        (executeSteps environment calls' origin' steps))
      (fun above => .pure _) ?_ ?_ steps own
    · intro step rest first others above
      rw [executeSteps_cons, executeSteps_cons]
      exact .bind (first above) fun _ => others above
    · intro step here bodies above
      exact executeStep_capturing honest here fun body direct => bodies body direct (above + 1)
  exact everywhere above

end

/-! ## Printing and running in place -/

/-- What writes nothing leaves the target as it is. -/
theorem Target.append_nothing (target : Target) : target.append "" = target := by
  rw [append, String.append_empty]

/-- The steps of a print block start in the same state as those in place. -/
theorem RenderState.capturedAt_enterPrinted {state : RenderState} (free : state.Free)
    {block : BoundBlock} (bare : block.parameters = []) :
    CapturedAt (block.bindIn state.blocks).1 (block.bindIn state.blocks).2 state.target 1
      (state.enterPrinted block) (state.pushFrame []) := by
  refine ⟨[[]], state.frames, "", rfl, ⟨free.context, .cons .nil free.frames⟩, rfl, ?_, ?_⟩
  · exact state.target.append_nothing.symm
  · rw [enterPrinted, bare]
    rfl

/-- Where the body of a print block returned, and the block with it, the two executions are in the
same state, but for the table of print blocks. -/
theorem RenderState.CapturedAt.leave {index : Nat} {table : List BoundBlock} {outside : Target}
    {captured place : RenderState} (states : CapturedAt index table outside 1 captured place) :
    captured.leaveBlock.popFrame.writeValue
        (.string ((captured.popFrame.restoreTarget.1.map (·.default)).getD "")) =
      { place.popFrame with blocks := table } ∧
    ∃ text, place.popFrame.target = outside.append text := by
  obtain ⟨inner, outer, text, length, -, frames, target, rfl⟩ := states
  obtain ⟨frame, rfl⟩ := List.length_eq_one_iff.mp length
  refine ⟨?_, text, target⟩
  have popped : place.popFrame = { place with frames := outer } := by
    rw [RenderState.popFrame, frames]
    rfl
  obtain ⟨store, _, saved, layouts, pending, context, _, blocks, partialDepth, depth⟩ := place
  cases target
  rw [popped]
  rfl

/-- Executing a block in a render is executing its body in a frame of its own. -/
theorem Environment.execute_block (environment : Environment) (origin : Nat) (body : List Step)
    (state : RenderState) :
    (environment.execute origin [.block body]).run.run state =
      let (result, after) :=
        (executeSteps environment environment.calls origin body).run.run (state.pushFrame [])
      (result, after.popFrame) := by
  show (executeSteps environment environment.calls origin [.block body]).run.run state = _
  rw [executeSteps_single]
  rfl

/-- Executing a print block that its own expression calls is executing its body one level
below, inside the call. -/
theorem Environment.execute_printBlock (environment : Environment) {expression : Expression}
    (calls : expression.body.CallsBlock) {state : RenderState} (shallow : state.depth < maxDepth)
    (origin : Nat) (body : List Step) :
    (environment.execute origin [.printBlock expression [] body]).run.run state =
      let (result, after) := (executeWithin environment maxDepth origin body).run.run
        (state.enterPrinted ⟨origin, expression.position, [], body⟩)
      match result with
      | .error error => (.error error, after.leaveBlock.popFrame)
      | .ok _ =>
        (.ok (), after.leaveBlock.popFrame.writeValue
          (.string ((after.popFrame.restoreTarget.1.map (·.default)).getD ""))) := by
  show (executeSteps environment environment.calls origin _).run.run state = _
  rw [executeSteps_single, Environment.calls, printBlock_run calls]
  dsimp only
  rw [if_neg (Nat.not_le.mpr shallow)]
  rfl

/-- **A print block does what its body does in place**, if the steps of the body can run in
place and do not name the block. -/
theorem printBlock_inPlace {environment : Environment} (honest : environment.PassesOn)
    {state : RenderState} (shallow : state.depth < maxDepth) (free : state.Free)
    {expression : Expression} (calls : expression.body.CallsBlock) {steps : List Step}
    (own : Step.All (fun step => step.InPlace ∧ blockName ∉ step.names) steps)
    (origin origin' : Nat) :
    let printed := (environment.execute origin [.printBlock expression [] steps]).run.run state
    let plain := (environment.execute origin' [.block steps]).run.run state
    printed.1 = plain.1 ∧
      (plain.1 = .ok () → ∃ text, plain.2.target = state.target.append text ∧
        printed.2 = { plain.2 with blocks := printed.2.blocks }) := by
  let block : BoundBlock := ⟨origin, expression.position, [], steps⟩
  have same : (capturing (block.bindIn state.blocks).1 (block.bindIn state.blocks).2 state.target
      1).Couples (executeWithin environment maxDepth origin steps)
        (executeSteps environment environment.calls origin' steps) :=
    executeSteps_capturing honest own
  have agree := same _ _ (RenderState.capturedAt_enterPrinted free rfl)
  rw [environment.execute_printBlock calls shallow, environment.execute_block]
  generalize (executeWithin environment maxDepth origin steps).run.run _ = run at agree ⊢
  generalize (executeSteps environment environment.calls origin' steps).run.run _ = run' at agree ⊢
  rcases run with ⟨error | _, after⟩ <;> rcases run' with ⟨error' | _, after'⟩
  · -- One error for both, although each leaves its state where it failed.
    exact ⟨congrArg Except.error agree.1, nofun⟩
  · exact agree.elim
  · exact agree.elim
  · obtain ⟨left, text, target⟩ := RenderState.CapturedAt.leave agree.2
    refine ⟨rfl, fun _ => ⟨text, target, ?_⟩⟩
    dsimp only
    rw [left]

/-- **Printing a block is the same as running it in place.**  Let the helpers of an environment
return no print blocks but those in their arguments, let none be found in the frames and the
context of a state in which one more call may be active, and let no node of a list, however
deep, capture or show content, render a view, print with a block, or name the block.  Then a
print block around the nodes that its expression just calls has the same result as the nodes
in a scope of their own.  Where they return, both write the same text and leave the state the
same, but for the table of print blocks. -/
theorem prints_in_place {environment : Environment} (honest : environment.PassesOn)
    {nodes : List Node}
    (plain : ∀ node : Node, node.Occurs nodes → node.InPlace ∧ blockName ∉ node.names)
    {state : RenderState} (shallow : state.depth < maxDepth)
    (free : state.surroundings.blocks = []) {expression : Expression}
    (calls : expression.body.CallsBlock) {start start' : Position} {steps : List Step}
    (compiled : lowerNode (.scope start nodes) = .ok steps) (origin origin' : Nat) :
    ∃ printing, lowerNode (.print start' expression (some ([], nodes))) = .ok printing ∧
      let printed := (environment.execute origin' printing).run.run state
      let inPlace := (environment.execute origin steps).run.run state
      printed.1 = inPlace.1 ∧
        (inPlace.1 = .ok () → ∃ text,
          printed.2.target = state.target.append text ∧
          inPlace.2.target = state.target.append text ∧
          printed.2 = { inPlace.2 with blocks := printed.2.blocks }) := by
  cases lowered : lowerNode.lowerNodes nodes with
  | error error =>
    rw [lowerNode, lowered] at compiled
    cases compiled
  | ok body =>
    rw [lowerNode, lowered] at compiled
    cases compiled
    refine ⟨[.printBlock expression [] body], by rw [lowerNode, lowered]; rfl, ?_⟩
    have own : Step.All (fun step => step.InPlace ∧ blockName ∉ step.names) body := by
      refine lowerNodes_all (fun node occurs step made => ?_) body lowered
      obtain ⟨kind, unnamed⟩ := plain node occurs
      exact ⟨made.inPlace kind, fun mem => unnamed (made.names_subset mem)⟩
    obtain ⟨result, returned⟩ :=
      printBlock_inPlace honest shallow (.of_surroundings free) calls own origin' origin
    refine ⟨result, fun ok => ?_⟩
    obtain ⟨text, target, same⟩ := returned ok
    exact ⟨text, by rw [same]; exact target, target, same⟩

/-- A loop in a print block, which adds its items to a variable outside, declares one of its own
and prints it: in place it writes the same and leaves the same variables. -/
theorem prints_in_place_loop :
    let environment : Environment :=
      { options := {}, source := .memory [], functions := fun _ _ => .ok .null }
    let state : RenderState :=
      { RenderState.start .undefined {} with frames := [[("all", .string "-")]] }
    let expression : Expression :=
      ⟨"$block()", .start, .call default (.identifier default blockName) []⟩
    let items : Expression :=
      ⟨"['a', 'b']", .start, .array default [.string default "a", .string default "b"]⟩
    let add : Action :=
      ⟨"all += item", .start,
        .expression (.assignment default .addAssign "all" (.identifier default "item"))⟩
    let declare : Action :=
      ⟨"let it = item", .start, .declaration "it" (some (.identifier default "item"))⟩
    let nodes : List Node :=
      [.foreach .start ["item"] items
        [.action .start add, .action .start declare,
          .print .start ⟨"it", .start, .identifier default "it"⟩ none] none]
    ∃ printing steps, lowerNode (.print .start expression (some ([], nodes))) = .ok printing ∧
      lowerNode (.scope .start nodes) = .ok steps ∧
      let printed := (environment.execute 1 printing).run.run state
      let inPlace := (environment.execute 0 steps).run.run state
      printed.1 = inPlace.1 ∧ inPlace.1 = .ok () ∧ inPlace.2.output = "ab" ∧
        printed.2 = { inPlace.2 with blocks := printed.2.blocks } := by
  intro environment state expression items add declare nodes
  have honest : environment.PassesOn := by
    intro name arguments value returned index mem
    cases returned
    cases mem
  have plain : ∀ node : Node, node.Occurs nodes → node.InPlace ∧ blockName ∉ node.names := by
    intro node occurs
    simp only [nodes, Node.occurs_cons, Node.children, Node.alternate?, Option.toList_none,
      Option.elim_none, Node.not_occurs_nil, or_false, false_or] at occurs
    obtain rfl | rfl | rfl | rfl := occurs
    all_goals exact ⟨trivial, by decide⟩
  have shallow : state.depth < maxDepth := by decide
  have calls : expression.body.CallsBlock := ⟨default, default, rfl⟩
  obtain ⟨body, lowered⟩ : ∃ body, lowerNode.lowerNodes nodes = .ok body := ⟨_, rfl⟩
  have compiled : lowerNode (.scope .start nodes) = .ok [.block body] := by
    rw [lowerNode, lowered]
    rfl
  have output : (lowerNode.lowerNodes nodes).toOption.map (fun body =>
      let after := (environment.execute 0 [.block body]).run.run state
      (after.1.toOption, after.2.output)) = some (some (), "ab") := by
    decide +kernel
  rw [lowered] at output
  obtain ⟨returned, written⟩ := Prod.mk.inj (Option.some.inj output)
  have ran : ((environment.execute 0 [.block body]).run.run state).1 = .ok () :=
    eq_ok_of_toOption returned
  obtain ⟨printing, lowered', result, same⟩ :=
    prints_in_place honest plain shallow rfl calls compiled 0 1
  obtain ⟨text, -, -, after⟩ := same ran
  exact ⟨printing, _, lowered', compiled, result, ran, written, after⟩

end ViewTemplate
