import Mathlib.Data.List.Induction
import ViewTemplate.Proofs.Render.Account

/-!
# Scopes of print blocks

What the names in the body of a print block stand for when it is called.

A print block keeps its parameters and its steps, and nothing of what is around it.  Its steps
are executed in one more frame, that of the arguments, over whatever frames there are where
it is called.  So a name that is no parameter is looked up there: in the frames of the caller,
then in the context that is in force, then among the helpers (`blocks_see_callers`).  It
stands for what it stood for where the block was made only if that is what the caller sees,
as when the expression of the block does nothing but call it.

## Main Definitions

* `LastAt` — the last place of a name in a list
* `BoundBlock.Opens` — the state in which a print block begins, seen from its caller
-/

namespace ViewTemplate

open Snippet

/-! ## Frames of arguments -/

/-- The last place of a name in a list. -/
def LastAt (names : List String) (name : String) (index : Nat) : Prop :=
  names[index]? = some name ∧ ∀ later, index < later → names[later]? ≠ some name

theorem argumentFrame_concat (parameters : List String) (name : String) (arguments : List Value) :
    argumentFrame (parameters ++ [name]) arguments =
      (argumentFrame parameters arguments).set name
        (arguments[parameters.length]?.getD .undefined) := by
  unfold argumentFrame Table.ofEntries Table.merge
  rw [List.zipIdx_append, List.map_append, List.foldl_append, Nat.zero_add]
  rfl

theorem argumentFrame_of_notMem {parameters : List String} {name : String}
    (foreign : name ∉ parameters) (arguments : List Value) :
    (argumentFrame parameters arguments).get? name = none := by
  induction parameters using List.reverseRecOn with
  | nil => rfl
  | append_singleton before last ih =>
    have ⟨earlier, here⟩ := not_or.mp (List.mem_append.not.mp foreign)
    have differs : last ≠ name := by
      rintro rfl
      exact here (List.mem_singleton_self _)
    rw [argumentFrame_concat, Table.get?_set, if_neg differs]
    exact ih earlier

/-- Of several parameters of one name, the last one counts. -/
theorem argumentFrame_of_lastAt {parameters : List String} {name : String} {index : Nat}
    (last : LastAt parameters name index) (arguments : List Value) :
    (argumentFrame parameters arguments).get? name =
      some (arguments[index]?.getD .undefined) := by
  induction parameters using List.reverseRecOn with
  | nil => cases last.1
  | append_singleton before other ih =>
    rw [argumentFrame_concat, Table.get?_set]
    obtain ⟨found, unique⟩ := last
    by_cases same : other = name
    · -- The last parameter has the name, so its place is the last one.
      have place : index = before.length := by
        have bound := (List.getElem?_eq_some_iff.mp found).1
        rw [List.length_append, List.length_singleton] at bound
        by_contra differs
        refine unique before.length (by omega) ?_
        rw [List.getElem?_concat_length, same]
      rw [if_pos same, place]
    · have earlier : index < before.length := by
        by_contra beyond
        have bound := (List.getElem?_eq_some_iff.mp found).1
        rw [List.length_append, List.length_singleton] at bound
        obtain rfl : index = before.length := by omega
        rw [List.getElem?_concat_length] at found
        exact same (Option.some.inj found)
      rw [if_neg same]
      refine ih ⟨?_, fun later behind again => ?_⟩
      · rwa [List.getElem?_append_left earlier] at found
      · refine unique later behind ?_
        rwa [List.getElem?_append_left (List.getElem?_eq_some_iff.mp again).1]

/-! ## Beginnings of print blocks -/

/-- **The state in which a print block begins, seen from its caller**: the parameters are the
arguments, and everything else is what the caller sees. -/
structure BoundBlock.Opens (block : BoundBlock) (environment : Environment)
    (arguments : List Value) (caller entered : RenderState) : Prop where
  parameter : ∀ name index, LastAt block.parameters name index →
    entered.lookup environment name = some (arguments[index]?.getD .undefined)
  other : ∀ name, name ∉ block.parameters →
    entered.lookup environment name = caller.lookup environment name
  this : entered.context = caller.context

/-- A name is looked up in a new frame first. -/
theorem RenderState.lookup_pushFrame (environment : Environment) (frame : Frame)
    (state : RenderState) (name : String) :
    (state.pushFrame frame).lookup environment name =
      (frame.get? name).or (state.lookup environment name) := by
  have seen : lookupFrames (state.pushFrame frame).frames name =
      (frame.get? name).or (lookupFrames state.frames name) := by
    unfold pushFrame
    rw [lookupFrames]
    cases frame.get? name with
    | none => rfl
    | some value => rfl
  unfold lookup
  rw [seen]
  cases frame.get? name with
  | none => rfl
  | some value => rfl

theorem RenderState.lookup_enterBlock (environment : Environment) (frame : Frame)
    (state : RenderState) (name : String) :
    (state.enterBlock frame).lookup environment name =
      (frame.get? name).or (state.lookup environment name) :=
  lookup_pushFrame environment frame _ name

/-- What a called block begins in is seen from its caller. -/
theorem BoundBlock.opens (block : BoundBlock) (environment : Environment) (arguments : List Value)
    (caller : RenderState) :
    block.Opens environment arguments caller
      (caller.enterBlock (argumentFrame block.parameters arguments)) := by
  refine ⟨?_, ?_, rfl⟩
  · intro name index last
    rw [RenderState.lookup_enterBlock, argumentFrame_of_lastAt last]
    rfl
  · intro name foreign
    rw [RenderState.lookup_enterBlock, argumentFrame_of_notMem foreign]
    rfl

/-- So it is at every moment at which a block begins. -/
theorem Recorded.opens {α : Type} (recorded : Recorded RenderError α) (environment : Environment)
    (state : RenderState) :
    ∀ moment ∈ (recorded.run state).moments, ∀ block arguments caller,
      moment.event = .entered block arguments caller →
        block.Opens environment arguments caller moment.state := by
  intro moment mem block arguments caller begins
  have sound := recorded.sound state moment mem
  rw [Moment.Sound, begins] at sound
  rw [sound]
  exact block.opens environment arguments caller

/-! ## Calls -/

/-- **A called print block begins in what its caller sees**, whatever its steps do. -/
theorem callBlock_opens (environment : Environment) (execute : Executor) {index : Nat}
    {state : RenderState} {block : BoundBlock} (found : state.blocks[index]? = some block)
    (few : state.depth < maxDepth) (arguments : List Value) :
    ∃ entered, block.Opens environment arguments state entered ∧
      let body := (execute block.origin block.body).run.run entered
      (callBlock execute index arguments).run.run state =
        (match body.1 with
          | .ok _ => .ok (.string ((body.2.popFrame.restoreTarget.1.map (·.default)).getD ""))
          | .error error => .error (.failed error),
        body.2.leaveBlock) := by
  refine ⟨_, block.opens environment arguments state, ?_⟩
  rw [callBlock_run, found]
  dsimp only
  rw [if_neg (Nat.not_le.mpr few)]
  generalize (execute block.origin block.body).run.run _ = run
  obtain ⟨error | _, after⟩ := run
  · rfl
  · rfl

/-! ## Blocks that are called where they are made -/

namespace Recorded

variable {ε α β : Type} [Reports ε] {action : Recorded ε α} {next : α → Recorded ε β}
  {state : RenderState} {moment : Moment}

theorem mem_bind_left (mem : moment ∈ (action.run state).moments) :
    moment ∈ ((action >>= next).run state).moments := by
  change moment ∈ ((action.run state).andThen fun value => (next value).run).moments
  unfold Recording.andThen
  cases (action.run state).result with
  | error error => exact mem
  | ok value => exact List.mem_append_left _ mem

theorem mem_bind_right (value : α) (after : RenderState)
    (returned : (action.run state).result = .ok value) (ended : (action.run state).after = after)
    (mem : moment ∈ ((next value).run after).moments) :
    moment ∈ ((action >>= next).run state).moments := by
  change moment ∈ ((action.run state).andThen fun value => (next value).run).moments
  unfold Recording.andThen
  rw [returned, ended]
  exact List.mem_append_right _ mem

theorem mem_snippet {action : Recorded Fail α} (position : Position)
    (mem : moment ∈ (action.run state).moments) :
    moment ∈ ((snippet position action).run state).moments := by
  unfold snippet
  dsimp only
  cases (action.run state).result with
  | error cause => exact List.mem_append_left _ mem
  | ok value => exact mem

end Recorded

/-- A call is admitted when fewer than `maxDepth` others are active. -/
theorem recordAdmission_run {state : RenderState} (few : state.depth < maxDepth) (name : String)
    (position : Position) :
    (recordAdmission name position).run state = ⟨.ok (), state, []⟩ := by
  change Recording.andThen ⟨.ok state, state, []⟩ (fun seen =>
    (if maxDepth ≤ seen.depth then .fail (.tooDeep name position) else pure () :
      Recorded RenderError Unit).run) = _
  unfold Recording.andThen
  dsimp only
  rw [if_neg (Nat.not_le.mpr few)]
  rfl

/-- A print block that can be called begins when it is called. -/
theorem entered_mem_of_recordCallBlock {record : Recorder} {index : Nat} {state : RenderState}
    {block : BoundBlock} (found : state.blocks[index]? = some block)
    (few : state.depth < maxDepth) (arguments : List Value) :
    ⟨.entered block arguments state,
        state.enterBlock (argumentFrame block.parameters arguments), []⟩ ∈
      ((recordCallBlock record index arguments).run state).moments := by
  have admitted := recordAdmission_run few blockName block.position
  unfold recordCallBlock
  refine Recorded.mem_bind_right state state rfl rfl ?_
  rw [found]
  exact Recorded.mem_bind_right () state (congrArg _ admitted) (congrArg _ admitted)
    List.mem_cons_self

/-- **A step whose expression does nothing but call its block**: the block begins, and every
name but its own and those of its parameters stands for what it stands for at the step. -/
theorem recordStep_opens_here (environment : Environment) (origin : Nat) {expression : Expression}
    {span span' : Span} (calls : expression.body = .call span (.identifier span' blockName) [])
    (parameters : List String) (body : List Step) {state : RenderState}
    (few : state.depth < maxDepth) :
    ∃ moment ∈ ((recordStep environment environment.recordedCalls origin
        (.printBlock expression parameters body)).run state).moments,
      ∃ caller, moment.event =
          .entered ⟨origin, expression.position, parameters, body⟩ [] caller ∧
        ∀ name, name ∉ parameters → name ≠ blockName →
          moment.state.lookup environment name = state.lookup environment name := by
  let block : BoundBlock := ⟨origin, expression.position, parameters, body⟩
  let index := (block.bindIn state.blocks).1
  let bound := { state with blocks := (block.bindIn state.blocks).2 }
  let caller := bound.pushFrame [(blockName, .function (.block index))]
  have found : caller.blocks[index]? = some block := block.getElem?_bindIn state.blocks
  refine ⟨⟨.entered block [] caller, caller.enterBlock (argumentFrame parameters []), []⟩, ?_,
    caller, rfl, ?_⟩
  · have binds : (Recorded.binding block : Recorded RenderError Nat).run state =
        ⟨.ok index, bound, [⟨.bound index block, bound, []⟩]⟩ :=
      Recorded.binding_run block state
    refine Recorded.mem_bind_right index bound (congrArg _ binds) (congrArg _ binds) ?_
    refine Recorded.mem_bind_left (Recorded.mem_snippet expression.position ?_)
    rw [calls]
    -- The name of the block, its arguments and the call itself, in the frame of the block.
    refine Recorded.mem_bind_left ?_
    refine Recorded.mem_bind_right (.function (.block index)) caller rfl rfl ?_
    refine Recorded.mem_bind_right [] caller rfl rfl ?_
    refine Recorded.mem_bind_right () caller rfl rfl ?_
    exact Recorded.mem_bind_left (entered_mem_of_recordCallBlock found few [])
  · intro name foreign differs
    dsimp only
    rw [(block.opens environment [] caller).other name foreign, RenderState.lookup_pushFrame,
      Table.get?, if_neg differs.symm]
    rfl

/-! ## All renders -/

/-- **Print blocks see what their callers see.**  Wherever the steps of a print block begin in a
render, its parameters are the arguments of the call, and every other name stands for what it
stands for in the state in which the call is made: in the frames there, then in the context
in force there, then among the helpers.  And that is the state of every call, from whatever
place.  So a name stands for what it stands for at the step of the block if the expression of
the step does nothing but call the block. -/
theorem blocks_see_callers (environment : Environment) :
    (∀ (view : CompiledView) (context : Value) (store : ViewStore),
      ∀ moment ∈ ((environment.recordView view).run (.start context store)).moments ++
          ((environment.recordPart view).run (.start context store)).moments,
        ∀ block arguments caller, moment.event = .entered block arguments caller →
          block.Opens environment arguments caller moment.state) ∧
    (∀ (execute : Executor) (index : Nat) (state : RenderState) (block : BoundBlock),
      state.blocks[index]? = some block → state.depth < maxDepth → ∀ arguments,
        ∃ entered, block.Opens environment arguments state entered ∧
          let body := (execute block.origin block.body).run.run entered
          (callBlock execute index arguments).run.run state =
            (match body.1 with
              | .ok _ => .ok (.string ((body.2.popFrame.restoreTarget.1.map (·.default)).getD ""))
              | .error error => .error (.failed error),
            body.2.leaveBlock)) ∧
    ∀ (origin : Nat) (expression : Expression) (span span' : Span) (parameters : List String)
      (body : List Step) (state : RenderState),
      expression.body = .call span (.identifier span' blockName) [] → state.depth < maxDepth →
        ∃ moment ∈ ((recordStep environment environment.recordedCalls origin
            (.printBlock expression parameters body)).run state).moments,
          ∃ caller, moment.event =
              .entered ⟨origin, expression.position, parameters, body⟩ [] caller ∧
            ∀ name, name ∉ parameters → name ≠ blockName →
              moment.state.lookup environment name = state.lookup environment name := by
  refine ⟨?_, ?_, ?_⟩
  · intro view context store moment mem
    rcases List.mem_append.mp mem with full | part
    · exact (environment.recordView view).opens environment _ moment full
    · exact (environment.recordPart view).opens environment _ moment part
  · intro execute index state block found few arguments
    exact callBlock_opens environment execute found few arguments
  · intro origin expression span span' parameters body state calls few
    exact recordStep_opens_here environment origin calls parameters body few

/-- A block that is called with an argument, in the expression of its own step. -/
theorem blocks_see_callers_argument :
    let source := "\x7b% let x = 'a' %\x7d<js @print=\"$block('b')\" @block=\"v\">\x7b%= x + v %\x7d</js>"
    let environment : Environment :=
      { options := {}, source := .memory [], functions := fun _ _ => .ok .null }
    ∃ program, environment.compileSource "page" source = .ok program ∧
      ∃ moment ∈ ((environment.recordView ⟨0, program⟩).run (.start .null {})).moments,
        ∃ block arguments caller, moment.event = .entered block arguments caller ∧
          (caller.lookup environment "x").map Value.text = some "a" ∧
          arguments.map Value.text = ["b"] ∧ LastAt block.parameters "v" 0 ∧
          (moment.state.lookup environment "x").map Value.text = some "a" ∧
          (moment.state.lookup environment "v").map Value.text = some "b" := by
  intro source environment
  have run : (environment.compileSource "page" source).toOption.any fun program =>
      ((environment.recordView ⟨0, program⟩).run (.start .null {})).moments.any fun moment =>
        match moment.event with
        | .entered block arguments caller =>
          (caller.lookup environment "x").map Value.text == some "a" &&
            arguments.map Value.text == ["b"] && block.parameters == ["v"]
        | _ => false := by
    decide +kernel
  obtain ⟨program, compiled, run⟩ := (Option.any_eq_true _ _).mp run
  obtain ⟨moment, mem, test⟩ := List.any_eq_true.mp run
  split at test
  · rename_i block arguments caller begins
    simp only [Bool.and_eq_true, beq_iff_eq] at test
    -- The run has the caller and the arguments; what the block sees is the theorem's.
    obtain ⟨⟨outer, given⟩, named⟩ := test
    obtain ⟨parameter, other, -⟩ := (blocks_see_callers environment).1 ⟨0, program⟩ .null {}
      moment (List.mem_append_left _ mem) block arguments caller begins
    have last : LastAt block.parameters "v" 0 := by
      rw [named]
      refine ⟨rfl, fun later behind => ?_⟩
      rw [List.getElem?_eq_none (by exact behind)]
      exact nofun
    refine ⟨program, eq_ok_of_toOption compiled, moment, mem, block, arguments, caller, begins,
      outer, given, last, ?_, ?_⟩
    · rw [other "x" (by rw [named]; decide), outer]
    · rw [parameter "v" 0 last]
      obtain ⟨value, only, text⟩ := List.map_eq_singleton_iff.mp given
      rw [only]
      exact congrArg some text
  · cases test

/-- **No print block sees what was seen where it was made**: a block that is kept in a variable
and called in another frame, where one of its names stands for something else. -/
theorem blocks_see_callers_elsewhere :
    let source := "\x7b% let x = 'step' %\x7d\x7b% let f = 0 %\x7d<js @print=\"(f = $block) && ''\">" ++
      "\x7b%= x %\x7d</js>|<js>\x7b% let x = 'call' %\x7d\x7b%= f() %\x7d</js>"
    let environment : Environment :=
      { options := {}, source := .memory [], functions := fun _ _ => .ok .null }
    ((environment.renderString source .null).run.run {}).1 = .ok "|call" ∧
      ∃ program, environment.compileSource Environment.sourceName source = .ok program ∧
        let moments := ((environment.recordView ⟨0, program⟩).run (.start .null {})).moments
        ¬ ∀ made ∈ moments, ∀ begun ∈ moments, ∀ index block arguments caller,
          made.event = .bound index block → begun.event = .entered block arguments caller →
            ∀ name, name ∉ block.parameters →
              begun.state.lookup environment name = made.state.lookup environment name := by
  intro source environment
  have written : ((environment.renderString source .null).run.run {}).1.toOption =
      some "|call" := by
    decide +kernel
  have run : (environment.compileSource Environment.sourceName source).toOption.any fun program =>
      let moments := ((environment.recordView ⟨0, program⟩).run (.start .null {})).moments
      moments.any fun made => moments.any fun begun =>
        match made.event, begun.event with
        | .bound _ block, .entered block' _ _ =>
          block == block' && block.parameters.isEmpty &&
            (made.state.lookup environment "x").map Value.text == some "step" &&
              (begun.state.lookup environment "x").map Value.text == some "call"
        | _, _ => false := by
    decide +kernel
  obtain ⟨program, compiled, run⟩ := (Option.any_eq_true _ _).mp run
  refine ⟨eq_ok_of_toOption written, program, eq_ok_of_toOption compiled, fun lexical => ?_⟩
  obtain ⟨made, mem, inner⟩ := List.any_eq_true.mp run
  obtain ⟨begun, mem', test⟩ := List.any_eq_true.mp inner
  split at test
  · rename_i index block block' arguments caller binds begins
    simp only [Bool.and_eq_true, beq_iff_eq, List.isEmpty_iff] at test
    obtain ⟨⟨⟨rfl, none⟩, step⟩, call⟩ := test
    have same := lexical made mem begun mem' index block arguments caller binds begins "x"
      (by rw [none]; exact List.not_mem_nil)
    rw [same, step] at call
    exact absurd call (by decide)
  · cases test

end ViewTemplate
