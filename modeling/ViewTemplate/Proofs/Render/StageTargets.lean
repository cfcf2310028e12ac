import Mathlib
import ViewTemplate.Proofs.Render.Captures
import ViewTemplate.Proofs.Render.DeclaredLayouts

/-!
# What layouts wrap

How the stages of a render hand their output on.

Before the program of a layout starts, the text that was written so far becomes the
content of the layout, and the slots stay as they are (`Stages.handsOn`).  So a slot
holds at any stage what was captured for it by all the programs before, in the order
in which they ran, and the text of the render is what the last program wrote.

Of layouts that write some text, what they wrap and some more text, the whole output
can be given: `renderProgram_hands_on` says for any number of them that the texts
stand around that of the page, those of the first layout innermost, and that such a
render returns.

## Main Definitions

* `Environment.HandsOn` — stages that start with what the programs before them left
* `Program.Wraps` — the program of a layout that stands around its content
-/

namespace ViewTemplate

variable {environment : Environment}

/-! ## Stages -/

/-- **Stages that hand on their targets.**  Each one starts with an empty text, with the
text of the program before as the content that it wraps, and with slots that are those
the program before left; they hold what was captured for them so far. -/
def Environment.HandsOn (environment : Environment) :
    (captured : SlotTexts) → (previous : RenderState) → List Stage → Prop
  | _, _, [] => True
  | captured, previous, stage :: stages =>
    stage.entered.target =
      { default := "", slots := previous.target.slots,
        layoutContent := previous.target.default } ∧
    (∀ slot, stage.entered.target.slot slot = capturedText captured slot) ∧
    HandsOn environment
      (captured ++
        environment.captures stage.view.serial stage.view.program.steps stage.entered)
      stage.left stages

/-- **The stages of a render hand on their targets.** -/
theorem Environment.Stages.handsOn {state last : RenderState} {stages : List Stage}
    (run : environment.Stages environment.Executes state stages last)
    (holds : state.HoldsBalanced) {captured : SlotTexts}
    (collected : Target.Collects {} captured state.target) :
    environment.HandsOn captured state stages := by
  induction run generalizing captured with
  | nil => exact trivial
  | @cons state last stage stages turn ran _ ih =>
    obtain ⟨path, store, -, -, -, compiled, entered⟩ := layoutTurn_entered turn
    have target : stage.entered.target = state.target.startLayout := by rw [entered]; rfl
    have slots (slot : String) : stage.entered.target.slot slot = capturedText captured slot := by
      rw [target]
      exact (collected.slot slot).trans String.empty_append
    have collected' : Target.Collects {} captured stage.entered.target := by
      rw [target]
      exact ⟨collected.distinct, collected.slot⟩
    have kept := compileView_balanced environment path holds.store
    rw [compiled] at kept
    have holds' : stage.entered.HoldsBalanced := by
      rw [entered]
      exact ⟨holds.blocks, kept.2⟩
    obtain ⟨holds'', -, gathered⟩ := executeWithin_gathers (maxDepth + 1) stage.view.serial kept.1
      stage.entered () stage.left holds' ran
    exact ⟨target, slots, ih holds'' (collected'.trans gathered)⟩

/-! ## Layouts that wrap -/

/-- **The program of a layout that stands around its content**: it may declare a layout,
writes some text, what it wraps, and some more text. -/
def Program.Wraps (program : Program) (opening closing : String) : Prop :=
  ∃ (next : Option String) (before behind : List String),
    program.steps = (next.map Step.setLayout).toList ++ before.map .text ++
      .renderContent none :: behind.map .text ∧
    String.join before = opening ∧ String.join behind = closing

/-- Writing no texts changes nothing. -/
theorem RenderState.write_join_nil (state : RenderState) :
    state.write (String.join []) = state := by
  simp [write, Target.append]

/-- Texts are written one behind the other. -/
theorem RenderState.write_join_cons (state : RenderState) (text : String) (others : List String) :
    state.write (String.join (text :: others)) = (state.write text).write (String.join others) := by
  simp [write, Target.append, String.join_cons, String.append_assoc]

/-- Steps that write texts write them one behind the other. -/
theorem executeSteps_texts (environment : Environment) (calls : Calls) (origin : Nat)
    (texts : List String) (rest : List Step) (state : RenderState) :
    (executeSteps environment calls origin (texts.map .text ++ rest)).run.run state =
      (executeSteps environment calls origin rest).run.run (state.write (String.join texts)) := by
  induction texts generalizing state with
  | nil =>
    rw [state.write_join_nil]
    rfl
  | cons text others ih =>
    rw [List.map_cons, List.cons_append, executeSteps_cons, run_bind, state.write_join_cons, ← ih]
    rfl

/-- What text, content and more text write. -/
theorem executeSteps_around (environment : Environment) (calls : Calls) (origin : Nat)
    (before behind : List String) (state : RenderState) :
    (executeSteps environment calls origin
        (before.map .text ++ .renderContent none :: behind.map .text)).run.run state =
      (.ok (), ((state.write (String.join before)).write state.target.layoutContent).write
        (String.join behind)) := by
  rw [executeSteps_texts, executeSteps_cons, run_bind]
  have texts := executeSteps_texts environment calls origin behind []
    ((state.write (String.join before)).write state.target.layoutContent)
  rw [List.append_nil] at texts
  exact texts

/-- The state behind the program of a layout that stands around its content. -/
def RenderState.around (state : RenderState) (next : Option String) (opening closing : String) :
    RenderState :=
  ((({ state with pendingLayout := next }).write opening).write
    state.target.layoutContent).write closing

/-- **What a layout that stands around its content does**: it always returns. -/
theorem execute_wrapping (environment : Environment) (origin : Nat) {program : Program}
    {opening closing : String} (wraps : program.Wraps opening closing) {state : RenderState}
    (outside : state.partialDepth = 0) (unregistered : state.pendingLayout = none) :
    (environment.execute origin program.steps).run.run state =
      (.ok (), state.around program.layout? opening closing) := by
  obtain ⟨next, before, behind, steps, rfl, rfl⟩ := wraps
  have around := executeSteps_around environment
    (callsBy environment (executeWithin environment maxDepth)) origin before behind
  have declared : program.layout? = next := by
    rw [Program.layout?, steps]
    cases next with
    | some path => rfl
    | none =>
      cases before with
      | nil => rfl
      | cons text before => rfl
  rw [declared, steps]
  cases next with
  | none =>
    have undeclared : ({ state with pendingLayout := none } : RenderState) = state := by
      rw [← unregistered]
    rw [RenderState.around, undeclared]
    exact around state
  | some path =>
    rw [Environment.execute, Option.map_some, Option.toList_some, List.singleton_append,
      List.cons_append, executeWithin_setLayout, if_pos outside, RenderState.setLayout,
      unregistered]
    exact around { state with pendingLayout := some path }

/-! ## Chains of such layouts -/

/-- A registered layout that can be compiled and was not applied is applied. -/
theorem layoutTurn_eq_entered {state : RenderState} {path key : String} {view : CompiledView}
    {store : ViewStore} (registered : state.pendingLayout = some path)
    (resolved : environment.source.resolve path = .ok key) (fresh : key ∉ state.layouts)
    (compiled : (environment.compileView path).run.run state.store = (.ok view, store)) :
    environment.layoutTurn state = .entered key view (state.enterLayout store key) := by
  have unknown : ¬state.layouts.contains key = true :=
    fun found => fresh (List.contains_iff_mem.mp found)
  rw [Environment.layoutTurn, registered]
  dsimp only
  rw [resolved]
  dsimp only
  rw [if_neg unknown, compiled]

/-- **Layouts that stand around their content** put their texts around what was written
before, the first one innermost, and the loop over them returns. -/
theorem applyLayouts_wrapping {store : ViewStore} {first next : Option String}
    {layouts : List (String × Program)} {texts : List (String × String)}
    (declares : environment.Declares store first layouts next) (closed : next = none)
    (wraps : List.Forall₂ (fun layout text => layout.2.Wraps text.1 text.2) layouts texts)
    (distinct : (layouts.map (·.1)).Nodup) {budget : Nat} (room : layouts.length < budget)
    {state : RenderState} (registered : state.pendingLayout = first)
    (fresh : ∀ layout ∈ layouts, layout.1 ∉ state.layouts) (outside : state.partialDepth = 0)
    (same : environment.SamePrograms store state.store) :
    ∃ after, (environment.applyLayouts budget).run.run state = (.ok (), after) ∧
      after.output = String.join (texts.map (·.1)).reverse ++ state.output ++
        String.join (texts.map (·.2)) := by
  induction declares generalizing texts budget state with
  | nil =>
    cases wraps
    have turn : environment.layoutTurn state = .done :=
      layoutTurn_eq_done_iff.mpr (registered.trans closed)
    obtain ⟨turns, rfl⟩ := Nat.exists_eq_succ_of_ne_zero (Nat.ne_zero_of_lt room)
    refine ⟨state, ?_, by simp⟩
    rw [applyLayouts_run, turn]
  | @cons path key program layouts next resolved compiled _ ih =>
    cases wraps with
    | @cons _ text _ texts around wraps =>
      obtain ⟨unlike, distinct⟩ := List.nodup_cons.mp distinct
      obtain ⟨turns, rfl⟩ := Nat.exists_eq_succ_of_ne_zero (Nat.ne_zero_of_lt room)
      rw [← same path] at compiled
      obtain ⟨serial, store', made⟩ := compileView_of_programOf compiled
      have same' := compileView_samePrograms environment path state.store
      rw [made] at same'
      have turn := layoutTurn_eq_entered registered resolved (fresh _ List.mem_cons_self) made
      let left := (state.enterLayout store' key).around program.layout? text.1 text.2
      have entered : (state.enterLayout store' key).partialDepth = 0 := outside
      have ran : (environment.execute serial program.steps).run.run
          (state.enterLayout store' key) = (.ok (), left) :=
        execute_wrapping environment serial around entered rfl
      rw [applyLayouts_run, turn]
      dsimp only at ran ⊢
      rw [run_bind, ran]
      dsimp only
      have fresh' : ∀ layout ∈ layouts, layout.1 ∉ state.layouts ++ [key] := by
        intro layout mem again
        rcases List.mem_append.mp again with old | new
        · exact fresh layout (List.mem_cons_of_mem _ mem) old
        · exact unlike (List.mem_map.mpr ⟨layout, mem, List.mem_singleton.mp new⟩)
      obtain ⟨after, returned, output⟩ := @ih texts closed wraps distinct turns
        (Nat.lt_of_succ_lt_succ room) left rfl fresh' outside (same.trans same')
      have wrapped : left.output = text.1 ++ state.output ++ text.2 := by
        simp [left, RenderState.around, RenderState.output, RenderState.write, Target.append,
          RenderState.enterLayout, Target.startLayout]
      refine ⟨after, returned, output.trans ?_⟩
      simp only [wrapped, List.map_cons, List.reverse_cons, String.join_append, String.join_cons,
        String.join_nil, String.append_empty, String.append_assoc]

/-- The keys that declarations lead to are keys of views. -/
theorem Environment.Declares.known {store : ViewStore} {first next : Option String}
    {layouts : List (String × Program)}
    (declares : environment.Declares store first layouts next) :
    ∀ key ∈ layouts.map (·.1), key ∈ environment.source.keys := by
  induction declares with
  | nil => nofun
  | cons resolved _ _ ih =>
    exact List.forall_mem_cons.mpr ⟨ViewSource.mem_keys_of_resolve resolved, ih⟩

/-! ## Whole renders -/

/-- What a full render of a program returns: the output where the render of its view
ends. -/
theorem renderProgram_output (view : CompiledView) (context : Value) (store : ViewStore) :
    ((environment.renderProgram view context).run.run store).1 =
      let run := (environment.renderView view).run.run (.start context store)
      run.1.map fun _ => run.2.output :=
  congrArg Prod.fst (textOf_run context (environment.renderView view) store)

/-- **What the applied layouts start with**, where a full render of a program returns a
text. -/
theorem renderProgram_collects {name source : String} {program : Program}
    (compiled : environment.compileSource name source = .ok program) {store : ViewStore}
    (fromSources : store.FromSources environment) (serial : Nat) (context : Value) {text : String}
    (returned : ((environment.renderProgram ⟨serial, program⟩ context).run.run store).1
      = .ok text) :
    let start := environment.pageStart context store
    ∃ page stages last,
      environment.Executes serial program.steps start (.ok (), page) ∧
      environment.Stages environment.Executes page stages last ∧
      last.pendingLayout = none ∧
      (stages.map (·.key)).Nodup ∧
      environment.HandsOn (environment.captures serial program.steps start) page stages ∧
      text = last.target.default := by
  intro start
  have balanced : Balanced program.steps :=
    compileSource_balanced environment name source program compiled
  have holds : start.HoldsBalanced :=
    ⟨nofun, fromSources.holds (compileSource_balanced environment)⟩
  rw [renderProgram_output] at returned
  rcases renderView_stages environment ⟨serial, program⟩ context store with
    ⟨error, -, failed⟩ | ⟨page, stages, last, ran, nothing, applied, stopped, applies⟩
  · dsimp only at returned
    rw [failed] at returned
    cases returned
  · obtain ⟨inside, -⟩ := between_executed (between_pageStart environment context fromSources)
      (compileSource_layoutFirst environment name source program compiled) ran
    obtain ⟨-, recorded, -⟩ := applied.declares inside
    rw [nothing, List.nil_append] at recorded
    obtain ⟨holds', -, gathered⟩ :=
      executeWithin_gathers (maxDepth + 1) serial balanced start () page holds ran
    have handsOn := applied.handsOn holds' gathered
    generalize (environment.renderView ⟨serial, program⟩).run.run (.start context store) = whole
      at returned stopped
    cases stopped with
    | refused turn => cases returned
    | failed turn ran => cases returned
    | done turn =>
      cases returned
      exact ⟨page, stages, last, ran, applied, layoutTurn_eq_done_iff.mp turn,
        recorded ▸ applies.distinct, handsOn, rfl⟩

/-- **What layouts that stand around their contents return**: their texts around what the
program wrote. -/
theorem renderProgram_wraps {name source : String} {program : Program}
    (compiled : environment.compileSource name source = .ok program) {store : ViewStore}
    (fromSources : store.FromSources environment) (serial : Nat) (context : Value)
    {page : RenderState} {layouts : List (String × Program)} {texts : List (String × String)}
    (ran : environment.Executes serial program.steps (environment.pageStart context store)
      (.ok (), page))
    (declares : environment.Declares store (environment.options.defaultLayout.or program.layout?)
      layouts none)
    (distinct : (layouts.map (·.1)).Nodup)
    (wraps : List.Forall₂ (fun layout text => layout.2.Wraps text.1 text.2) layouts texts) :
    ((environment.renderProgram ⟨serial, program⟩ context).run.run store).1 =
      .ok (String.join (texts.map (·.1)).reverse ++ page.target.default ++
        String.join (texts.map (·.2))) := by
  obtain ⟨inside, registered⟩ := between_executed (between_pageStart environment context fromSources)
    (compileSource_layoutFirst environment name source program compiled) ran
  have unapplied : page.layouts = [] := ran.restored.layouts
  -- The loop over layouts has a turn for each view, and distinct keys are no more than views.
  have fewer : layouts.length < environment.source.viewCount + 1 := by
    have fewer := (List.subperm_of_subset distinct declares.known).length_le
    rw [List.length_map, ViewSource.length_keys] at fewer
    omega
  have fresh : ∀ layout ∈ layouts, layout.1 ∉ page.layouts := by
    rw [unapplied]
    exact fun _ _ => List.not_mem_nil
  obtain ⟨after, returned, output⟩ := applyLayouts_wrapping declares rfl wraps distinct fewer
    registered fresh inside.outside inside.same
  have whole : (environment.renderView ⟨serial, program⟩).run.run (.start context store) =
      (.ok (), after) := by
    rw [renderView_run, run_bind,
      show (environment.execute serial program.steps).run.run _ = _ from ran]
    exact returned
  rw [renderProgram_output, whole]
  exact congrArg Except.ok output

/-- **Layouts wrap what was written before them.**  The program is that of a source.

When a full render of it returns a text, every layout that was applied started with an
empty text, with the text of the program before as its content, and with slots that hold
what all programs before captured for them, in order; the text is what the last program
wrote.

When the program returns and the layouts that follow from its declaration have distinct
keys and stand around their contents, the render returns a text: theirs around what the
program wrote, those of the first layout innermost. -/
theorem renderProgram_hands_on {name source : String} {program : Program}
    (compiled : environment.compileSource name source = .ok program) {store : ViewStore}
    (fromSources : store.FromSources environment) (serial : Nat) (context : Value) :
    let result := ((environment.renderProgram ⟨serial, program⟩ context).run.run store).1
    let start := environment.pageStart context store
    (∀ text, result = .ok text →
      ∃ page stages last,
        environment.Executes serial program.steps start (.ok (), page) ∧
        environment.Stages environment.Executes page stages last ∧
        last.pendingLayout = none ∧
        (stages.map (·.key)).Nodup ∧
        environment.HandsOn (environment.captures serial program.steps start) page stages ∧
        text = last.target.default) ∧
    ∀ (page : RenderState) (layouts : List (String × Program)) (texts : List (String × String)),
      environment.Executes serial program.steps start (.ok (), page) →
      environment.Declares store (environment.options.defaultLayout.or program.layout?)
        layouts none →
      (layouts.map (·.1)).Nodup →
      List.Forall₂ (fun layout text => layout.2.Wraps text.1 text.2) layouts texts →
      result = .ok (String.join (texts.map (·.1)).reverse ++ page.target.default ++
        String.join (texts.map (·.2))) := by
  intro result start
  constructor
  · intro text returned
    exact renderProgram_collects compiled fromSources serial context returned
  · intro page layouts texts ran declares distinct wraps
    exact renderProgram_wraps compiled fromSources serial context ran declares distinct wraps

/-- A page in two layouts that write something around it: both halves of the theorem
apply to the render. -/
theorem renderProgram_hands_on_brackets :
    let views : Table String :=
      [("a", "<js @layout=\"b\"/>(<js @render-content/>)"), ("b", "[<js @render-content/>]")]
    let environment : Environment :=
      { options := {}, source := .memory views, functions := fun _ _ => .ok .null }
    let program : Program := ⟨[.setLayout "a", .text "C"]⟩
    let start := environment.pageStart .undefined {}
    environment.compileSource "page" "<js @layout=\"a\"/>C" = .ok program ∧
      ((environment.renderProgram ⟨0, program⟩ .undefined).run.run {}).1 = .ok "[(C)]" ∧
      ∃ page stages last,
        environment.Executes 0 program.steps start (.ok (), page) ∧
        environment.Stages environment.Executes page stages last ∧
        last.pendingLayout = none ∧
        (stages.map (·.key)).Nodup ∧
        environment.HandsOn (environment.captures 0 program.steps start) page stages ∧
        "[(C)]" = last.target.default := by
  intro views environment program start
  let inner : Program := ⟨[.setLayout "b", .text "(", .renderContent none, .text ")"]⟩
  let outer : Program := ⟨[.text "[", .renderContent none, .text "]"]⟩
  have compiled : environment.compileSource "page" "<js @layout=\"a\"/>C" = .ok program := by
    cbv
  have compiledInner : environment.programOf {} "a" = .ok inner := by
    cbv
  have compiledOuter : environment.programOf {} "b" = .ok outer := by
    cbv
  have empty : ViewStore.FromSources environment {} := List.forall_mem_nil _
  obtain ⟨handsOn, wrapped⟩ := renderProgram_hands_on compiled empty 0 .undefined
  have declares : environment.Declares {} (some "a") [("a", inner), ("b", outer)] none :=
    .cons rfl compiledInner (.cons rfl compiledOuter .nil)
  have wraps : List.Forall₂ (fun (layout : String × Program) (text : String × String) =>
      layout.2.Wraps text.1 text.2) [("a", inner), ("b", outer)] [("(", ")"), ("[", "]")] :=
    .cons ⟨some "b", ["("], [")"], rfl, rfl, rfl⟩ (.cons ⟨none, ["["], ["]"], rfl, rfl, rfl⟩ .nil)
  have returned := wrapped _ [("a", inner), ("b", outer)] [("(", ")"), ("[", "]")] rfl declares
    (by decide) wraps
  exact ⟨compiled, returned, handsOn _ returned⟩

end ViewTemplate
