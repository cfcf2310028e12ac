import Mathlib
import ViewTemplate.Proofs.Render.LayoutChain
import ViewTemplate.Proofs.Render.Observation

/-!
# The content of layouts

What the content of a layout is, wherever the layout writes it.

When a layout is applied, the text written so far becomes what it wraps, and what was
captured so far can be written in it.  From then on the outlook is that of an observed
execution, and a full render does the same when it is observed (`renderView_content`): at
every place outside captures and print blocks, content without a slot is the whole text of
the view that is wrapped, and the content of a slot is all that was captured for it, by that
view and the ones before and by the layout itself.

Inside a capture or a print block a layout starts anew.  Content that is written only there
is lost, as `renderView_content_lost` shows.

## Main Definitions

* `Environment.observe` — observed executions in a render
* `Environment.observedLayouts`, `Environment.observedRender` — observed layouts and renders
-/

namespace ViewTemplate

namespace Environment

variable (environment : Environment) (alarm : RenderError)

/-- Executes steps in a render and observes them. -/
def observe : Observer :=
  observedWithin environment alarm (maxDepth + 1)

/-- **Observed layouts**, the registered one first.  Each wraps the text that was written
before it, and what was captured before can be written in it. -/
def observedLayouts : (budget : Nat) → Observed Unit
  | 0 => throw .tooManyLayouts
  | budget + 1 => fun outlooks => ExceptT.mk fun state =>
    match environment.layoutTurn state with
    | .done => (.ok ((), outlooks), state)
    | .refused error after => (.error error, after)
    | .entered _ view entered =>
      let here : Outlook := { outlooks.here with content := state.output }
      let applied : Observed Unit := do
        environment.observe alarm view.serial view.program.steps
        observedLayouts budget
      (applied.run { outlooks with here }).run.run entered

/-- **An observed full render.**  Nothing can be written at its start. -/
def observedRender (view : CompiledView) : Render Unit := do
  match environment.options.defaultLayout with
  | some path => modify (·.setLayout path)
  | none => pure ()
  Observed.aside do
    environment.observe alarm view.serial view.program.steps
    environment.observedLayouts alarm (environment.source.viewCount + 1)

end Environment

variable {environment : Environment}

/-! ## Layouts -/

/-- A layout starts with the text written so far as what it wraps. -/
theorem Outlook.Shows.startLayout {outlook : Outlook} {target : Target}
    (shows : outlook.Shows target) :
    Outlook.Shows { outlook with content := target.default } target.startLayout :=
  ⟨rfl, shows.captured.distinct, shows.captured.slot⟩

/-- **Observed layouts follow layouts**: by induction on how many of them there can be. -/
theorem observedLayouts_follow (alarm : RenderError) (budget : Nat) :
    Follows (environment.observedLayouts alarm budget) (environment.applyLayouts budget) := by
  induction budget with
  | zero => exact .throw _
  | succ budget ih =>
    intro outlooks state shows
    have closed : ((environment.observedLayouts alarm (budget + 1)).run outlooks).run.run state =
        match environment.layoutTurn state with
        | .done => (.ok ((), outlooks), state)
        | .refused error after => (.error error, after)
        | .entered _ view entered =>
          ((do
            environment.observe alarm view.serial view.program.steps
            environment.observedLayouts alarm budget : Observed Unit).run
              ⟨{ outlooks.here with content := state.output }, outlooks.around⟩).run.run
                entered := rfl
    rw [applyLayouts_run, closed]
    cases turn : environment.layoutTurn state with
    | done => exact ⟨outlooks.here, rfl, shows⟩
    | refused error after => rfl
    | entered key view entered =>
      obtain ⟨path, store, -, -, -, compiled, rfl⟩ := layoutTurn_entered turn
      have kept := compileView_balanced environment path shows.holds.store
      rw [compiled] at kept
      obtain ⟨balanced, kept⟩ := kept
      have steps : Follows (environment.observe alarm view.serial view.program.steps)
          (environment.execute view.serial view.program.steps) :=
        observedWithin_follows alarm (maxDepth + 1) view.serial balanced
      exact steps.bind (fun _ => ih)
        ⟨{ outlooks.here with content := state.output }, outlooks.around⟩
        (state.enterLayout store key)
        ⟨⟨shows.holds.blocks, kept⟩, rfl, shows.shows.startLayout⟩

/-! ## Renders -/

/-- An observed full render in closed form. -/
theorem observedRender_run (environment : Environment) (alarm : RenderError)
    (view : CompiledView) (context : Value) (store : ViewStore) :
    (environment.observedRender alarm view).run.run (.start context store) =
      (Observed.aside do
        environment.observe alarm view.serial view.program.steps
        environment.observedLayouts alarm (environment.source.viewCount + 1)).run.run
          (environment.pageStart context store) := by
  unfold Environment.observedRender Environment.pageStart
  cases environment.options.defaultLayout with
  | none => rfl
  | some path =>
    dsimp only
    rw [run_bind, run_modify]
    rfl

/-- **Layouts write the content that they wrap.**  A full render comes out the same when it is
observed, whatever the alarm: wherever content is written, it is the text of its outlook.
So outside captures and print blocks, and in all branches, loops and views in place there,
content without a slot is the whole text of the view that the layout wraps, and the content
of a slot is all that was captured for it before.  Inside a capture or a print block it is
what was captured since that began, and without a slot it is empty. -/
theorem renderView_content {name source : String} {program : Program}
    (compiled : environment.compileSource name source = .ok program) {store : ViewStore}
    (fromSources : store.FromSources environment) (alarm : RenderError) (serial : Nat)
    (context : Value) :
    (environment.observedRender alarm ⟨serial, program⟩).run.run (.start context store) =
      (environment.renderView ⟨serial, program⟩).run.run (.start context store) := by
  have balanced : Balanced program.steps :=
    compileSource_balanced environment name source program compiled
  have holds : (environment.pageStart context store).HoldsBalanced :=
    ⟨nofun, fromSources.holds (compileSource_balanced environment)⟩
  have page : Follows (environment.observe alarm serial program.steps)
      (environment.execute serial program.steps) :=
    observedWithin_follows alarm (maxDepth + 1) serial balanced
  have whole : Follows
      (do
        environment.observe alarm serial program.steps
        environment.observedLayouts alarm (environment.source.viewCount + 1))
      (do
        environment.execute serial program.steps
        environment.renderLayouts) :=
    .bind page fun _ => observedLayouts_follow alarm _
  rw [observedRender_run, renderView_run]
  exact (whole.aside holds rfl).1

/-- A layout that writes what it wraps, and what it captured itself, in each turn of a loop:
both are there every time. -/
theorem renderView_content_loop :
    let environment : Environment :=
      { options := {},
        source := .memory
          [("l", "<js @content-for=\"a\">A</js><js @foreach=\"x in [1, 2]\">" ++
            "(<js @render-content /><js @render-content=\"a\" />)</js>")],
        functions := fun _ _ => .ok .null }
    let program : Program := ⟨[.setLayout "l", .text "C"]⟩
    let start : RenderState := .start .undefined {}
    let run := (environment.observedRender .tooManyLayouts ⟨0, program⟩).run.run start
    environment.compileSource "p" "<js @layout=\"l\" />C" = .ok program ∧
      ViewStore.FromSources environment {} ∧
      run = (environment.renderView ⟨0, program⟩).run.run start ∧
      run.1 = .ok () ∧ run.2.output = "(CA)(CA)" := by
  intro environment program start run
  have compiled : environment.compileSource "p" "<js @layout=\"l\" />C" = .ok program := by
    cbv
  have fromSources : ViewStore.FromSources environment {} := List.forall_mem_nil _
  have same := renderView_content compiled fromSources .tooManyLayouts 0 .undefined
  have ended : (run.1.toOption, run.2.output) = (some (), "(CA)(CA)") := by decide +kernel
  obtain ⟨returned, output⟩ := Prod.mk.inj ended
  exact ⟨compiled, fromSources, same, eq_ok_of_toOption returned, output⟩

/-- **Content that is written only in a capture or a print block is lost.**  The layout
captures `A`, writes what it wraps and what it captured in the body of a capture, which it
writes between brackets, and again in a print block, between parentheses.  Nothing is left
of either. -/
theorem renderView_content_lost :
    let environment : Environment :=
      { options := {},
        source := .memory
          [("l", "<js @content-for=\"a\">A</js>" ++
              "<js @content-for=\"m\"><js @render-content /><js @render-content=\"a\" /></js>" ++
              "[<js @render-content=\"m\" />]" ++
              "<js @print=\"$block()\">(<js @render-content /><js @render-content=\"a\" />)</js>"),
            ("p", "<js @layout=\"l\" />C")],
        functions := fun _ _ => .ok .null }
    ∃ page text,
      ((environment.renderPartial "p" .undefined).run.run {}).1 = .ok page ∧
        ((environment.render "p" .undefined).run.run {}).1 = .ok text ∧
        text ≠ "[" ++ page ++ "A](" ++ page ++ "A)" ∧ text = "[]()" := by
  intro environment
  have page : ((environment.renderPartial "p" .undefined).run.run {}).1 = .ok "C" :=
    eq_ok_of_toOption (by decide +kernel)
  have whole : ((environment.render "p" .undefined).run.run {}).1 = .ok "[]()" :=
    eq_ok_of_toOption (by decide +kernel)
  exact ⟨"C", "[]()", page, whole, by decide, rfl⟩

end ViewTemplate
