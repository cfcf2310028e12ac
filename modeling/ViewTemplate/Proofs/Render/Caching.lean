import ViewTemplate.Proofs.Render.Account
import ViewTemplate.Proofs.Render.Copies

/-!
# Texts with and without kept views

Whether compiled views are kept or compiled anew for every use cannot be read off the texts
and errors of renders, or hardly ever.

It could be read off print blocks.  Two uses of a view are one program where views are kept,
and two where they are not, and then their print blocks are different ones: with other places
in the table, and not equal to each other.  A template sees that if it compares them, a helper
if it looks at their places, and a host that makes up places may hit another block
(`answers_keeping_differ`).  Where nothing of this happens, all requests are answered alike
(`answers_keeping`).

## Main Definitions

* `TextRequest` — a request for a text
* `Environment.answers` — what comes of requests, one after the other
* `Environment.accounts` — what happens during them
-/

namespace ViewTemplate

/-! ## Requests -/

/-- **A request for a text**: that of a view with its layouts, that of a view without them, or
that of a source with its layouts. -/
inductive TextRequest where
  | page (path : String) (context : Value)
  | part (path : String) (context : Value)
  | source (text : String) (context : Value)

namespace TextRequest

/-- The context of a request. -/
def context : TextRequest → Value
  | page _ context | part _ context | source _ context => context

/-- What is done on a request. -/
def run (environment : Environment) : TextRequest → Rendering String
  | page path context => environment.render path context
  | part path context => environment.renderPartial path context
  | source text context => environment.renderString text context

/-- What is compiled for a request. -/
def compile (environment : Environment) : TextRequest → Compiling CompiledView
  | page path _ | part path _ => environment.compileView path
  | source text _ => environment.compileAnew Environment.sourceName text

/-- What is rendered for a request. -/
def render (environment : Environment) (view : CompiledView) : TextRequest → Render Unit
  | part .. => environment.renderPart view
  | _ => environment.renderView view

/-- What is rendered for a request, with an account. -/
def record (environment : Environment) (view : CompiledView) :
    TextRequest → Recorded RenderError Unit
  | part .. => environment.recordPart view
  | _ => environment.recordView view

/-- What happens during a request. -/
def account (environment : Environment) (request : TextRequest) (store : ViewStore) :
    List Moment :=
  match (request.compile environment).run.run store with
  | (.ok view, after) =>
    ((request.record environment view).run (.start request.context after)).moments
  | (.error _, _) => []

theorem record_accounts (environment : Environment) (request : TextRequest) (view : CompiledView) :
    (request.record environment view).Accounts (request.render environment view) := by
  cases request with
  | part path context => exact environment.recordPart_accounts view
  | page path context | source text context => exact environment.recordView_accounts view

/-- A request in closed form: something is compiled and rendered. -/
theorem run_eq (environment : Environment) (request : TextRequest) (store : ViewStore) :
    (request.run environment).run.run store =
      match (request.compile environment).run.run store with
      | (.error error, after) => (.error (.view error), after)
      | (.ok view, after) =>
        (Environment.textOf request.context (request.render environment view)).run.run after := by
  have compiling (action : Compiling CompiledView) (next : CompiledView → Rendering String) :
      (Environment.compiling action >>= next).run.run store =
        match action.run.run store with
        | (.error error, after) => (.error (.view error), after)
        | (.ok view, after) => (next view).run.run after := by
    rw [run_bind, Environment.compiling, run_adapt]
    rcases action.run.run store with ⟨error | view, after⟩
    · rfl
    · rfl
  cases request with
  | page path context => exact compiling _ _
  | part path context => exact compiling _ _
  | source text context => exact compiling _ _

end TextRequest

namespace Environment

variable (environment : Environment)

/-- **What comes of requests**, one after the other. -/
def answers : List TextRequest → ViewStore → List (Except RenderError String)
  | [], _ => []
  | request :: rest, store =>
    let run := (request.run environment).run.run store
    run.1 :: answers rest run.2

/-- **What happens during requests**, one after the other. -/
def accounts : List TextRequest → ViewStore → List Moment
  | [], _ => []
  | request :: rest, store =>
    request.account environment store ++ accounts rest ((request.run environment).run.run store).2

end Environment

/-- **A moment at which no two copies of a print block are compared.** -/
def Moment.Fair (moment : Moment) : Prop :=
  ∀ value other, moment.event = .compared value other →
    TellsApart moment.state.blocks value other

/-! ## Copies and originals -/

section

variable {environment : Environment} {copies : Copies} {store store' : ViewStore}

/-- What is compiled for a request is the same program. -/
theorem TextRequest.compile_copies (request : TextRequest)
    (stocks : copies.Stocks environment ⟨store, []⟩ ⟨store', []⟩) :
    copies.CompilesAlike environment ⟨store, []⟩ ⟨store', []⟩
      ((request.compile (environment.keeping false)).run.run store)
      ((request.compile (environment.keeping true)).run.run store') := by
  cases request with
  | page path context => exact stocks.compileView path
  | part path context => exact stocks.compileView path
  | source text context => exact stocks.compileAnew Environment.sourceName text

open Correspondence in
/-- What is rendered for a request corresponds to its record. -/
theorem TextRequest.record_alike {left right : Environment} {K : Correspondence left right}
    {world : K.World} (request : TextRequest) {view view' : CompiledView}
    (matching : K.ViewLike world view view') :
    K.Alike world (fun _ => Eq) (request.record left view) (request.render right view') := by
  cases request with
  | part path context => exact recordPart_alike matching
  | page path context | source text context => exact recordView_alike matching

/-- The same is written in states that match. -/
theorem Correspondence.States.output {left right : Environment} {K : Correspondence left right}
    {world : K.World} {state state' : RenderState} (states : K.States world state state') :
    state.output = state'.output := by
  cases states
  rfl

/-- **A request is answered alike**, and leaves stocks of copies and originals. -/
theorem TextRequest.run_copies (blind : environment.BlindToBlocks) (request : TextRequest)
    (plain : request.context.blocks = [])
    (stocks : copies.Stocks environment ⟨store, []⟩ ⟨store', []⟩)
    (fair : ∀ moment ∈ request.account (environment.keeping false) store, moment.Fair) :
    let run := (request.run (environment.keeping false)).run.run store
    let run' := (request.run (environment.keeping true)).run.run store'
    run'.1 = run.1 ∧ ∃ later : Copies, later.Stocks environment ⟨run.2, []⟩ ⟨run'.2, []⟩ := by
  intro run run'
  obtain ⟨middle, -, ends, stocks⟩ := request.compile_copies stocks
  unfold TextRequest.account at fair
  have closed := request.run_eq (environment.keeping false) store
  have closed' := request.run_eq (environment.keeping true) store'
  change run = _ at closed
  change run' = _ at closed'
  generalize (request.compile (environment.keeping false)).run.run store = compiled
    at closed ends stocks fair
  generalize (request.compile (environment.keeping true)).run.run store' = compiled'
    at closed' ends stocks
  obtain ⟨result, after⟩ := compiled
  obtain ⟨result', after'⟩ := compiled'
  rw [closed, closed']
  cases ends with
  | error _ => exact ⟨rfl, middle, stocks⟩
  | @ok view view' matching =>
    have states : (Correspondence.ofCopies blind).States middle (.start request.context after)
        (.start request.context after') := by
      refine ⟨stocks, .refl _ fun index mem => ?_, .cons .nil .nil⟩
      rw [plain] at mem
      cases mem
    obtain ⟨later, -, ended, ends⟩ :=
      request.record_alike matching _ _ states fair
    -- The copy is recorded, so that its moments are at hand; the original is not.
    dsimp only
    rw [Environment.textOf_run, Environment.textOf_run,
      request.record_accounts (environment.keeping false) view]
    generalize (request.record (environment.keeping false) view).run _ = recording at ended ends ⊢
    generalize (request.render (environment.keeping true) view').run.run _ = run' at ended ends ⊢
    refine ⟨?_, _, ended.stock.anew⟩
    obtain ⟨result, after, moments⟩ := recording
    obtain ⟨result', after'⟩ := run'
    cases ends with
    | error _ => rfl
    | ok _ => exact congrArg Except.ok ended.output.symm

/-- **Requests are answered alike**, by induction on them: each leaves stocks of copies and
originals to the next one. -/
theorem Environment.answers_copies (blind : environment.BlindToBlocks)
    (requests : List TextRequest) (plain : ∀ request ∈ requests, request.context.blocks = [])
    (stocks : copies.Stocks environment ⟨store, []⟩ ⟨store', []⟩)
    (fair : ∀ moment ∈ (environment.keeping false).accounts requests store, moment.Fair) :
    (environment.keeping true).answers requests store' =
      (environment.keeping false).answers requests store := by
  induction requests generalizing copies store store' with
  | nil => rfl
  | cons request rest ih =>
    have ⟨plainFirst, plainRest⟩ := List.forall_mem_cons.mp plain
    have ⟨fairFirst, fairRest⟩ := List.forall_mem_append.mp fair
    obtain ⟨same, later, stocks⟩ := request.run_copies blind plainFirst stocks fairFirst
    exact congrArg₂ List.cons same (ih plainRest stocks fairRest)

end

/-! ## Whether views are kept -/

/-- **Whether compiled views are kept makes no difference to texts and errors**, whatever the
views and whatever the requests, if helpers do the same whatever the print blocks in their
arguments, if contexts bring no print blocks, and if no two copies of a print block are
compared where views are not kept. -/
theorem answers_keeping {environment : Environment} (blind : environment.BlindToBlocks)
    {requests : List TextRequest} (plain : ∀ request ∈ requests, request.context.blocks = [])
    (fair : ∀ moment ∈ (environment.keeping false).accounts requests {}, moment.Fair) :
    (environment.keeping true).answers requests {} =
      (environment.keeping false).answers requests {} := by
  have start : Copies.Stocks environment ⟨[], []⟩ ⟨{}, []⟩ ⟨{}, []⟩ := by
    refine ⟨rfl, ?_, rfl, ?_, List.nodup_nil⟩
    · intro key view found
      cases found
    · intro index block found
      cases found
  exact environment.answers_copies blind requests plain start fair

/-- A view with a print block that is rendered twice in a page, then by itself, and then by a
source: the block is compared with nothing, and goes through a helper. -/
theorem answers_keeping_twice :
    let part := "<js @print=\"$block === null ? '' : same($block)()\">x</js>"
    let environment : Environment :=
      { options := {}, source := .memory [("a", "<js @render=\"b\"/><js @render=\"b\"/>"), ("b", part)]
        helpers := [("same", "same")], functions := fun _ arguments => .ok (arguments.headD .null) }
    let requests : List TextRequest := [.page "a" .null, .part "b" .null]
    environment.BlindToBlocks ∧ (∀ request ∈ requests, request.context.blocks = []) ∧
      (∀ moment ∈ (environment.keeping false).accounts requests {}, moment.Fair) ∧
      ((environment.keeping true).answers requests {}).map (·.toOption) = [some "xx", some "x"] ∧
      (environment.keeping true).answers requests {} =
        (environment.keeping false).answers requests {} := by
  intro part environment requests
  have blind : environment.BlindToBlocks := by
    intro name arguments place
    cases arguments with
    | nil => rfl
    | cons first rest => rfl
  have plain : ∀ request ∈ requests, request.context.blocks = [] := by
    decide +kernel
  have compared : ((environment.keeping false).accounts requests {}).all (fun moment =>
      match moment.event with
      | .compared value other => value.blocks.isEmpty || other.blocks.isEmpty
      | _ => true) = true := by
    decide +kernel
  -- The block is compared with `null` only, so of two values one holds no block at all.
  have fair : ∀ moment ∈ (environment.keeping false).accounts requests {}, moment.Fair := by
    intro moment mem value other comparing index inside index' inside'
    have test := List.all_eq_true.mp compared moment mem
    rw [comparing] at test
    rcases Bool.or_eq_true_iff.mp test with none | none
    · rw [List.isEmpty_iff.mp none] at inside
      cases inside
    · rw [List.isEmpty_iff.mp none] at inside'
      cases inside'
  have written : ((environment.keeping true).answers requests {}).map (·.toOption) =
      [some "xx", some "x"] := by
    decide +kernel
  exact ⟨blind, plain, fair, written, answers_keeping blind plain fair⟩

/-- **It does make a difference** where a template compares a block with that of another use of
the same view, where a helper looks at the place of a block, and where the context brings a
block that nobody made. -/
theorem answers_keeping_differ :
    let twice := "<js @render=\"b\"/><js @render=\"b\"/>"
    let silent (source : ViewSource) : Environment :=
      { options := {}, source, functions := fun _ _ => .ok .null }
    let texts (environment : Environment) (cacheViews : Bool) (path : String) (context : Value) :=
      ((environment.keeping cacheViews).answers [.page path context] {}).map (·.toOption)
    let compares := silent <| .memory [("a",
      "<js @print=\"b === $block ? 'same' : $block()\"><js @if=\"n\">" ++
        "<js @render=\"a\" @context=\"{ b: $block, n: 0 }\" /></js></js>")]
    let looks : Environment :=
      { options := {}, source := .memory [("a", twice), ("b", "<js @print=\"f($block)\">x</js>")]
        helpers := [("f", "f")]
        functions := fun _ arguments =>
          .ok (.bool (arguments.flatMap Value.blocks == [0])) }
    let makesUp := silent <| .memory [("a", twice ++ "{%= f() %}"), ("b", "<js @print=\"''\">x</js>")]
    let number : Value := .object [("n", .number 1)]
    let block : Value := .object [("f", .function (.block 1))]
    (texts compares true "a" number = [some "same"] ∧ texts compares false "a" number = [some ""]) ∧
    (texts looks true "a" .null = [some "truetrue"] ∧
      texts looks false "a" .null = [some "truefalse"]) ∧
    (texts makesUp true "a" block = [none] ∧ texts makesUp false "a" block = [some "x"]) := by
  decide +kernel

end ViewTemplate
