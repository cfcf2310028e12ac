import ViewTemplate.Proofs.Render.Account
import ViewTemplate.Proofs.Render.Sessions

/-!
# Print blocks and their table

A print block is known by its place in a table, and every place that is ever to be found in a
value is one of the table: in the variables and the context, in those that the views around
have put aside, in what is passed to a call and in everything that is evaluated, inside
arrays and objects however deep.  So no print block is called that is not in the table.  The
table itself only grows, and holds each block once.

Values are not created with places of their own, except where a block is given its place; the
rest passes them on.  That is the correspondence of a render with itself in which the table is
the world, and in which a place matches itself if the table reaches that far
(`Correspondence.ofTable`).  It holds as long as helpers pass on what they were given, and
over whatever is done with one state from its start on, as long as nobody makes up a place.

## Main Definitions

* `Environment.PassesOn` — helpers that return no print blocks but those in their arguments
* `Request.Known`, `Environment.Knows` — requests that make up no print blocks
* `Environment.recordSession` — requests one after the other, with an account of each
-/

namespace ViewTemplate

open Snippet

/-! ## The table as a world -/

/-- **Helpers return no print blocks but those in their arguments.** -/
def Environment.PassesOn (environment : Environment) : Prop :=
  ∀ name arguments value, environment.functions name arguments = .ok value →
    value.blocks ⊆ arguments.flatMap Value.blocks

/-- **The correspondence of a render with itself over its table of print blocks.** -/
def Correspondence.ofTable {environment : Environment} (honest : environment.PassesOn) :
    Correspondence environment environment where
  World := List BoundBlock
  le := (· <+: ·)
  le_refl _ := List.prefix_rfl
  le_trans := List.IsPrefix.trans
  blocks table index index' := index = index' ∧ index < table.length
  blocks_mono grown same := ⟨same.1, Nat.lt_of_lt_of_le same.2 grown.length_le⟩
  origins _ := Eq
  origins_mono _ same := same
  stocks table stock stock' := stock = stock' ∧ stock.blocks = table ∧ table.Nodup
  fair _ _ _ := True
  lacking := False
  toSameNames := .refl environment
  functions := by
    intro table arguments arguments' name like
    obtain rfl := like.eq And.left
    cases returned : environment.functions name arguments with
    | error fault => exact .error trivial
    | ok value =>
      refine .ok (.refl value fun index mem => ⟨rfl, ?_⟩)
      obtain ⟨argument, given, inside⟩ := List.mem_flatMap.mp (honest _ _ _ returned mem)
      obtain ⟨_, like⟩ := exists_mem_of_forall₂ like argument given
      obtain ⟨_, -, bound⟩ := like.blocks_matched index inside
      exact bound
  compile := by
    rintro table stock _ path ⟨rfl, same, nodup⟩
    refine ⟨table, List.prefix_rfl, ?_, rfl, same, nodup⟩
    cases ((environment.compileView path).run.run stock.store).1 with
    | ok view => exact .ok ⟨rfl, rfl⟩
    | error error => exact .error trivial
  bind := by
    rintro table stock _ origin _ position parameters body ⟨rfl, rfl, nodup⟩ rfl
    intro block block'
    exact ⟨_, block.prefix_bindIn _, ⟨rfl, block.bindIn_lt _⟩, rfl, rfl, block.nodup_bindIn nodup⟩
  find := by
    rintro table stock _ index _ ⟨rfl, rfl, -⟩ ⟨rfl, bound⟩
    exact .inl ⟨_, _, List.getElem?_eq_getElem bound, rfl, List.getElem?_eq_getElem bound⟩
  apart := by
    rintro _ _ _ _ _ - - index _ index' _ _ _ ⟨rfl, -⟩ ⟨rfl, -⟩
    rfl

namespace Correspondence

variable {environment : Environment} {honest : environment.PassesOn} {table later : List BoundBlock}

/-- States match themselves only, over their own table. -/
theorem ofTable_states_eq {state state' : RenderState}
    (states : (ofTable honest).States table state state') :
    state = state' ∧ state.blocks = table ∧ table.Nodup :=
  ⟨states.eq And.left And.left, states.stock.2⟩

/-- A state matches itself if it holds no print blocks but those of its table. -/
theorem ofTable_states {state : RenderState} (nodup : state.blocks.Nodup)
    (known : ∀ index ∈ state.surroundings.blocks, index < state.blocks.length) :
    (ofTable honest).States state.blocks state state := by
  have contexts : (ofTable honest).ValueLike state.blocks state.context state.context :=
    .refl _ fun index mem => ⟨rfl, known index (List.mem_append_left _ mem)⟩
  have scopes : List.Forall₂ ((ofTable honest).FieldsLike state.blocks) state.frames
      state.frames := by
    refine List.forall₂_same.mpr fun frame here => ?_
    refine Value.Like.fields_refl frame fun index mem => ⟨rfl, known index ?_⟩
    exact List.mem_append_right _ (List.mem_flatMap.mpr ⟨frame, here, mem⟩)
  exact ⟨⟨rfl, rfl, nodup⟩, contexts, scopes⟩

/-- No state holds print blocks beyond its table. -/
theorem ofTable_known {state state' : RenderState}
    (states : (ofTable honest).States table state state') :
    ∀ index ∈ state.surroundings.blocks, index < state.blocks.length := by
  intro index mem
  obtain ⟨_, rfl, bound⟩ := states.known index mem
  rw [(ofTable_states_eq states).2.1]
  exact bound

end Correspondence

/-! ## Moments over tables -/

/-- **A moment whose table holds each print block once**, and at which no print block is to be
found, nor called, that is not in the table. -/
structure Moment.Settled (moment : Moment) : Prop where
  nodup : moment.state.blocks.Nodup
  known : ∀ index ∈ moment.blocks, index < moment.state.blocks.length
  found : ∀ index, moment.event ≠ .missed index

namespace Correspondence

variable {environment : Environment} {honest : environment.PassesOn} {table later : List BoundBlock}
  {moments : List Moment}

/-- What is seen over a table is settled, and the table is that of the moment. -/
theorem Sees.settled {moment : Moment} (sees : (ofTable honest).Sees table moment) :
    moment.Settled ∧ moment.state.blocks = table := by
  obtain ⟨⟨_, states⟩, known, found⟩ := sees
  obtain ⟨-, rfl, nodup⟩ := ofTable_states_eq states
  refine ⟨⟨nodup, fun index mem => ?_, found⟩, rfl⟩
  obtain ⟨_, -, bound⟩ := known index mem
  exact bound

/-- All moments on the way from one table to another are settled. -/
theorem Passes.settled (passes : (ofTable honest).Passes table moments later) :
    ∀ moment ∈ moments, moment.Settled ∧ moment.state.blocks <+: later := by
  intro moment mem
  obtain ⟨middle, -, sees, behind⟩ := passes.sees moment mem
  obtain ⟨settled, same⟩ := sees.settled
  exact ⟨settled, same ▸ behind⟩

/-- The table only grows from moment to moment. -/
theorem Passes.tables_grow (passes : (ofTable honest).Passes table moments later) :
    moments.Pairwise fun first second => first.state.blocks <+: second.state.blocks := by
  refine passes.pairwise.imp ?_
  rintro first second ⟨_, _, sees, sees', grown⟩
  rw [sees.settled.2, sees'.settled.2]
  exact grown

/-- What an action and its account come to over a table that holds all print blocks of a
state. -/
theorem Alike.settles {recorded : Recorded RenderError Unit} {action : Render Unit}
    (same : (ofTable honest).Alike table (fun _ => Eq) recorded action) {state : RenderState}
    (states : (ofTable honest).States table state state) :
    ∃ later, (ofTable honest).Passes table (recorded.run state).moments later ∧
      (ofTable honest).States later (recorded.run state).after (recorded.run state).after ∧
      (∀ error, (recorded.run state).result = .error error → ¬ error.Lacks) ∧
      action.run.run state = ((recorded.run state).result, (recorded.run state).after) := by
  obtain ⟨later, passes, states', ends⟩ := same state state states fun _ _ _ _ _ => trivial
  obtain ⟨equal, -⟩ := ofTable_states_eq states'
  generalize recorded.run state = recording at passes states' ends equal ⊢
  generalize action.run.run state = run at states' ends equal ⊢
  obtain ⟨result, after, moments⟩ := recording
  obtain ⟨result', after'⟩ := run
  cases equal
  cases ends with
  | ok equal =>
    cases equal
    exact ⟨later, passes, states', nofun, rfl⟩
  | error may =>
    refine ⟨later, passes, states', ?_, rfl⟩
    rintro _ ⟨⟩ lacks
    exact may lacks

end Correspondence

/-! ## Requests -/

namespace Request

/-- What is done on a request, with an account. -/
def record (environment : Environment) : Request → Recorded RenderError Unit
  | full view => environment.recordView view
  | part view => environment.recordPart view
  | layouts => environment.recordLayouts (environment.source.viewCount + 1)
  | inPlace path overrides position => environment.recordedCalls.view path overrides position
  | block index arguments position => do
    let _ ← .snippet position (environment.recordedCalls.block index arguments)
  | change make _ => modify make

/-- **A request that makes up no print blocks**: those that it brings are in the table. -/
def Known (state : RenderState) : Request → Prop
  | full _ | part _ | layouts => True
  | inPlace _ overrides _ =>
    ∀ value ∈ overrides, ∀ index ∈ value.blocks, index < state.blocks.length
  | block index arguments _ =>
    index < state.blocks.length ∧
      ∀ argument ∈ arguments, ∀ index ∈ argument.blocks, index < state.blocks.length
  | change make _ =>
    (make state).blocks = state.blocks ∧
      ∀ index ∈ (make state).surroundings.blocks, index < state.blocks.length

variable {environment : Environment} {honest : environment.PassesOn} {table : List BoundBlock}

open Correspondence in
/-- Requests that make up no print blocks settle all moments. -/
theorem settles (request : Request) {state : RenderState}
    (states : (ofTable honest).States table state state) (known : request.Known state) :
    ∃ later, (ofTable honest).Passes table ((request.record environment).run state).moments later ∧
      (ofTable honest).States later ((request.record environment).run state).after
        ((request.record environment).run state).after ∧
      (∀ error, ((request.record environment).run state).result = .error error → ¬ error.Lacks) ∧
      (request.run environment).run.run state =
        (((request.record environment).run state).result,
          ((request.record environment).run state).after) := by
  obtain ⟨-, rfl, nodup⟩ := ofTable_states_eq states
  cases request with
  | full view => exact Alike.settles (recordView_alike ⟨rfl, rfl⟩) states
  | part view => exact Alike.settles (recordPart_alike ⟨rfl, rfl⟩) states
  | layouts => exact Alike.settles (recordLayouts_alike _ _) states
  | inPlace path overrides position =>
    refine Alike.settles (recordedCalls_alike.view path position ?_) states
    cases overrides with
    | none => exact .none
    | some value => exact .some (.refl value fun index mem => ⟨rfl, known value rfl index mem⟩)
  | block index arguments position =>
    refine Alike.settles ?_ states
    refine .bind (.snippet (recordedCalls_alike.block ⟨rfl, known.1⟩ ?_)) fun _ _ _ _ _ => .pure rfl
    refine List.forall₂_same.mpr fun argument here => .refl argument fun index mem => ?_
    exact ⟨rfl, known.2 argument here index mem⟩
  | change make still =>
    have after : (ofTable honest).States state.blocks (make state) (make state) := by
      rw [← known.1]
      refine ofTable_states (known.1 ▸ nodup) fun index mem => ?_
      rw [known.1]
      exact known.2 index mem
    exact ⟨state.blocks, .nil List.prefix_rfl, after, nofun, rfl⟩

end Request

/-! ## Sessions -/

namespace Environment

variable (environment : Environment)

/-- Requests one after the other, with an account of each. -/
def recordSession : List Request → RenderState → List (Recording RenderError Unit)
  | [], _ => []
  | request :: rest, state =>
    let recording := (request.record environment).run state
    recording :: recordSession rest recording.after

/-- **Requests that make up no print blocks**, each from where the ones before it end. -/
def Knows : List Request → RenderState → Prop
  | [], _ => True
  | request :: rest, state =>
    request.Known state ∧ Knows rest ((request.run environment).run.run state).2

variable {environment}

theorem recordSession_sound (requests : List Request) (state : RenderState) :
    ∀ recording ∈ environment.recordSession requests state, recording.Sound := by
  induction requests generalizing state with
  | nil => exact List.forall_mem_nil _
  | cons request rest ih =>
    exact List.forall_mem_cons.mpr ⟨(request.record environment).sound state, ih _⟩

end Environment

open Correspondence in
/-- **A session settles all moments**, by induction on its requests. -/
theorem session_settles {environment : Environment} {honest : environment.PassesOn}
    (requests : List Request) {table : List BoundBlock} {state : RenderState}
    (states : (ofTable honest).States table state state) (known : environment.Knows requests state) :
    let recordings := environment.recordSession requests state
    let outcome := (session (Request.run environment) requests).run state
    ∃ later, (ofTable honest).Passes table (recordings.flatMap (·.moments)) later ∧
      (ofTable honest).States later outcome.2 outcome.2 ∧
      outcome.1 = recordings.map (·.result) ∧
      ∀ result ∈ outcome.1, ∀ error, result = .error error → ¬ error.Lacks := by
  induction requests generalizing table state with
  | nil => exact ⟨table, .nil List.prefix_rfl, states, rfl, List.forall_mem_nil _⟩
  | cons request rest ih =>
    obtain ⟨middle, passes, states', found, same⟩ := request.settles states known.1
    have known := known.2
    rw [same] at known
    obtain ⟨later, passes', states'', results, found'⟩ := ih states' known
    dsimp only
    rw [session_cons, same]
    exact ⟨later, passes.append passes', states'', congrArg _ results,
      List.forall_mem_cons.mpr ⟨found, found'⟩⟩

open Correspondence in
/-- **All print blocks of a session are in its table.**  Let the helpers of an environment
return no print blocks but those in their arguments, and let a session start with a context
in which there are none, of requests that make up none.  Then at every moment the table holds
each block once, and every print block that is anywhere to be found is in it: in the variables
and the context, in what the views around have put aside, in what is passed to calls and in
all that is evaluated.  So none is called that is not in the table, and no request fails for
that reason.  The table only grows, from moment to moment and up to the end, and a block that
is given a place is always given the same one. -/
theorem session_knows_blocks {environment : Environment} (honest : environment.PassesOn)
    {context : Value} (plain : context.blocks = []) (store : ViewStore) {requests : List Request}
    (known : environment.Knows requests (.start context store)) :
    let recordings := environment.recordSession requests (.start context store)
    let moments := recordings.flatMap (·.moments)
    let outcome := (session (Request.run environment) requests).run (.start context store)
    outcome.1 = recordings.map (·.result) ∧
    (∀ index position, .error (.evaluation (.unboundBlock index) position) ∉ outcome.1) ∧
    (∀ moment ∈ moments, moment.Settled ∧ moment.state.blocks <+: outcome.2.blocks) ∧
    moments.Pairwise (fun first second => first.state.blocks <+: second.state.blocks) ∧
    (∀ first ∈ moments, ∀ second ∈ moments, ∀ index index' block,
      first.event = .bound index block → second.event = .bound index' block → index = index') ∧
    outcome.2.blocks.Nodup ∧
    ∀ index ∈ outcome.2.surroundings.blocks, index < outcome.2.blocks.length := by
  intro recordings moments outcome
  have start : (ofTable honest).States [] (.start context store) (.start context store) :=
    @ofTable_states _ honest (.start context store) List.nodup_nil fun index mem => by
      rw [RenderState.surroundings, Surroundings.blocks, RenderState.start, plain] at mem
      cases mem
  obtain ⟨later, passes, ended, results, found⟩ := session_settles requests start known
  obtain ⟨-, same, nodup⟩ := ofTable_states_eq ended
  change outcome.2.blocks = later at same
  have settled : ∀ moment ∈ moments, moment.Settled ∧ moment.state.blocks <+: outcome.2.blocks := by
    rw [same]
    exact passes.settled
  refine ⟨results, ?_, settled, passes.tables_grow, ?_, same ▸ nodup, ofTable_known ended⟩
  · intro index position mem
    exact found _ mem _ rfl trivial
  -- A block stands in the last table where it was put, and only once.
  · have placed : ∀ moment ∈ moments, ∀ index block, moment.event = .bound index block →
        outcome.2.blocks[index]? = some block := by
      intro moment mem index block bound
      obtain ⟨recording, here, inside⟩ := List.mem_flatMap.mp mem
      have sound := Environment.recordSession_sound requests _ recording here moment inside
      rw [Moment.Sound, bound] at sound
      exact getElem?_of_prefix (settled moment mem).2 sound
    intro first mem second mem' index index' block bound bound'
    have here := placed first mem index block bound
    have here' := placed second mem' index' block bound'
    have inTable := (List.getElem?_eq_some_iff.mp here).1
    exact (List.getElem?_inj inTable (same ▸ nodup)).mp (here.trans here'.symm)

/-- A print block that is handed to a helper in an object, taken out again and called, and then
called for the items of an array, by a view that is rendered in place. -/
theorem session_knows_blocks_helper :
    let page := "<js @print=\"same({ b: $block }).b('x') + ['y'].map($block)\" @block=\"v\">({%= v %})</js>"
    let environment : Environment :=
      { options := {}, source := .memory [("page", page)], helpers := [("same", "same")],
        functions := fun _ arguments => .ok (arguments[0]?.getD .undefined) }
    let requests : List Request := [.inPlace "page" none .start]
    let start := RenderState.start .null {}
    let moments := (environment.recordSession requests start).flatMap (·.moments)
    let after := ((session (Request.run environment) requests).run start).2
    environment.PassesOn ∧ environment.Knows requests start ∧ after.output = "(x)(y)" ∧
      (∀ moment ∈ moments, moment.Settled ∧ moment.state.blocks <+: after.blocks) ∧
      after.blocks.Nodup := by
  intro page environment requests
  have honest : environment.PassesOn := by
    intro name arguments value returned index mem
    cases returned
    cases arguments with
    | nil => cases mem
    | cons first rest => exact List.mem_append_left _ mem
  have known : environment.Knows requests (.start .null {}) := ⟨nofun, trivial⟩
  have written :
      ((session (Request.run environment) requests).run (.start .null {})).2.output = "(x)(y)" := by
    decide +kernel
  obtain ⟨-, -, settled, -, -, nodup, -⟩ := session_knows_blocks honest rfl {} known
  exact ⟨honest, known, written, settled, nodup⟩

end ViewTemplate
