import ViewTemplate.Proofs.Render.Recording

/-!
# Renders that correspond to each other

Two renders of the same template, the one recorded and the other one not, in environments
that may differ in how they keep compiled views.  Their states differ in the views that are
kept and in the table of print blocks, and so their values differ in the places of print
blocks.  All else is the same.

Which places correspond is not known beforehand: tables grow while steps are executed.  So a
correspondence goes through worlds.  A world says which places and which compilations match;
it may grow, and what matches in it matches in every later one.  An action corresponds to a
recorded one (`Correspondence.Alike`) if from states that match in some world it leads to
states that match in a later one, with results that match there, and if every moment on the
way is seen from a world in between (`Correspondence.Sees`): all print blocks that are
anywhere to be found then have a match.

What has to be shown of two environments is asked for in the fields of `Correspondence`, once
for each of the things by which the renders may differ: compiling, binding, finding and
comparing print blocks, and calling helpers.

## Main Definitions

* `Environment.SameNames` — environments with the same names, views and bounds
* `Correspondence` — worlds, and what two environments do in them
* `Correspondence.States` — states that match in a world
* `Correspondence.Sees`, `Correspondence.Passes` — moments that are seen from worlds
* `Correspondence.Alike` — a recorded action and one that does the same
-/

namespace ViewTemplate

/-! ## Print blocks at a moment -/

/-- The print blocks in what expressions see. -/
def Surroundings.blocks (surroundings : Surroundings) : List Nat :=
  surroundings.context.blocks ++ surroundings.frames.flatMap fun frame => (Value.object frame).blocks

/-- The print blocks that an event concerns. -/
def Event.blocks : Event → List Nat
  | evaluated value => value.blocks
  | compared value other => value.blocks ++ other.blocks
  | called callable arguments => (Value.function callable).blocks ++ arguments.flatMap Value.blocks
  | bound index _ => [index]
  | entered _ arguments caller => arguments.flatMap Value.blocks ++ caller.surroundings.blocks
  | missed _ | threw .. | failed .. => []

/-- **The print blocks that are anywhere to be found at a moment**: in the variables and the
context, in what was put aside, and in what is evaluated, compared and called. -/
def Moment.blocks (moment : Moment) : List Nat :=
  moment.state.surroundings.blocks ++ moment.asides.flatMap Surroundings.blocks ++
    moment.event.blocks

/-! ## Stocks -/

/-- What renders of the same template may differ by: the compiled views that are kept, and the
table of print blocks. -/
structure Stock where
  store : ViewStore
  blocks : List BoundBlock

/-- The stock of a state. -/
def RenderState.stock (state : RenderState) : Stock :=
  ⟨state.store, state.blocks⟩

/-! ## Correspondences -/

/-- Environments with the same names and views, and the same bounds. -/
structure Environment.SameNames (left right : Environment) : Prop where
  helpers : left.helpers = right.helpers
  turns : left.turns = right.turns
  source : left.source = right.source
  defaultLayout : left.options.defaultLayout = right.options.defaultLayout

theorem Environment.SameNames.refl (environment : Environment) :
    environment.SameNames environment :=
  ⟨rfl, rfl, rfl, rfl⟩

/-- **What makes the renders of two environments correspond.** -/
structure Correspondence (left right : Environment) extends left.SameNames right where
  World : Type
  /-- Worlds grow. -/
  le : World → World → Prop
  le_refl : ∀ world, le world world
  le_trans : ∀ {first second third}, le first second → le second third → le first third
  /-- The places of print blocks that match in a world. -/
  blocks : World → Nat → Nat → Prop
  blocks_mono : ∀ {world later index index'}, le world later →
    blocks world index index' → blocks later index index'
  /-- The compilations that match in a world. -/
  origins : World → Nat → Nat → Prop
  origins_mono : ∀ {world later origin origin'}, le world later →
    origins world origin origin' → origins later origin origin'
  /-- The stocks that match in a world. -/
  stocks : World → Stock → Stock → Prop
  /-- Where a table of blocks stands for all that the matching knows, these values can be
  compared. -/
  fair : List BoundBlock → Value → Value → Prop
  /-- Whether print blocks may be called that are not in the table. -/
  lacking : Prop
  /-- Helpers do the same with arguments that are alike. -/
  functions : ∀ {world arguments arguments'} (name : String),
    Value.ListLike (blocks world) arguments arguments' →
      Ends (Value.Like (blocks world)) (fun _ => True) (left.functions name arguments)
        (right.functions name arguments')
  /-- A path leads to the same program. -/
  compile : ∀ {world stock stock'} (path : String), stocks world stock stock' →
    ∃ later, le world later ∧
      Ends (fun view view' => origins later view.serial view'.serial ∧
          view.program = view'.program) (fun _ => True)
        ((left.compileView path).run.run stock.store).1
        ((right.compileView path).run.run stock'.store).1 ∧
      stocks later ⟨((left.compileView path).run.run stock.store).2, stock.blocks⟩
        ⟨((right.compileView path).run.run stock'.store).2, stock'.blocks⟩
  /-- A print block gets matching places. -/
  bind : ∀ {world stock stock' origin origin'} (position : Position) (parameters : List String)
    (body : List Step), stocks world stock stock' → origins world origin origin' →
      let block : BoundBlock := ⟨origin, position, parameters, body⟩
      let block' : BoundBlock := ⟨origin', position, parameters, body⟩
      ∃ later, le world later ∧
        blocks later (block.bindIn stock.blocks).1 (block'.bindIn stock'.blocks).1 ∧
        stocks later ⟨stock.store, (block.bindIn stock.blocks).2⟩
          ⟨stock'.store, (block'.bindIn stock'.blocks).2⟩
  /-- In matching places is the same print block, or the same place is empty. -/
  find : ∀ {world stock stock' index index'}, stocks world stock stock' →
    blocks world index index' →
      (∃ block origin', stock.blocks[index]? = some block ∧ origins world block.origin origin' ∧
        stock'.blocks[index']? = some { block with origin := origin' }) ∨
      (lacking ∧ index = index' ∧ stock.blocks[index]? = none ∧ stock'.blocks[index']? = none)
  /-- Values that can be compared are told apart. -/
  apart : ∀ {world stock stock' value other}, stocks world stock stock' →
    fair stock.blocks value other → Value.KeptApart (blocks world) value other

namespace Correspondence

variable {left right : Environment} (K : Correspondence left right)

/-- Values that match in a world. -/
abbrev ValueLike (world : K.World) : Value → Value → Prop :=
  Value.Like (K.blocks world)

/-- Lists of values that match in a world. -/
abbrev ValuesLike (world : K.World) : List Value → List Value → Prop :=
  Value.ListLike (K.blocks world)

/-- Fields and variables that match in a world. -/
abbrev FieldsLike (world : K.World) : Table Value → Table Value → Prop :=
  Table.Like (K.ValueLike world)

/-- **States that match in a world.** -/
inductive States (world : K.World) : RenderState → RenderState → Prop where
  | mk {store store' : ViewStore} {blocks blocks' : List BoundBlock}
      {context context' : Value} {frames frames' : List Frame}
      {target : Target} {saved : List Target} {layouts : List String}
      {pendingLayout : Option String} {partialDepth depth : Nat}
      (stock : K.stocks world ⟨store, blocks⟩ ⟨store', blocks'⟩)
      (contexts : K.ValueLike world context context')
      (scopes : List.Forall₂ (K.FieldsLike world) frames frames') :
      States world
        ⟨store, target, saved, layouts, pendingLayout, context, frames, blocks, partialDepth, depth⟩
        ⟨store', target, saved, layouts, pendingLayout, context', frames', blocks', partialDepth,
          depth⟩

/-- **A moment that is seen from a world**: its state matches another one there, all print
blocks that are to be found have a match, and none is called that is not in the table, unless
that may be. -/
structure Sees (world : K.World) (moment : Moment) : Prop where
  state : ∃ other, K.States world moment.state other
  blocks : ∀ index ∈ moment.blocks, ∃ index', K.blocks world index index'
  found : ∀ index, moment.event = .missed index → K.lacking

/-- **Moments that are seen one after the other** on the way from one world to another. -/
inductive Passes : K.World → List Moment → K.World → Prop where
  | nil {world later : K.World} (grown : K.le world later) : Passes world [] later
  | cons {world middle later : K.World} {moment : Moment} {rest : List Moment}
      (grown : K.le world middle) (sees : K.Sees middle moment)
      (behind : Passes middle rest later) : Passes world (moment :: rest) later

/-- A moment at which values are compared is fair if these can be compared. -/
def Fair (moment : Moment) : Prop :=
  ∀ value other, moment.event = .compared value other → K.fair moment.state.blocks value other

/-- The errors with which renders that correspond to each other may fail. -/
def Permits {ε : Type} [Reports ε] (error : ε) : Prop :=
  Reports.lacks error → K.lacking

/-- **An action that does the same as a recorded one**, from states that match in a world on,
as long as the moments are fair. -/
def Alike {ε α β : Type} [Reports ε] (world : K.World) (related : K.World → α → β → Prop)
    (recorded : Recorded ε α) (action : ExceptT ε (StateM RenderState) β) : Prop :=
  ∀ state state', K.States world state state' →
    (∀ moment ∈ (recorded.run state).moments, K.Fair moment) →
    ∃ later, K.Passes world (recorded.run state).moments later ∧
      K.States later (recorded.run state).after (action.run.run state').2 ∧
      Ends (related later) K.Permits (recorded.run state).result (action.run.run state').1

variable {K}

/-! ## Growing -/

theorem Passes.grown {world later : K.World} {moments : List Moment}
    (passes : K.Passes world moments later) : K.le world later := by
  induction passes with
  | nil grown => exact grown
  | cons grown _ _ ih => exact K.le_trans grown ih

theorem Passes.before {world first later : K.World} {moments : List Moment}
    (grown : K.le world first) (passes : K.Passes first moments later) :
    K.Passes world moments later := by
  cases passes with
  | nil grown' => exact .nil (K.le_trans grown grown')
  | cons grown' sees behind => exact .cons (K.le_trans grown grown') sees behind

theorem Passes.append {world middle later : K.World} {moments more : List Moment}
    (passes : K.Passes world moments middle) (behind : K.Passes middle more later) :
    K.Passes world (moments ++ more) later := by
  induction passes with
  | nil grown => exact behind.before grown
  | cons grown sees _ ih => exact .cons grown sees (ih behind)

theorem Passes.single {world later : K.World} {moment : Moment} (grown : K.le world later)
    (sees : K.Sees later moment) : K.Passes world [moment] later :=
  .cons grown sees (.nil (K.le_refl later))

/-- Every moment is seen from a world on the way. -/
theorem Passes.sees {world later : K.World} {moments : List Moment}
    (passes : K.Passes world moments later) :
    ∀ moment ∈ moments, ∃ middle, K.le world middle ∧ K.Sees middle moment ∧ K.le middle later := by
  induction passes with
  | nil grown => exact List.forall_mem_nil _
  | cons grown sees behind ih =>
    refine List.forall_mem_cons.mpr ⟨⟨_, grown, sees, behind.grown⟩, fun moment mem => ?_⟩
    obtain ⟨middle, grown', sees', behind'⟩ := ih moment mem
    exact ⟨middle, K.le_trans grown grown', sees', behind'⟩

/-- Of two moments, the later one is seen from a later world. -/
theorem Passes.pairwise {world later : K.World} {moments : List Moment}
    (passes : K.Passes world moments later) :
    moments.Pairwise fun first second => ∃ world later,
      K.Sees world first ∧ K.Sees later second ∧ K.le world later := by
  induction passes with
  | nil grown => exact .nil
  | cons grown sees behind ih =>
    refine .cons (fun moment mem => ?_) ih
    obtain ⟨middle, grown', sees', -⟩ := behind.sees moment mem
    exact ⟨_, middle, sees, sees', grown'⟩

/-- Values that match in a world match in every later one. -/
theorem value_mono {world later : K.World} (grown : K.le world later) {value value' : Value}
    (like : K.ValueLike world value value') : K.ValueLike later value value' :=
  like.mono (K.blocks_mono grown)

theorem values_mono {world later : K.World} (grown : K.le world later)
    {values values' : List Value} (like : K.ValuesLike world values values') :
    K.ValuesLike later values values' :=
  like.imp fun _ _ => value_mono grown

theorem fields_mono {world later : K.World} (grown : K.le world later)
    {fields fields' : Table Value} (like : K.FieldsLike world fields fields') :
    K.FieldsLike later fields fields' :=
  like.mono (value_mono grown)

/-! ## Seeing -/

section

variable {world later : K.World} {state state' : RenderState}

theorem States.stock (states : K.States world state state') :
    K.stocks world state.stock state'.stock := by
  cases states with
  | mk stock _ _ => exact stock

theorem States.context (states : K.States world state state') :
    K.ValueLike world state.context state'.context := by
  cases states with
  | mk _ contexts _ => exact contexts

theorem States.frames (states : K.States world state state') :
    List.Forall₂ (K.FieldsLike world) state.frames state'.frames := by
  cases states with
  | mk _ _ scopes => exact scopes

theorem States.depth (states : K.States world state state') : state.depth = state'.depth := by
  cases states
  rfl

/-- Where print blocks and stocks are matched with themselves only, so are states. -/
theorem States.eq (states : K.States world state state')
    (blocks : ∀ {index index'}, K.blocks world index index' → index = index')
    (stocks : ∀ {stock stock'}, K.stocks world stock stock' → stock = stock') : state = state' := by
  obtain ⟨stock, contexts, scopes⟩ := states
  obtain ⟨rfl, rfl⟩ := Stock.mk.injEq .. ▸ stocks stock
  cases contexts.eq blocks
  have frames := scopes.imp fun _ _ like => like.eq fun same => same.eq blocks
  rw [List.forall₂_eq_eq_eq] at frames
  rw [frames]

/-- States with other stocks, which match in a later world. -/
theorem States.restock (states : K.States world state state') (grown : K.le world later)
    {store store' : ViewStore} {blocks blocks' : List BoundBlock}
    (stock : K.stocks later ⟨store, blocks⟩ ⟨store', blocks'⟩) :
    K.States later { state with store, blocks }
      { state' with store := store', blocks := blocks' } := by
  obtain ⟨_, contexts, scopes⟩ := states
  exact ⟨stock, value_mono grown contexts, scopes.imp fun _ _ => fields_mono grown⟩

theorem States.pushFrame (states : K.States world state state') {frame frame' : Frame}
    (like : K.FieldsLike world frame frame') :
    K.States world (state.pushFrame frame) (state'.pushFrame frame') := by
  obtain ⟨stock, contexts, scopes⟩ := states
  exact ⟨stock, contexts, .cons like scopes⟩

theorem States.popFrame (states : K.States world state state') :
    K.States world state.popFrame state'.popFrame := by
  obtain ⟨stock, contexts, scopes⟩ := states
  refine ⟨stock, contexts, ?_⟩
  cases scopes with
  | nil => exact .nil
  | cons _ rest => exact rest

/-- A list of print blocks that have a match in a world. -/
abbrev Known (K : Correspondence left right) (world : K.World) (indices : List Nat) : Prop :=
  ∀ index ∈ indices, ∃ index', K.blocks world index index'

theorem Known.mono {indices : List Nat} (grown : K.le world later) (known : K.Known world indices) :
    K.Known later indices :=
  fun index mem => (known index mem).imp fun _ => K.blocks_mono grown

theorem known_append {first second : List Nat} (known : K.Known world first)
    (known' : K.Known world second) : K.Known world (first ++ second) :=
  List.forall_mem_append.mpr ⟨known, known'⟩

theorem known_flatMap {α : Type} {things : List α} {blocks : α → List Nat}
    (known : ∀ thing ∈ things, K.Known world (blocks thing)) :
    K.Known world (things.flatMap blocks) := by
  intro index mem
  obtain ⟨thing, here, inside⟩ := List.mem_flatMap.mp mem
  exact known thing here index inside

theorem values_known {values values' : List Value} (like : K.ValuesLike world values values') :
    K.Known world (values.flatMap Value.blocks) :=
  known_flatMap fun value here =>
    have ⟨_, like⟩ := exists_mem_of_forall₂ like value here
    like.blocks_matched

theorem surroundings_known {context context' : Value} {frames frames' : List Frame}
    (contexts : K.ValueLike world context context')
    (scopes : List.Forall₂ (K.FieldsLike world) frames frames') :
    K.Known world (Surroundings.mk context frames).blocks :=
  known_append contexts.blocks_matched <| known_flatMap fun frame here =>
    have ⟨_, like⟩ := exists_mem_of_forall₂ scopes frame here
    (Value.Like.object like).blocks_matched

theorem States.known (states : K.States world state state') :
    K.Known world state.surroundings.blocks :=
  surroundings_known states.context states.frames

/-- What happens now is seen from the world in which the state matches. -/
theorem States.sees (states : K.States world state state') {event : Event}
    (known : K.Known world event.blocks) (found : ∀ index, event = .missed index → K.lacking) :
    K.Sees world ⟨event, state, []⟩ where
  state := ⟨state', states⟩
  blocks := known_append (known_append states.known (List.forall_mem_nil _)) known
  found := found

/-- What is put aside for a view is known when its moments are seen. -/
theorem Passes.inside {aside : Surroundings} (known : K.Known world aside.blocks)
    {moments : List Moment} (passes : K.Passes world moments later) :
    K.Passes world (moments.map (.inside aside)) later := by
  induction passes with
  | nil grown => exact .nil grown
  | @cons world middle later moment rest grown sees _ ih =>
    -- What was put aside does not change, but the world does: its blocks are still known.
    refine .cons grown ⟨sees.state, ?_, sees.found⟩ (ih (known.mono grown))
    have blocks := sees.blocks
    unfold Moment.blocks at blocks ⊢
    have ⟨outer, event⟩ := List.forall_mem_append.mp blocks
    have ⟨state, asides⟩ := List.forall_mem_append.mp outer
    exact known_append (known_append state (known_append (known.mono grown) asides)) event

theorem fair_inside {aside : Surroundings} {moments : List Moment}
    (fair : ∀ moment ∈ moments.map (Moment.inside aside), K.Fair moment) :
    ∀ moment ∈ moments, K.Fair moment :=
  fun moment mem => fair (moment.inside aside) (List.mem_map_of_mem mem)

end

/-! ## Actions -/

namespace Alike

variable {ε α β γ δ : Type} [Reports ε] {world : K.World} {related : K.World → α → β → Prop}
  {related' : K.World → γ → δ → Prop}

/-- What records nothing is compared from state to state. -/
theorem silent {action : ExceptT ε (StateM RenderState) α}
    {action' : ExceptT ε (StateM RenderState) β}
    (same : ∀ state state', K.States world state state' → ∃ later, K.le world later ∧
      K.States later (action.run.run state).2 (action'.run.run state').2 ∧
      Ends (related later) K.Permits (action.run.run state).1 (action'.run.run state').1) :
    K.Alike world related (.silent action) action' := by
  intro state state' match' _
  obtain ⟨later, grown, states, ends⟩ := same state state' match'
  exact ⟨later, .nil grown, states, ends⟩

theorem pure {value : α} {value' : β} (same : related world value value') :
    K.Alike world related (Pure.pure value : Recorded ε α) (Pure.pure value') :=
  silent fun _ _ states => ⟨world, K.le_refl world, states, .ok same⟩

/-- What follows from how the results are related. -/
theorem imp {wider : K.World → α → β → Prop} {recorded : Recorded ε α}
    {action : ExceptT ε (StateM RenderState) β} (same : K.Alike world related recorded action)
    (weaken : ∀ {later value value'}, related later value value' → wider later value value') :
    K.Alike world wider recorded action := by
  intro state state' states fair
  obtain ⟨later, passes, states', ends⟩ := same state state' states fair
  refine ⟨later, passes, states', ?_⟩
  generalize (recorded.run state).result = result at ends ⊢
  generalize (action.run.run state').1 = result' at ends ⊢
  cases ends with
  | ok same => exact .ok (weaken same)
  | error may => exact .error may

/-- **Sequences.** -/
theorem bind {recorded : Recorded ε α} {action : ExceptT ε (StateM RenderState) β}
    {next : α → Recorded ε γ} {next' : β → ExceptT ε (StateM RenderState) δ}
    (first : K.Alike world related recorded action)
    (rest : ∀ later, K.le world later → ∀ value value', related later value value' →
      K.Alike later related' (next value) (next' value')) :
    K.Alike world related' (recorded >>= next) (action >>= next') := by
  intro state state' states fair
  rw [run_bind]
  have before := first state state' states
  change ∀ moment ∈ ((recorded.run state).andThen fun value => (next value).run).moments,
    K.Fair moment at fair
  change ∃ later, K.Passes world ((recorded.run state).andThen _).moments later ∧
    K.States later ((recorded.run state).andThen _).after _ ∧
    Ends (related' later) K.Permits ((recorded.run state).andThen _).result _
  unfold Recording.andThen at fair ⊢
  generalize recorded.run state = recording at before fair ⊢
  generalize action.run.run state' = run at before ⊢
  obtain ⟨result, after, moments⟩ := recording
  obtain ⟨result', after'⟩ := run
  cases result with
  | error error =>
    obtain ⟨later, passes, states', ends⟩ := before fair
    cases ends with
    | error may => exact ⟨later, passes, states', .error may⟩
  | ok value =>
    -- The world in which the first action ends is the one in which the next one begins.
    obtain ⟨middle, passes, states', ends⟩ :=
      before fun moment mem => fair moment (List.mem_append_left _ mem)
    cases ends with
    | @ok _ value' same =>
      obtain ⟨later, passes', states'', ends⟩ := rest middle passes.grown value value' same after
        after' states' fun moment mem => fair moment (List.mem_append_right _ mem)
      exact ⟨later, passes.append passes', states'', ends⟩

theorem map {recorded : Recorded ε α} {action : ExceptT ε (StateM RenderState) β}
    (same : K.Alike world related recorded action) {change : α → γ} {change' : β → δ}
    (gives : ∀ {later value value'}, related later value value' →
      related' later (change value) (change' value')) :
    K.Alike world related' (change <$> recorded) (change' <$> action) := by
  rw [map_eq_pure_bind change' action]
  exact bind same fun _ _ _ _ like => pure (gives like)

/-- What is only looked at in the recorded action, and what follows it. -/
theorem look_bind {recorded : Recorded ε α} {next : α → Recorded ε γ}
    {action : ExceptT ε (StateM RenderState) δ} {shown : K.World → α → Unit → Prop}
    (first : K.Alike world shown recorded (Pure.pure ()))
    (rest : ∀ later, K.le world later → ∀ value, shown later value () →
      K.Alike later related' (next value) action) :
    K.Alike world related' (recorded >>= next) action := by
  rw [← pure_bind () fun _ => action]
  exact bind first fun later grown value _ same => rest later grown value same

theorem fail {error : ε} (may : K.Permits error) :
    K.Alike world related (.fail error) (throw error) :=
  silent fun _ _ states => ⟨world, K.le_refl world, states, .error may⟩

theorem ofExcept {result : Except ε α} {result' : Except ε β}
    (same : Ends (related world) K.Permits result result') :
    K.Alike world related (.ofExcept result) (MonadExcept.ofExcept result') := by
  refine silent fun state state' states => ⟨world, K.le_refl world, ?_⟩
  rw [run_ofExcept, run_ofExcept]
  exact ⟨states, same⟩

/-- The states that two actions look at match. -/
theorem get_bind {next : RenderState → Recorded ε γ}
    {next' : RenderState → ExceptT ε (StateM RenderState) δ}
    (rest : ∀ state state', K.States world state state' →
      K.Alike world related' (next state) (next' state')) :
    K.Alike world related' (get >>= next) (get >>= next') :=
  fun state state' states fair => rest state state' states state state' states fair

/-- Changes that keep states matching. -/
theorem modify {change change' : RenderState → RenderState}
    (kept : ∀ {state state'}, K.States world state state' →
      K.States world (change state) (change' state')) :
    K.Alike world (fun _ => Eq) (modify change : Recorded ε Unit) (modify change') :=
  silent fun _ _ states => ⟨world, K.le_refl world, kept states, .ok rfl⟩

/-- States that match in the place of others. -/
theorem set {after after' : RenderState} (states : K.States world after after') :
    K.Alike world (fun _ => Eq) (set after : Recorded ε Unit) (set after') :=
  silent fun _ _ _ => ⟨world, K.le_refl world, states, .ok rfl⟩

/-- An event, and what follows it.  Values that are compared are told apart. -/
theorem note_bind {event : Event} {mere : event.Mere} {next : Unit → Recorded ε α}
    {action : ExceptT ε (StateM RenderState) β} (known : K.Known world event.blocks)
    (found : ∀ index, event = .missed index → K.lacking)
    (rest : (∀ value other, event = .compared value other →
      Value.KeptApart (K.blocks world) value other) → K.Alike world related (next ()) action) :
    K.Alike world related (.note event mere >>= next) action := by
  intro state state' states fair
  have apart (value other : Value) (comparing : event = .compared value other) :
      Value.KeptApart (K.blocks world) value other := by
    refine K.apart states.stock (fair ⟨event, state, []⟩ ?_ value other comparing)
    exact List.mem_append_left _ List.mem_cons_self
  obtain ⟨later, passes, states', ends⟩ := rest apart state state' states
    fun moment mem => fair moment (List.mem_append_right _ mem)
  refine ⟨later, ?_, states', ends⟩
  exact .cons (K.le_refl world) (states.sees known found) passes

/-- An event that is no comparison, and what follows it. -/
theorem note_bind_of_known {event : Event} {mere : event.Mere} {next : Unit → Recorded ε α}
    {action : ExceptT ε (StateM RenderState) β} (known : K.Known world event.blocks)
    (found : ∀ index, event = .missed index → K.lacking)
    (rest : K.Alike world related (next ()) action) :
    K.Alike world related (.note event mere >>= next) action :=
  note_bind known found fun _ => rest

/-- A comparison, and what follows it. -/
theorem compared_bind {value value' other other' : Value} {next : Unit → Recorded ε α}
    {action : ExceptT ε (StateM RenderState) β} (like : K.ValueLike world value value')
    (like' : K.ValueLike world other other')
    (rest : Value.KeptApart (K.blocks world) value other →
      K.Alike world related (next ()) action) :
    K.Alike world related (.note (.compared value other) trivial >>= next) action :=
  note_bind (known_append like.blocks_matched like'.blocks_matched) nofun
    fun apart => rest (apart value other rfl)

/-- A value that is recorded. -/
theorem valued {recorded : Recorded ε Value} {action : ExceptT ε (StateM RenderState) Value}
    (same : K.Alike world K.ValueLike recorded action) :
    K.Alike world K.ValueLike (.valued recorded) action := by
  rw [← bind_pure action]
  refine bind same fun later _ value value' like => ?_
  exact note_bind_of_known like.blocks_matched nofun (pure like)

/-! ### Brackets -/

/-- Changes before and behind an action, on both sides. -/
theorem bracket {recorded : Recorded ε α} {action : ExceptT ε (StateM RenderState) β}
    {opening : RenderState → RenderState} {closing : RenderState → RenderState → RenderState}
    {result : RenderState → α → γ} {action' : ExceptT ε (StateM RenderState) δ}
    (opening' : RenderState → RenderState) (closing' : RenderState → RenderState → RenderState)
    (result' : RenderState → β → δ) (same : K.Alike world related recorded action)
    (runs : ∀ state, action'.run.run state =
      let inside := action.run.run (opening' state)
      (inside.1.map (result' inside.2), closing' state inside.2))
    (opens : ∀ {state state'}, K.States world state state' →
      K.States world (opening state) (opening' state'))
    (closes : ∀ {later state state' after after'}, K.le world later →
      K.States world state state' → K.States later after after' →
        K.States later (closing state after) (closing' state' after'))
    (gives : ∀ {later after after' value value'}, K.States later after after' →
      related later value value' → related' later (result after value) (result' after' value')) :
    K.Alike world related' (.bracket opening closing result recorded) action' := by
  intro state state' states fair
  rw [runs]
  obtain ⟨later, passes, states', ends⟩ := same _ _ (opens states) fair
  refine ⟨later, passes, closes passes.grown states states', ?_⟩
  change Ends _ _ ((recorded.run (opening state)).result.map _) _
  generalize recorded.run (opening state) = recording at states' ends ⊢
  generalize action.run.run (opening' state') = run at states' ends ⊢
  obtain ⟨result, after, moments⟩ := recording
  obtain ⟨result', after'⟩ := run
  cases ends with
  | ok same => exact .ok (gives states' same)
  | error may => exact .error may

/-- An action in a new frame. -/
theorem inFrame {recorded : Recorded RenderError α} {action : Render β} {frame frame' : Frame}
    (frames : K.FieldsLike world frame frame') (same : K.Alike world related recorded action) :
    K.Alike world related (.inFrame frame recorded) (Render.inFrame frame' action) := by
  refine bracket (·.pushFrame frame') (fun _ after => after.popFrame) (fun _ value => value) same
    (fun state => ?_) ?_ ?_ fun _ same => same
  · rw [Render.inFrame_run]
    exact Prod.ext (congrFun Except.map_id _).symm rfl
  · exact fun states => states.pushFrame frames
  · exact fun _ _ states => states.popFrame

/-- A view that is a part of another one. -/
theorem inPart {recorded : Recorded RenderError Unit} {execute : Executor} {view : CompiledView}
    (same : K.Alike world (fun _ => Eq) recorded (execute view.serial view.program.steps)) :
    K.Alike world (fun _ => Eq) (.inPart recorded) (executePart execute view) := by
  refine bracket (fun state => { state with partialDepth := state.partialDepth + 1 })
    (fun _ after => { after with partialDepth := after.partialDepth - 1 }) (fun _ value => value)
    same (fun state => ?_) ?_ ?_ fun _ same => same
  · exact Prod.ext (congrFun Except.map_id _).symm rfl
  · rintro _ _ ⟨stock, contexts, scopes⟩
    exact ⟨stock, contexts, scopes⟩
  · rintro later state state' _ _ - - ⟨stock, contexts, scopes⟩
    exact ⟨stock, contexts, scopes⟩

/-! ### Failures -/

/-- A step. -/
theorem step {step : Step} {recorded : Recorded RenderError α} {action : Render β}
    (same : K.Alike world related recorded action) :
    K.Alike world related (.step step recorded) action := by
  intro state state' states fair
  have before := same state state' states
  unfold Recorded.step at fair ⊢
  dsimp only at fair ⊢
  generalize recorded.run state = recording at before fair ⊢
  obtain ⟨result, after, moments⟩ := recording
  cases result with
  | ok value => exact before fair
  | error error =>
    obtain ⟨later, passes, states', ends⟩ :=
      before fun moment mem => fair moment (List.mem_append_left _ mem)
    refine ⟨later, passes.append (.single (K.le_refl later) ?_), states', ends⟩
    exact states'.sees (List.forall_mem_nil _) nofun

/-- The error of a snippet is one for a missing print block only if its cause is. -/
theorem lacks_of_ofEval {position : Position} {cause : Fail}
    (lacks : (RenderError.ofEval position cause).Lacks) : cause.Lacks := by
  cases cause with
  | unboundBlock => trivial
  | failed failure => exact lacks
  | _ => exact lacks

/-- A snippet. -/
theorem snippet {position : Position} {recorded : Recorded Fail α}
    {action : Snippet.Eval RenderState RenderError β}
    (same : K.Alike world related recorded action) :
    K.Alike world related (.snippet position recorded)
      (action.adapt (RenderError.ofEval position)) := by
  intro state state' states fair
  have before := same state state' states
  rw [run_adapt]
  unfold Recorded.snippet at fair ⊢
  dsimp only at fair ⊢
  generalize recorded.run state = recording at before fair ⊢
  generalize action.run.run state' = run at before ⊢
  obtain ⟨result, after, moments⟩ := recording
  obtain ⟨result', after'⟩ := run
  cases result with
  | ok value =>
    obtain ⟨later, passes, states', ends⟩ := before fair
    cases ends with
    | ok same => exact ⟨later, passes, states', .ok same⟩
  | error cause =>
    obtain ⟨later, passes, states', ends⟩ :=
      before fun moment mem => fair moment (List.mem_append_left _ mem)
    cases ends with
    | error may =>
      refine ⟨later, passes.append (.single (K.le_refl later) ?_), states', ?_⟩
      · exact states'.sees (List.forall_mem_nil _) nofun
      · exact .error fun lacks => may (lacks_of_ofEval lacks)

/-! ### Loops -/

/-- An action for each of several things. -/
theorem forEach {recorded : α → Recorded RenderError Unit} {action : β → Render Unit}
    {things : List α} {things' : List β}
    (like : List.Forall₂ (fun thing thing' => ∀ later, K.le world later →
      K.Alike later (fun _ => Eq) (recorded thing) (action thing')) things things') :
    ∀ later, K.le world later →
      K.Alike later (fun _ => Eq) (.forEach recorded things) (Render.forEach action things') := by
  induction like with
  | nil => exact fun later _ => pure rfl
  | cons first _ ih =>
    intro later grown
    exact bind (first later grown) fun behind grown' _ _ _ => ih behind (K.le_trans grown grown')

/-- An action while a condition holds. -/
theorem repeatWhile {position : Position} {condition : Recorded RenderError Bool}
    {condition' : Render Bool} {recorded : Recorded RenderError Unit} {action : Render Unit}
    (conditions : ∀ later, K.le world later → K.Alike later (fun _ => Eq) condition condition')
    (same : ∀ later, K.le world later → K.Alike later (fun _ => Eq) recorded action)
    (turns : Nat) :
    ∀ later, K.le world later → K.Alike later (fun _ => Eq)
      (.repeatWhile position condition recorded turns)
      (Render.repeatWhile position condition' action turns) := by
  induction turns with
  | zero => exact fun later _ => fail False.elim
  | succ turns ih =>
    intro later grown
    refine bind (conditions later grown) fun first grown' holds _ equal => ?_
    subst equal
    have grown' := K.le_trans grown grown'
    cases holds with
    | false => exact pure rfl
    | true =>
      exact bind (same first grown') fun second grown'' _ _ _ =>
        ih second (K.le_trans grown' grown'')

/-! ### Print blocks -/

/-- A print block gets matching places. -/
theorem binding {origin origin' : Nat} (origins : K.origins world origin origin')
    (position : Position) (parameters : List String) (body : List Step) :
    K.Alike world K.blocks (.binding ⟨origin, position, parameters, body⟩ : Recorded ε Nat)
      (modifyGet (·.bindBlock ⟨origin', position, parameters, body⟩)) := by
  intro state state' states _
  obtain ⟨later, grown, places, stock⟩ := K.bind position parameters body states.stock origins
  rw [run_modifyGet]
  rw [Recorded.binding_run, RenderState.bindBlock_eq]
  have states' := states.restock grown stock
  refine ⟨later, .single grown (states'.sees ?_ nofun), states', .ok places⟩
  rintro index mem
  rw [List.mem_singleton.mp mem]
  exact ⟨_, places⟩

end Alike

end Correspondence

end ViewTemplate
