import Mathlib.Data.List.Basic
import ViewTemplate.Proofs.Render.CallLikeness
import ViewTemplate.Proofs.Views.Compilation

/-!
# Copies of views

The same template, rendered where compiled views are kept and where they are not.

Where they are kept, a view that is used again is the same program again.  Where they are
not, it is a copy: an equal program, but one of another compilation, and its print blocks are
other print blocks.  So there are more compilations and more print blocks in the one render
than in the other one, and each has an original there.  Which one is its original is a
function of the copy, and that is all there is to know about two renders that go side by side
(`Copies`): they correspond to each other with these functions as worlds
(`Correspondence.ofCopies`).

What could tell them apart is a comparison of two copies of one print block, and a helper that
does something else for other blocks.

## Main Definitions

* `Environment.keeping` — an environment with compiled views kept, or not
* `Environment.BlindToBlocks` — helpers that do the same whatever the print blocks
* `TellsApart` — values in which no two print blocks are copies of each other
* `Copies`, `Copies.Stocks` — the originals of compilations and of print blocks
-/

namespace ViewTemplate

/-- An environment with compiled views kept, or not. -/
def Environment.keeping (environment : Environment) (cacheViews : Bool) : Environment :=
  { environment with options := { environment.options with cacheViews } }

/-- **Helpers do the same whatever the print blocks in their arguments**: with others in their
places, they return the same with those others in it. -/
def Environment.BlindToBlocks (environment : Environment) : Prop :=
  ∀ name arguments place,
    environment.functions name (arguments.map (Value.relabel place)) =
      (environment.functions name arguments).map (Value.relabel place)

/-- Two print blocks that read alike: they stand at the same place, with the same parameters
and the same steps. -/
def BoundBlock.ReadsAs (block other : BoundBlock) : Prop :=
  { block with origin := other.origin } = other

/-- **Values whose print blocks can be told apart in any case**: no block of the one reads like
another block of the other one. -/
def TellsApart (table : List BoundBlock) (value other : Value) : Prop :=
  ∀ index ∈ value.blocks, ∀ index' ∈ other.blocks, ∀ block block',
    table[index]? = some block → table[index']? = some block' → block.ReadsAs block' →
      index = index'

/-! ## Compiling with and without keeping -/

section

variable (environment : Environment)

theorem compileAnew_keeping (cacheViews : Bool) (name source : String) (store : ViewStore) :
    ((environment.keeping cacheViews).compileAnew name source).run.run store =
      match environment.compileSource name source with
      | .error error => (.error error, store)
      | .ok program => (.ok ⟨store.next, program⟩, { store with next := store.next + 1 }) :=
  compileAnew_run (environment.keeping cacheViews) name source store

/-- Where views are not kept, every use is a compilation. -/
theorem compileView_keeping_false (path : String) (store : ViewStore) :
    ((environment.keeping false).compileView path).run.run store =
      match environment.source.resolve path with
      | .error error => (.error error, store)
      | .ok key => match environment.source.load key with
        | .error error => (.error error, store)
        | .ok source => match environment.compileSource key source with
          | .error error => (.error error, store)
          | .ok program => (.ok ⟨store.next, program⟩, { store with next := store.next + 1 }) :=
  compileView_run (environment.keeping false) path store

/-- Where views are kept, the first use is a compilation. -/
theorem compileView_keeping_true (path : String) (store : ViewStore) :
    ((environment.keeping true).compileView path).run.run store =
      match environment.source.resolve path with
      | .error error => (.error error, store)
      | .ok key => match store.cache.get? key with
        | some view => (.ok view, store)
        | none => match environment.source.load key with
          | .error error => (.error error, store)
          | .ok source => match environment.compileSource key source with
            | .error error => (.error error, store)
            | .ok program => (.ok ⟨store.next, program⟩,
                { cache := store.cache.set key ⟨store.next, program⟩, next := store.next + 1 }) :=
  compileView_run (environment.keeping true) path store

end

/-! ## Helpers -/

/-- Helpers that do the same whatever the print blocks return none but those in their
arguments: any other one would not change with the arguments. -/
theorem Environment.BlindToBlocks.blocks_subset {environment : Environment}
    (blind : environment.BlindToBlocks) {name : String} {arguments : List Value} {value : Value}
    (returned : environment.functions name arguments = .ok value) :
    value.blocks ⊆ arguments.flatMap Value.blocks := by
  intro index mem
  by_contra foreign
  -- A place beyond all those of the value, in which the foreign block is put.
  let beyond := value.blocks.max?.getD 0 + 1
  let place (other : Nat) := if other = index then beyond else other
  have kept : arguments.map (Value.relabel place) = arguments := by
    refine (List.map_congr_left fun argument given => ?_).trans (List.map_id arguments)
    refine Value.relabel_eq_self fun other inside => if_neg ?_
    rintro rfl
    exact foreign (List.mem_flatMap.mpr ⟨argument, given, inside⟩)
  have same : value = value.relabel place := by
    have moved := blind name arguments place
    rw [kept, returned] at moved
    exact Except.ok.inj moved
  have moved : beyond ∈ value.blocks := by
    rw [same, Value.blocks_relabel]
    exact List.mem_map.mpr ⟨index, mem, if_pos rfl⟩
  exact absurd (List.le_max?_getD_of_mem (k := 0) moved) (Nat.not_succ_le_self _)

/-! ## Originals -/

/-- **The originals of the compilations so far, and of the print blocks**, each by the number
of the copy. -/
structure Copies where
  origins : List Nat
  places : List Nat

namespace Copies

variable {environment : Environment} {copies later : Copies} {stock stock' : Stock}

/-- More copies, of which the earlier ones have the same originals. -/
def le (copies later : Copies) : Prop :=
  copies.origins <+: later.origins ∧ copies.places <+: later.places

theorem le_refl (copies : Copies) : copies.le copies :=
  ⟨List.prefix_rfl, List.prefix_rfl⟩

theorem le_trans {first second third : Copies} (before : first.le second)
    (behind : second.le third) : first.le third :=
  ⟨before.1.trans behind.1, before.2.trans behind.2⟩

/-- The original of the compilation with some number. -/
def Origin (copies : Copies) (origin origin' : Nat) : Prop :=
  copies.origins[origin]? = some origin'

/-- The original of the print block at some place. -/
def Place (copies : Copies) (index index' : Nat) : Prop :=
  copies.places[index]? = some index'

theorem Origin.mono {origin origin' : Nat} (grown : copies.le later)
    (same : copies.Origin origin origin') : later.Origin origin origin' :=
  getElem?_of_prefix grown.1 same

theorem Place.mono {index index' : Nat} (grown : copies.le later)
    (same : copies.Place index index') : later.Place index index' :=
  getElem?_of_prefix grown.2 same

/-- **Stocks of copies and of originals.**  What is kept was made from the source that its key
has; every compilation and every print block of the one render has its original, and no
print block is twice among the originals. -/
structure Stocks (environment : Environment) (copies : Copies) (stock stock' : Stock) : Prop where
  next : stock.store.next = copies.origins.length
  kept : ∀ key view, stock'.store.cache.get? key = some view →
    ∃ source, environment.source.load key = .ok source ∧
      environment.compileSource key source = .ok view.program
  count : stock.blocks.length = copies.places.length
  copied : ∀ index block, stock.blocks[index]? = some block →
    ∃ origin place, copies.Origin block.origin origin ∧ copies.Place index place ∧
      stock'.blocks[place]? = some { block with origin }
  nodup : stock'.blocks.Nodup

/-- **What comes of compiling where views are not kept, and where they are**: the same program,
of compilations of which the one is the original of the other one, or the same error. -/
def CompilesAlike (environment : Environment) (copies : Copies) (stock stock' : Stock)
    (run run' : Except ViewError CompiledView × ViewStore) : Prop :=
  ∃ later, copies.le later ∧
    Ends (fun view view' => later.Origin view.serial view'.serial ∧ view.program = view'.program)
      (fun _ => True) run.1 run'.1 ∧
    later.Stocks environment ⟨run.2, stock.blocks⟩ ⟨run'.2, stock'.blocks⟩

namespace Stocks

/-- A copied print block and its original. -/
theorem find (stocks : copies.Stocks environment stock stock') {index place : Nat}
    (same : copies.Place index place) :
    ∃ block origin, stock.blocks[index]? = some block ∧ copies.Origin block.origin origin ∧
      stock'.blocks[place]? = some { block with origin } := by
  have bound : index < stock.blocks.length := by
    rw [stocks.count]
    exact (List.getElem?_eq_some_iff.mp same).1
  have found := List.getElem?_eq_getElem bound
  obtain ⟨origin, place', origins, places, found'⟩ := stocks.copied index _ found
  obtain rfl : place = place' := Option.some.inj (same.symm.trans places)
  exact ⟨_, origin, found, origins, found'⟩

/-- **Values can be compared if their blocks can be told apart**: copies of the same block read
alike. -/
theorem keptApart (stocks : copies.Stocks environment stock stock') {value other : Value}
    (apart : TellsApart stock.blocks value other) :
    Value.KeptApart copies.Place value other := by
  intro index mem index' mem' place place' same same'
  constructor
  · rintro rfl
    exact Option.some.inj (same.symm.trans same')
  · rintro rfl
    obtain ⟨block, origin, found, -, original⟩ := stocks.find same
    obtain ⟨block', origin', found', -, original'⟩ := stocks.find same'
    refine apart index mem index' mem' block block' found found' ?_
    have equal := Option.some.inj (original.symm.trans original')
    exact congrArg (fun original : BoundBlock => { original with origin := block'.origin }) equal

/-- Helpers that do the same whatever the print blocks do the same with copies. -/
theorem functions (blind : environment.BlindToBlocks) {arguments arguments' : List Value}
    (name : String) (like : Value.ListLike copies.Place arguments arguments') :
    Ends (Value.Like copies.Place) (fun _ => True) (environment.functions name arguments)
      (environment.functions name arguments') := by
  let place (index : Nat) := copies.places[index]?.getD 0
  have places : ∀ {index index'}, copies.Place index index' → index' = place index := by
    intro index index' same
    exact (congrArg (·.getD 0) same).symm
  have moved : arguments' = arguments.map (Value.relabel place) := by
    induction like with
    | nil => rfl
    | @cons argument argument' _ _ first _ ih =>
      have moved : argument' = argument.relabel place := first.eq_relabel fun same => places same
      rw [List.map_cons, moved, ih]
  rw [moved, blind]
  cases returned : environment.functions name arguments with
  | error fault => exact .error trivial
  | ok value =>
    refine .ok (Value.like_relabel fun index mem => ?_)
    obtain ⟨argument, given, inside⟩ := List.mem_flatMap.mp (blind.blocks_subset returned mem)
    obtain ⟨argument', like⟩ := exists_mem_of_forall₂ like argument given
    obtain ⟨index', same⟩ := like.blocks_matched index inside
    exact places same ▸ same

/-! ### Compilations -/

/-- One more compilation, with its original. -/
theorem compiled (stocks : copies.Stocks environment stock stock') (serial : Nat)
    {program : Program} {store' : ViewStore}
    (kept : ∀ key view, store'.cache.get? key = some view →
      ∃ source, environment.source.load key = .ok source ∧
        environment.compileSource key source = .ok view.program) :
    copies.CompilesAlike environment stock stock'
      (.ok ⟨stock.store.next, program⟩, { stock.store with next := stock.store.next + 1 })
      (.ok ⟨serial, program⟩, store') := by
  let later : Copies := { copies with origins := copies.origins ++ [serial] }
  have grown : copies.le later := ⟨List.prefix_append _ _, List.prefix_rfl⟩
  have same : later.Origin stock.store.next serial := by
    rw [stocks.next]
    exact List.getElem?_concat_length
  refine ⟨later, grown, .ok ⟨same, rfl⟩, ?_, kept, stocks.count, ?_, stocks.nodup⟩
  · show stock.store.next + 1 = (copies.origins ++ [serial]).length
    rw [stocks.next, List.length_append, List.length_singleton]
  · intro index block found
    obtain ⟨origin, place, origins, places, found'⟩ := stocks.copied index block found
    exact ⟨origin, place, origins.mono grown, places.mono grown, found'⟩

/-- A failure leaves everything as it was. -/
theorem failed (stocks : copies.Stocks environment stock stock') (error : ViewError) :
    copies.CompilesAlike environment stock stock' (.error error, stock.store)
      (.error error, stock'.store) :=
  ⟨copies, copies.le_refl, .error trivial, stocks⟩

/-- A source leads to the same program, of a compilation of its own. -/
theorem compileAnew (stocks : copies.Stocks environment stock stock') (name source : String) :
    copies.CompilesAlike environment stock stock'
      (((environment.keeping false).compileAnew name source).run.run stock.store)
      (((environment.keeping true).compileAnew name source).run.run stock'.store) := by
  rw [compileAnew_keeping, compileAnew_keeping]
  cases environment.compileSource name source with
  | error error => exact stocks.failed error
  | ok program => exact stocks.compiled stock'.store.next stocks.kept

/-- **A path leads to the same program**, kept or not: whatever is kept was made from the same
source. -/
theorem compileView (stocks : copies.Stocks environment stock stock') (path : String) :
    copies.CompilesAlike environment stock stock'
      (((environment.keeping false).compileView path).run.run stock.store)
      (((environment.keeping true).compileView path).run.run stock'.store) := by
  rw [compileView_keeping_false, compileView_keeping_true]
  cases environment.source.resolve path with
  | error error => exact stocks.failed error
  | ok key =>
    dsimp only
    cases found : stock'.store.cache.get? key with
    | some view =>
      obtain ⟨source, loaded, made⟩ := stocks.kept key view found
      rw [loaded]
      dsimp only
      rw [made]
      -- The copy is compiled again, and its original is the compilation that was kept.
      exact stocks.compiled view.serial stocks.kept
    | none =>
      dsimp only
      cases loaded : environment.source.load key with
      | error error => exact stocks.failed error
      | ok source =>
        dsimp only
        cases made : environment.compileSource key source with
        | error error => exact stocks.failed error
        | ok program =>
          refine stocks.compiled stock'.store.next fun other view found => ?_
          rw [Table.get?_set] at found
          split at found
          · rename_i same
            cases found
            exact ⟨source, same ▸ loaded, same ▸ made⟩
          · exact stocks.kept other view found

/-! ### Print blocks -/

/-- A table without print blocks, as a render has it at its start. -/
theorem anew (stocks : copies.Stocks environment stock stock') :
    Copies.Stocks environment ⟨copies.origins, []⟩ ⟨stock.store, []⟩ ⟨stock'.store, []⟩ where
  next := stocks.next
  kept := stocks.kept
  count := rfl
  copied _ _ found := by cases found
  nodup := List.nodup_nil

/-- **A print block gets the place of its original**: where it has a place, so has the
original. -/
theorem bind (stocks : copies.Stocks environment stock stock') {origin origin' : Nat}
    (same : copies.Origin origin origin') (position : Position) (parameters : List String)
    (body : List Step) :
    let block : BoundBlock := ⟨origin, position, parameters, body⟩
    let block' : BoundBlock := ⟨origin', position, parameters, body⟩
    ∃ later, copies.le later ∧
      later.Place (block.bindIn stock.blocks).1 (block'.bindIn stock'.blocks).1 ∧
      later.Stocks environment ⟨stock.store, (block.bindIn stock.blocks).2⟩
        ⟨stock'.store, (block'.bindIn stock'.blocks).2⟩ := by
  intro block block'
  cases found : stock.blocks.findIdx? (· == block) with
  | some index =>
    -- The copy has a place already, and then its original is in the other table.
    obtain ⟨bound, equal, -⟩ := List.findIdx?_eq_some_iff_getElem.mp found
    have here : stock.blocks[index]? = some block := by
      rw [List.getElem?_eq_getElem bound, eq_of_beq equal]
    obtain ⟨origin'', place, origins, places, original⟩ := stocks.copied index block here
    obtain rfl : origin' = origin'' := Option.some.inj (same.symm.trans origins)
    have copy : block.bindIn stock.blocks = (index, stock.blocks) := by
      unfold BoundBlock.bindIn
      rw [found]
    have original : block'.bindIn stock'.blocks = (place, stock'.blocks) :=
      BoundBlock.bindIn_of_getElem? stocks.nodup original
    rw [copy, original]
    exact ⟨copies, copies.le_refl, places, stocks⟩
  | none =>
    have copy : block.bindIn stock.blocks = (stock.blocks.length, stock.blocks ++ [block]) := by
      unfold BoundBlock.bindIn
      rw [found]
    rw [copy]
    -- A new copy.  Its original is new as well, or stands where another copy has found it.
    let later : Copies := { copies with places := copies.places ++ [(block'.bindIn stock'.blocks).1] }
    have grown : copies.le later := ⟨List.prefix_rfl, List.prefix_append _ _⟩
    have placed : later.Place stock.blocks.length (block'.bindIn stock'.blocks).1 := by
      rw [stocks.count]
      exact List.getElem?_concat_length
    refine ⟨later, grown, placed, stocks.next, stocks.kept, ?_, ?_,
      BoundBlock.nodup_bindIn stocks.nodup⟩
    · change (stock.blocks ++ [block]).length = (copies.places ++ [_]).length
      rw [List.length_append, List.length_append, stocks.count]
      rfl
    · intro index other found
      rcases Nat.lt_or_ge index stock.blocks.length with earlier | behind
      · rw [List.getElem?_append_left earlier] at found
        obtain ⟨origin, place, origins, places, original⟩ := stocks.copied index other found
        exact ⟨origin, place, origins, places.mono grown,
          getElem?_of_prefix (block'.prefix_bindIn stock'.blocks) original⟩
      · have last : index = stock.blocks.length := by
          have bound := (List.getElem?_eq_some_iff.mp found).1
          rw [List.length_append, List.length_singleton] at bound
          omega
        rw [last, List.getElem?_concat_length] at found
        cases found
        exact ⟨origin', _, same, last ▸ placed, block'.getElem?_bindIn stock'.blocks⟩

end Stocks

end Copies

/-! ## The correspondence -/

/-- **The correspondence of copies and originals.** -/
def Correspondence.ofCopies {environment : Environment} (blind : environment.BlindToBlocks) :
    Correspondence (environment.keeping false) (environment.keeping true) where
  World := Copies
  le := Copies.le
  le_refl := Copies.le_refl
  le_trans := Copies.le_trans
  blocks := Copies.Place
  blocks_mono := Copies.Place.mono
  origins := Copies.Origin
  origins_mono := Copies.Origin.mono
  stocks := Copies.Stocks environment
  fair := TellsApart
  lacking := False
  helpers := rfl
  turns := rfl
  source := rfl
  defaultLayout := rfl
  functions name like := Copies.Stocks.functions blind name like
  compile path stocks := stocks.compileView path
  bind position parameters body stocks same := stocks.bind same position parameters body
  find stocks same :=
    have ⟨block, origin, found, origins, original⟩ := stocks.find same
    .inl ⟨block, origin, found, origins, original⟩
  apart stocks apart := stocks.keptApart apart

end ViewTemplate
