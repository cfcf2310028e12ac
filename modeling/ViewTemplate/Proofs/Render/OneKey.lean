import ViewTemplate.Proofs.Render.LayoutChain
import ViewTemplate.Proofs.Render.ViewHistory
import ViewTemplate.Proofs.Table
import ViewTemplate.Proofs.Views.IdleSteps

/-!
# One key for each view

Whether a view in memory can have two keys.

The steps `./` and `/` lead nowhere, so paths with one bare path stand for one view, however
their steps are mixed.  Keys are made by dropping steps, and some are left when a `./` stands
behind a slash.  Then a slash in front of a path may change its key, a key may lead to another
key than itself, and a view that was put into memory under such a path and under its bare
path has two keys, under which it is kept twice and applied twice in one render
(`memory_keys_ambiguous`).

Nothing of this happens where views are put into memory under paths with settled steps.  Then
all keys are bare paths, whatever paths are asked for.  Every turn of a use of an environment
keeps it so (`log_bare`), since what is compiled is kept under the name of a view in memory;
and the layouts that a render applies are names of views, of which none comes twice
(`renderView_applicable`).  So of the views that are kept, and of the layouts that are applied,
no two have one bare path (`memory_keys_canonical`).

## Main Definitions

* `Table.Bare` — all names of a table are bare paths
* `Shelf.Bare` — views in memory and kept views under bare paths
-/

namespace ViewTemplate

variable {environment : Environment} {views : Table String}

/-! ## Keys that paths lead to -/

section Keys

open ViewSource

variable {path other key : String}

/-- A path leads to its key if there is a view under it. -/
theorem resolve_memory_eq_ok_iff :
    (memory views).resolve path = .ok key ↔ canonicalViewPath path = key ∧ key ∈ views.names := by
  rw [resolve, ← Table.contains_iff_mem_names]
  by_cases found : views.contains (canonicalViewPath path) = true
  · rw [if_pos found]
    constructor
    · rintro ⟨⟩
      exact ⟨rfl, found⟩
    · rintro ⟨rfl, -⟩
      rfl
  · rw [if_neg found]
    constructor
    · intro resolved
      cases resolved
    · rintro ⟨rfl, known⟩
      exact absurd known found

/-- If one of two paths leads to a key, both lead to the same if they have the same key. -/
theorem resolve_eq_resolve_iff
    (found : (memory views).resolve path = .ok key ∨ (memory views).resolve other = .ok key) :
    (memory views).resolve other = (memory views).resolve path ↔
      canonicalViewPath other = canonicalViewPath path := by
  rcases found with found | found
  · obtain ⟨same, known⟩ := resolve_memory_eq_ok_iff.mp found
    rw [found, resolve_memory_eq_ok_iff, same]
    exact and_iff_left known
  · obtain ⟨same, known⟩ := resolve_memory_eq_ok_iff.mp found
    rw [found, eq_comm, resolve_memory_eq_ok_iff, same, eq_comm]
    exact and_iff_left known

/-- **A key leads to itself** exactly if the steps of its path are settled. -/
theorem resolve_key_iff (resolved : (memory views).resolve path = .ok key) :
    (memory views).resolve key = .ok key ↔ Settled (frontSteps path) := by
  obtain ⟨rfl, known⟩ := resolve_memory_eq_ok_iff.mp resolved
  rw [resolve_memory_eq_ok_iff, canonicalViewPath_canonicalViewPath_iff]
  exact and_iff_left known

end Keys

/-! ## Views under bare paths -/

/-- **All names of a table are bare paths.** -/
def Table.Bare {α : Type} (table : Table α) : Prop :=
  ∀ name ∈ table.names, barePath name = name

/-- Different names that are bare paths have different bare paths. -/
theorem nodup_map_barePath {names : List String} (bare : ∀ name ∈ names, barePath name = name)
    (distinct : names.Nodup) : (names.map barePath).Nodup := by
  rw [List.map_congr_left bare, List.map_id']
  exact distinct

/-- An entry under a bare path keeps the names bare. -/
theorem Table.Bare.set {α : Type} {table : Table α} (bare : table.Bare) {name : String}
    (plain : barePath name = name) (entry : α) : (table.set name entry).Bare := by
  intro other mem
  rw [Table.names_set] at mem
  split at mem
  · exact bare other mem
  · rcases List.mem_append.mp mem with old | new
    · exact bare other old
    · rw [List.mem_singleton.mp new]
      exact plain

/-- **A path that leads to one of them leads to its bare path.** -/
theorem Table.Bare.eq_barePath (bare : views.Bare) {path key : String}
    (resolved : (ViewSource.memory views).resolve path = .ok key) : key = barePath path := by
  obtain ⟨rfl, known⟩ := resolve_memory_eq_ok_iff.mp resolved
  have plain : barePath (canonicalViewPath path) = canonicalViewPath path := bare _ known
  rw [← plain, barePath_canonicalViewPath]

/-- **Their keys lead to themselves.** -/
theorem Table.Bare.resolve_key (bare : views.Bare) {path key : String}
    (resolved : (ViewSource.memory views).resolve path = .ok key) :
    (ViewSource.memory views).resolve key = .ok key := by
  have plain := bare.eq_barePath resolved
  obtain ⟨rfl, -⟩ := resolve_memory_eq_ok_iff.mp resolved
  rw [resolve_key_iff resolved, ← keptSteps_eq_nil_iff, ← frontSteps_canonicalViewPath, plain,
    frontSteps_barePath]

/-! ## What is kept -/

/-- **Views in memory and kept views under bare paths.** -/
structure Shelf.Bare (shelf : Shelf) : Prop where
  views : shelf.views.Bare
  kept : shelf.store.cache.Bare
  distinct : (Table.names shelf.store.cache).Nodup

/-- Compilations keep views under the names of views in memory only. -/
theorem Environment.Compiles.bare {store after : ViewStore} {events : List Compilation}
    (compiles : environment.Compiles views store events after)
    (bare : Shelf.Bare ⟨views, store⟩) : Shelf.Bare ⟨views, after⟩ := by
  induction compiles with
  | nil => exact bare
  | source compiled _ ih =>
    refine ih ⟨bare.views, ?_, ?_⟩
    · rw [(compileAnew_ok compiled).1]
      exact bare.kept
    · rw [(compileAnew_ok compiled).1]
      exact bare.distinct
  | @view store middle _ path view _ compiled _ ih =>
    refine ih ?_
    obtain ⟨-, rfl⟩ | ⟨-, ⟨source, found, -⟩, -, rfl⟩ := compileView_over_ok compiled
    · exact bare
    · have known : canonicalViewPath path ∈ views.names :=
        Table.contains_iff_mem_names.mp (Option.isSome_of_mem found)
      unfold Environment.storeWith
      split
      · exact ⟨bare.views, bare.kept.set (bare.views _ known) _,
          Table.nodup_names_set bare.distinct _ _⟩
      · exact ⟨bare.views, bare.kept, bare.distinct⟩

/-- **One turn**: what it keeps is kept under bare paths, and so is the view that it puts into
memory, if the steps of the path are settled. -/
theorem Operation.turn_bare {shelf : Shelf} (bare : shelf.Bare) {operation : Operation}
    (puts : ∀ path source, operation = .replace path source → Settled (frontSteps path)) :
    (operation.turn environment shelf).after.Bare := by
  obtain ⟨events, performs⟩ := operation.turn_performs environment shelf
  have kept : Shelf.Bare ⟨shelf.views, (operation.turn environment shelf).after.store⟩ :=
    performs.compiles.bare bare
  cases operation with
  | replace path source =>
    have plain : barePath (canonicalViewPath path) = canonicalViewPath path := by
      rw [barePath_canonicalViewPath, canonicalViewPath_of_settled (puts path source rfl)]
    exact ⟨bare.views.set plain source, kept.kept, kept.distinct⟩
  | _ => exact kept

/-- **All turns**, by induction on the operations. -/
theorem log_bare {shelf : Shelf} (bare : shelf.Bare) {operations : List Operation}
    (puts : ∀ path source, .replace path source ∈ operations → Settled (frontSteps path)) :
    ∀ turn ∈ environment.log shelf operations, turn.after.Bare := by
  induction operations generalizing shelf with
  | nil => exact List.forall_mem_nil _
  | cons operation rest ih =>
    have first : (operation.turn environment shelf).after.Bare := by
      refine Operation.turn_bare bare fun path source asked => puts path source ?_
      rw [asked]
      exact List.mem_cons_self
    refine List.forall_mem_cons.mpr ⟨first, ih first fun path source later => ?_⟩
    exact puts path source (List.mem_cons_of_mem _ later)

/-! ## Keys and views -/

/-- **When the keys of views in memory are canonical.**  If a path leads to a key, with steps
that lead nowhere in front of it or without them, then it leads to the same with and without
them exactly if no `./` stands behind a slash of theirs, be it another of them or the first
step of the path.  And a key leads to itself exactly if no `./` stands behind a slash among
the steps of its path.

If that is so for the paths under which views are put into memory, then no view has two
keys, however an environment over them is used and whatever paths it is asked for.  A path
that leads to a key leads to its bare path, the key leads to itself, and with any steps in
front of it the path leads to no other; and neither among the views that are kept nor among
the layouts that a render applies are two with one bare path. -/
theorem memory_keys_canonical (environment : Environment) :
    (∀ (views : Table String) (steps : List IdleStep) (path key : String),
      let resolve := (ViewSource.memory views).resolve
      resolve path = .ok key ∨ resolve (withSteps steps path) = .ok key →
        (resolve (withSteps steps path) = resolve path ↔
          Settled (steps ++ (frontSteps path).take 1))) ∧
    (∀ (views : Table String) (path key : String),
      let resolve := (ViewSource.memory views).resolve
      resolve path = .ok key → (resolve key = .ok key ↔ Settled (frontSteps path))) ∧
    ∀ operations : List Operation,
      (∀ path source, .replace path source ∈ operations → Settled (frontSteps path)) →
      ∀ turn ∈ environment.log ⟨[], {}⟩ operations,
        let resolve := (ViewSource.memory turn.after.views).resolve
        let render (view : CompiledView) (context : Value) (store : ViewStore) :=
          ((environment.over turn.after.views).renderView view).run.run (.start context store)
        (∀ path key, resolve path = .ok key → key = barePath path ∧ resolve key = .ok key ∧
          ∀ steps other, resolve (withSteps steps path) = .ok other → other = key) ∧
        ((Table.names turn.after.store.cache).map barePath).Nodup ∧
        ∀ view context store, ((render view context store).2.layouts.map barePath).Nodup := by
  refine ⟨?_, ?_, ?_⟩
  · intro views steps path key resolve found
    rw [resolve_eq_resolve_iff found, canonicalViewPath_withSteps_iff]
  · intro views path key resolve resolved
    exact resolve_key_iff resolved
  · intro operations puts turn mem resolve render
    have nothing : Shelf.Bare ⟨[], {}⟩ :=
      ⟨List.forall_mem_nil _, List.forall_mem_nil _, List.nodup_nil⟩
    have bare := log_bare nothing puts turn mem
    refine ⟨?_, nodup_map_barePath bare.kept bare.distinct, ?_⟩
    · intro path key resolved
      have plain := bare.views.eq_barePath resolved
      refine ⟨plain, bare.views.resolve_key resolved, ?_⟩
      intro steps other resolved'
      rw [plain, bare.views.eq_barePath resolved', barePath_withSteps]
    · intro view context store
      have applied := renderView_applicable (environment.over turn.after.views) view context store
      exact nodup_map_barePath (fun key mem => bare.views key (applied.known key mem))
        applied.distinct

/-- Two views that are put into memory under paths with steps in front of them and asked for
under others are kept once each, and a layout that registers itself by another path is not
applied again. -/
theorem memory_keys_canonical_otherPaths :
    let environment : Environment :=
      { options := {}, source := .memory [], functions := fun _ _ => .ok .null }
    let operations : List Operation :=
      [.replace ".//a" "<js @layout=\"./a\" />A", .replace "././b" "B", .compileView "/a",
        .compileView "././a", .compileView "b"]
    (∀ path source, .replace path source ∈ operations → Settled (frontSteps path)) ∧
    ∃ turn ∈ environment.log ⟨[], {}⟩ operations,
      let resolve := (ViewSource.memory turn.after.views).resolve
      let page : CompiledView := ⟨0, ⟨[.setLayout "/a"]⟩⟩
      let rendered := ((environment.over turn.after.views).renderView page).run.run
        (.start .null {})
      resolve "./a" = .ok "a" ∧ resolve (withSteps [.here, .here] "./a") = resolve "./a" ∧
        resolve "a" = .ok "a" ∧
        Table.names turn.after.store.cache = ["a", "b"] ∧
        ((Table.names turn.after.store.cache).map barePath).Nodup ∧
        rendered.2.layouts = ["a"] ∧ (rendered.2.layouts.map barePath).Nodup := by
  intro environment operations
  have puts : ∀ path source, .replace path source ∈ operations → Settled (frontSteps path) := by
    intro path source mem
    have known : path = ".//a" ∨ path = "././b" := by
      simp only [operations, List.mem_cons, Operation.replace.injEq, reduceCtorEq,
        List.not_mem_nil, or_false] at mem
      exact mem.imp And.left And.left
    rcases known with rfl | rfl
    · decide +kernel
    · decide +kernel
  let log := environment.log ⟨[], {}⟩ operations
  let turn := log.getLast (List.cons_ne_nil _ _)
  have mem : turn ∈ log := List.getLast_mem _
  have resolved : (ViewSource.memory turn.after.views).resolve "./a" = .ok "a" := by
    rw [resolve_memory_eq_ok_iff]
    decide +kernel
  have kept : Table.names turn.after.store.cache = ["a", "b"] := by
    decide +kernel
  let page : CompiledView := ⟨0, ⟨[.setLayout "/a"]⟩⟩
  have applied : (((environment.over turn.after.views).renderView page).run.run
      (.start .null {})).2.layouts = ["a"] := by
    decide +kernel
  obtain ⟨before, itself, always⟩ := memory_keys_canonical environment
  obtain ⟨-, distinct, apart⟩ := always operations puts turn mem
  refine ⟨puts, turn, mem, resolved, ?_, ?_, kept, distinct, applied, apart _ _ _⟩
  · exact (before _ [.here, .here] "./a" "a" (.inl resolved)).mpr (by decide +kernel)
  · exact (itself _ "./a" "a" resolved).mpr (by decide +kernel)

/-- **One view under two keys.**  One text is put into memory under a bare path, and one under
the same path behind steps of which a `./` stands behind a slash.  With a slash in front of it
`./a` leads to another key than without, that key does not lead to itself, and both keys are
kept and applied as layouts beside each other. -/
theorem memory_keys_ambiguous :
    let environment : Environment :=
      { options := {}, source := .memory [], functions := fun _ _ => .ok .null }
    let operations : List Operation :=
      [.replace "a" "<js @layout=\"/./a\" />A", .replace "/./a" "B", .compileView "./a",
        .compileView "/./a"]
    let shelf := environment.shelfAfter ⟨[], {}⟩ operations
    let resolve := (ViewSource.memory shelf.views).resolve
    let page : CompiledView := ⟨0, ⟨[.setLayout "a"]⟩⟩
    let rendered := ((environment.over shelf.views).renderView page).run.run (.start .null {})
    resolve "./a" = .ok "a" ∧ resolve (withSteps [.slash] "./a") = .ok "./a" ∧
      resolve "./a" ≠ .ok "./a" ∧
      Table.names shelf.store.cache = ["a", "./a"] ∧ rendered.2.layouts = ["a", "./a"] ∧
      barePath "./a" = barePath "a" := by
  intro environment operations shelf resolve page rendered
  have first : resolve "./a" = .ok "a" := by
    rw [resolve_memory_eq_ok_iff]
    decide +kernel
  have second : resolve (withSteps [.slash] "./a") = .ok "./a" := by
    rw [resolve_memory_eq_ok_iff]
    decide +kernel
  have other : resolve "./a" ≠ .ok "./a" := by
    rw [first]
    decide +kernel
  refine ⟨first, second, other, ?_, ?_, ?_⟩
  · decide +kernel
  · decide +kernel
  · decide +kernel

end ViewTemplate
