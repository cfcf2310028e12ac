import ViewTemplate.Proofs.Views.Programs

/-!
# Compilations over time

Which program a view has while the source it was made from is replaced.

Views are compiled by requests for them and in the middle of renders, and each time one is
compiled the texts may have changed.  A `Compilation` says what the texts were, which key was
asked for, and which program came out; and `Environment.Compiles` tells the compilations that
lead from one store of kept views to another.

Where nothing is kept, all of them are made of the source that the key has at the time
(`Environment.Compiles.current`).  Where views are kept, the first compilation of a key is, and
all others have the very program that the first one made.  The invariant behind this is that
the store is no more and no less than a record of first compilations
(`Environment.Remembers`).

## Main Definitions

* `Environment.over` — an environment over views in memory
* `Compilation` — a view that was compiled
* `Compilation.Current` — its program is that of the source which its key had
* `Environment.Compiles` — compilations one after the other
* `firstCompilation?` — the first compilation of a key
* `Environment.Remembers` — the kept views are those of first compilations, and all others are
  the same
-/

namespace ViewTemplate

variable {environment : Environment} {views : Table String}

/-- The environment over views in memory. -/
def Environment.over (environment : Environment) (views : Table String) : Environment :=
  { environment with source := .memory views }

/-- **A view that was compiled.** -/
structure Compilation where
  /-- The views by key, as they were at the time. -/
  views : Table String
  /-- The key to which the path led. -/
  key : String
  /-- What came out. -/
  view : CompiledView

/-- **The program is that of the source which the key had** when it was compiled. -/
def Compilation.Current (environment : Environment) (event : Compilation) : Prop :=
  ∃ source, event.views.get? event.key = some source ∧
    environment.compileSource event.key source = .ok event.view.program

/-- **Compilations one after the other**, of views and of sources that belong to none, while the
views are the same.  Only those of views are listed. -/
inductive Environment.Compiles (environment : Environment) (views : Table String) :
    ViewStore → List Compilation → ViewStore → Prop where
  | nil {store : ViewStore} : Compiles environment views store [] store
  | view {store middle after : ViewStore} {path : String} {view : CompiledView}
      {events : List Compilation}
      (compiled : ((environment.over views).compileView path).run.run store = (.ok view, middle))
      (rest : Compiles environment views middle events after) :
      Compiles environment views store (⟨views, canonicalViewPath path, view⟩ :: events) after
  | source {store middle after : ViewStore} {name text : String} {view : CompiledView}
      {events : List Compilation}
      (compiled : (environment.compileAnew name text).run.run store = (.ok view, middle))
      (rest : Compiles environment views middle events after) :
      Compiles environment views store events after

theorem Environment.Compiles.trans {first second third : ViewStore}
    {events events' : List Compilation} (h : environment.Compiles views first events second)
    (h' : environment.Compiles views second events' third) :
    environment.Compiles views first (events ++ events') third := by
  induction h with
  | nil => exact h'
  | view compiled _ ih => exact .view compiled (ih h')
  | source compiled _ ih => exact .source compiled (ih h')

/-! ## One compilation -/

/-- A compiled source leaves the kept views alone and counts. -/
theorem compileAnew_ok {name text : String} {view : CompiledView} {store after : ViewStore}
    (compiled : (environment.compileAnew name text).run.run store = (.ok view, after)) :
    after.cache = store.cache ∧ after.next = store.next + 1 := by
  rw [compileAnew_run] at compiled
  cases made : environment.compileSource name text with
  | error error =>
    rw [made] at compiled
    cases compiled
  | ok program =>
    rw [made] at compiled
    cases compiled
    exact ⟨rfl, rfl⟩

/-- **Compiling one of the views in memory, in closed form.** -/
theorem compileView_over_run (environment : Environment) (views : Table String) (path : String)
    (store : ViewStore) :
    ((environment.over views).compileView path).run.run store =
      match views.get? (canonicalViewPath path) with
      | none => (.error (.notFound path), store)
      | some source =>
        match environment.keptView? store (canonicalViewPath path) with
        | some view => (.ok view, store)
        | none =>
          match environment.compileSource (canonicalViewPath path) source with
          | .error error => (.error error, store)
          | .ok program =>
            (.ok ⟨store.next, program⟩,
              environment.storeWith store (canonicalViewPath path) program) := by
  rw [compileView_run]
  cases found : views.get? (canonicalViewPath path) with
  | none =>
    have unknown : views.contains (canonicalViewPath path) = false := by
      rw [Table.contains, found, Option.isSome_none]
    have resolved : (environment.over views).source.resolve path = .error (.notFound path) :=
      if_neg (Bool.eq_false_iff.mp unknown)
    rw [resolved]
  | some source =>
    have known : views.contains (canonicalViewPath path) = true := by
      rw [Table.contains, found, Option.isSome_some]
    have resolved : (environment.over views).source.resolve path =
        .ok (canonicalViewPath path) :=
      if_pos known
    have loaded : (environment.over views).source.load (canonicalViewPath path) = .ok source := by
      rw [Environment.over, ViewSource.load, found]
    rw [resolved]
    dsimp only
    rw [loaded]
    rfl

/-- **A compiled view was found or made.**  One that was made has the next number and the
program of the source that its key has. -/
theorem compileView_over_ok {path : String} {view : CompiledView} {store after : ViewStore}
    (compiled : ((environment.over views).compileView path).run.run store = (.ok view, after)) :
    let event : Compilation := ⟨views, canonicalViewPath path, view⟩
    (environment.keptView? store event.key = some view ∧ after = store) ∨
      environment.keptView? store event.key = none ∧ event.Current environment ∧
        view.serial = store.next ∧
        after = environment.storeWith store event.key view.program := by
  intro event
  rw [compileView_over_run] at compiled
  cases found : views.get? event.key with
  | none =>
    rw [found] at compiled
    cases compiled
  | some source =>
    rw [found] at compiled
    dsimp only at compiled
    cases kept : environment.keptView? store event.key with
    | some old =>
      rw [kept] at compiled
      cases compiled
      exact .inl ⟨rfl, rfl⟩
    | none =>
      rw [kept] at compiled
      dsimp only at compiled
      cases made : environment.compileSource event.key source with
      | error error =>
        rw [made] at compiled
        cases compiled
      | ok program =>
        rw [made] at compiled
        cases compiled
        exact .inr ⟨rfl, ⟨source, found, made⟩, rfl, rfl⟩

/-- What cannot be compiled leaves the store alone. -/
theorem compileView_over_error {path : String} {error : ViewError} {store after : ViewStore}
    (failed : ((environment.over views).compileView path).run.run store = (.error error, after)) :
    after = store := by
  rw [compileView_over_run] at failed
  cases found : views.get? (canonicalViewPath path) with
  | none =>
    rw [found] at failed
    cases failed
    rfl
  | some source =>
    rw [found] at failed
    dsimp only at failed
    cases kept : environment.keptView? store (canonicalViewPath path) with
    | some old =>
      rw [kept] at failed
      cases failed
    | none =>
      rw [kept] at failed
      dsimp only at failed
      cases made : environment.compileSource (canonicalViewPath path) source with
      | error error =>
        rw [made] at failed
        cases failed
        rfl
      | ok program =>
        rw [made] at failed
        cases failed

/-- What a store keeps behind the compilation of a program for a key. -/
theorem get?_storeWith (environment : Environment) (store : ViewStore) (key other : String)
    (program : Program) :
    (environment.storeWith store key program).cache.get? other =
      if environment.options.cacheViews = true ∧ key = other then some ⟨store.next, program⟩
      else store.cache.get? other := by
  unfold Environment.storeWith
  cases environment.options.cacheViews with
  | false => simp
  | true =>
    simp only [if_true, true_and]
    exact Table.get?_set store.cache key other ⟨store.next, program⟩

theorem storeWith_next (environment : Environment) (store : ViewStore) (key : String)
    (program : Program) : (environment.storeWith store key program).next = store.next + 1 := by
  unfold Environment.storeWith
  split
  · rfl
  · rfl

/-- Where views are kept, the kept view of a key is its entry. -/
theorem keptView?_of_caching (caching : environment.options.cacheViews = true)
    (store : ViewStore) (key : String) :
    environment.keptView? store key = store.cache.get? key :=
  if_pos caching

/-! ## Entries -/

namespace Environment.Compiles

variable {store after : ViewStore} {events : List Compilation}

/-- **No entry is ever altered.** -/
theorem keeps (compiles : environment.Compiles views store events after) {key : String}
    {kept : CompiledView} (entry : store.cache.get? key = some kept) :
    after.cache.get? key = some kept := by
  induction compiles with
  | nil => exact entry
  | source compiled _ ih =>
    refine ih ?_
    rw [(compileAnew_ok compiled).1]
    exact entry
  | @view store middle _ path view _ compiled _ ih =>
    refine ih ?_
    obtain ⟨-, rfl⟩ | ⟨fresh, -, -, rfl⟩ := compileView_over_ok compiled
    · exact entry
    · rw [get?_storeWith]
      refine (if_neg ?_).trans entry
      rintro ⟨caching, rfl⟩
      rw [keptView?_of_caching caching, entry] at fresh
      cases fresh

/-- **No entry is added for a view that cannot be compiled.** -/
theorem adds_none (compiles : environment.Compiles views store events after) {key : String}
    (fails : ∀ view, ¬(⟨views, key, view⟩ : Compilation).Current environment) :
    after.cache.get? key = store.cache.get? key := by
  induction compiles with
  | nil => rfl
  | source compiled _ ih => rw [ih, (compileAnew_ok compiled).1]
  | view compiled _ ih =>
    rw [ih]
    obtain ⟨-, rfl⟩ | ⟨-, current, -, rfl⟩ := compileView_over_ok compiled
    · rfl
    · rw [get?_storeWith]
      refine if_neg ?_
      rintro ⟨-, rfl⟩
      exact fails _ current

/-- **Where nothing is kept, every program is that of the source which the key has.** -/
theorem current (compiles : environment.Compiles views store events after)
    (forgetful : environment.options.cacheViews = false) :
    ∀ event ∈ events, event.Current environment := by
  induction compiles with
  | nil => exact nofun
  | source _ _ ih => exact ih
  | @view store _ _ path _ _ compiled _ ih =>
    refine List.forall_mem_cons.mpr ⟨?_, ih⟩
    obtain ⟨kept, -⟩ | ⟨-, made, -⟩ := compileView_over_ok compiled
    · have nothing : environment.keptView? store (canonicalViewPath path) = none := by
        rw [keptView?, forgetful]
        rfl
      rw [nothing] at kept
      cases kept
    · exact made

end Environment.Compiles

/-! ## First compilations -/

/-- The first compilation of a key. -/
def firstCompilation? (key : String) (timeline : List Compilation) : Option Compilation :=
  timeline.find? (·.key == key)

/-- What was compiled before is still the first. -/
theorem firstCompilation?_append_of_isSome {key : String} {past : List Compilation}
    {event : Compilation} (known : (firstCompilation? event.key past).isSome) :
    firstCompilation? key (past ++ [event]) = firstCompilation? key past := by
  rw [firstCompilation?, List.find?_append]
  by_cases same : event.key = key
  · rw [← same]
    exact Option.or_of_isSome known
  · have other : [event].find? (·.key == key) = none := by simpa using same
    rw [other, Option.or_none]
    rfl

/-- What was not compiled before is the first now. -/
theorem firstCompilation?_append_of_eq_none {key : String} {past : List Compilation}
    {event : Compilation} (new : firstCompilation? event.key past = none) :
    firstCompilation? key (past ++ [event]) =
      if event.key = key then some event else firstCompilation? key past := by
  rw [firstCompilation?, List.find?_append]
  split
  · rename_i same
    rw [← same]
    change (firstCompilation? event.key past).or _ = _
    rw [new]
    simp
  · rename_i other
    have other : [event].find? (·.key == key) = none := by simpa using other
    rw [other, Option.or_none]
    rfl

/-- **The kept views are those of first compilations**, of which each was made of the source
that its key had then, and all later compilations of a key have the very program that its
first one made. -/
structure Environment.Remembers (environment : Environment) (timeline : List Compilation)
    (store : ViewStore) : Prop where
  /-- The first compilation of a key made its program of the source that the key had. -/
  made : ∀ {key : String} {first : Compilation}, firstCompilation? key timeline = some first →
    first.Current environment
  /-- Every compilation of the key has that program. -/
  again : ∀ event ∈ timeline,
    (firstCompilation? event.key timeline).map (·.view) = some event.view
  /-- It is kept, and nothing else is. -/
  kept : ∀ key, store.cache.get? key = (firstCompilation? key timeline).map (·.view)
  /-- Programs of different keys were made by different compilations, -/
  distinct : ∀ event ∈ timeline, ∀ other ∈ timeline,
    event.view.serial = other.view.serial → event.key = other.key
  /-- and the next one will be another. -/
  numbered : ∀ event ∈ timeline, event.view.serial < store.next

namespace Environment.Remembers

variable {past : List Compilation} {store middle : ViewStore}

/-- Nothing was compiled when nothing is kept. -/
theorem empty : environment.Remembers [] {} where
  made := nofun
  again := nofun
  kept _ := rfl
  distinct := nofun
  numbered := nofun

/-- Sources that belong to no view are not kept. -/
theorem source (remembers : environment.Remembers past store) {name text : String}
    {view : CompiledView}
    (compiled : (environment.compileAnew name text).run.run store = (.ok view, middle)) :
    environment.Remembers past middle where
  made := remembers.made
  again := remembers.again
  kept key := by
    rw [(compileAnew_ok compiled).1]
    exact remembers.kept key
  distinct := remembers.distinct
  numbered event mem := by
    rw [(compileAnew_ok compiled).2]
    exact Nat.lt_succ_of_lt (remembers.numbered event mem)

/-- A view that is found is the one that its key's first compilation made. -/
theorem found (remembers : environment.Remembers past store) {event : Compilation}
    (entry : store.cache.get? event.key = some event.view) :
    environment.Remembers (past ++ [event]) store := by
  rw [remembers.kept] at entry
  obtain ⟨first, earliest, same⟩ := Option.map_eq_some_iff.mp entry
  have still (key : String) : firstCompilation? key (past ++ [event]) =
      firstCompilation? key past :=
    firstCompilation?_append_of_isSome (Option.isSome_of_mem earliest)
  -- The new compilation repeats an old one, so what is said of those listed stays true.
  have repeats : ∀ listed ∈ past ++ [event], ∃ old ∈ past,
      old.key = listed.key ∧ old.view = listed.view := by
    refine List.forall_mem_append.mpr ⟨fun old mem => ⟨old, mem, rfl, rfl⟩, ?_⟩
    refine List.forall_mem_singleton.mpr ⟨first, List.mem_of_find?_eq_some earliest, ?_, same⟩
    simpa using List.find?_some earliest
  constructor
  · intro key first
    rw [still]
    exact remembers.made
  · intro listed mem
    obtain ⟨old, known, key, view⟩ := repeats listed mem
    rw [still, ← key, ← view]
    exact remembers.again old known
  · intro key
    rw [still]
    exact remembers.kept key
  · intro listed mem other mem' serial
    obtain ⟨old, known, key, view⟩ := repeats listed mem
    obtain ⟨old', known', key', view'⟩ := repeats other mem'
    rw [← view, ← view'] at serial
    rw [← key, ← key']
    exact remembers.distinct old known old' known' serial
  · intro listed mem
    obtain ⟨old, known, -, view⟩ := repeats listed mem
    rw [← view]
    exact remembers.numbered old known

/-- A view that is made is the first of its key. -/
theorem first (remembers : environment.Remembers past store)
    (caching : environment.options.cacheViews = true) {event : Compilation}
    (fresh : store.cache.get? event.key = none) (current : event.Current environment)
    (next : event.view.serial = store.next) :
    environment.Remembers (past ++ [event])
      (environment.storeWith store event.key event.view.program) := by
  have new : firstCompilation? event.key past = none := by
    rw [remembers.kept] at fresh
    exact Option.map_eq_none_iff.mp fresh
  have newest (key : String) : firstCompilation? key (past ++ [event]) =
      if event.key = key then some event else firstCompilation? key past :=
    firstCompilation?_append_of_eq_none new
  have unlike : ∀ old ∈ past, old.view.serial ≠ event.view.serial := by
    intro old mem
    rw [next]
    exact Nat.ne_of_lt (remembers.numbered old mem)
  constructor
  · intro key first
    rw [newest]
    split
    · rintro ⟨⟩
      exact current
    · exact remembers.made
  · refine List.forall_mem_append.mpr ⟨fun old mem => ?_, List.forall_mem_singleton.mpr ?_⟩
    · have known := remembers.again old mem
      rw [newest, if_neg]
      · exact known
      · intro same
        rw [← same, new] at known
        cases known
    · rw [newest, if_pos rfl]
      rfl
  · intro key
    rw [newest, get?_storeWith, ← next]
    split
    · rename_i same
      rw [if_pos same.2]
      rfl
    · rename_i other
      rw [if_neg fun same => other ⟨caching, same⟩]
      exact remembers.kept key
  · refine List.forall_mem_append.mpr ⟨fun old mem => ?_, List.forall_mem_singleton.mpr ?_⟩
    · refine List.forall_mem_append.mpr ⟨remembers.distinct old mem, ?_⟩
      exact List.forall_mem_singleton.mpr fun same => absurd same (unlike old mem)
    · refine List.forall_mem_append.mpr ⟨fun old mem same => ?_, ?_⟩
      · exact absurd same.symm (unlike old mem)
      · exact List.forall_mem_singleton.mpr fun _ => rfl
  · rw [storeWith_next]
    refine List.forall_mem_append.mpr ⟨fun old mem => ?_, List.forall_mem_singleton.mpr ?_⟩
    · exact Nat.lt_succ_of_lt (remembers.numbered old mem)
    · rw [next]
      exact Nat.lt_succ_self _

/-- **First compilations are remembered**, by induction on what is compiled. -/
theorem compiles (remembers : environment.Remembers past store)
    (caching : environment.options.cacheViews = true) {after : ViewStore}
    {events : List Compilation} (compiles : environment.Compiles views store events after) :
    environment.Remembers (past ++ events) after := by
  induction compiles generalizing past with
  | nil =>
    rw [List.append_nil]
    exact remembers
  | source compiled _ ih => exact ih (remembers.source compiled)
  | @view store middle _ path view events compiled _ ih =>
    rw [List.append_cons]
    refine ih ?_
    obtain ⟨entry, rfl⟩ | ⟨fresh, current, next, rfl⟩ := compileView_over_ok compiled
    · rw [keptView?_of_caching caching] at entry
      exact remembers.found entry
    · rw [keptView?_of_caching caching] at fresh
      exact remembers.first caching fresh current next

end Environment.Remembers

end ViewTemplate
