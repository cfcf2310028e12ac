import Mathlib.Data.List.TakeWhile
import ViewTemplate.Views.Source

/-!
# Steps that lead nowhere

What becomes of the steps `./` and `/` in front of the path of a view in memory.

A path is cut into the steps that it starts with and its bare path, which starts with no
further one (`withSteps_frontSteps`).  Its key lacks some of the steps: first every `./` is
dropped up to a slash, and then every slash up to a `./`.  So what is left is nothing, or it
starts with a `./` (`head?_keptSteps`).

Nothing is left exactly if no `./` stands behind a slash.  Such steps are called settled,
and they decide whether steps in front of a path change its key
(`canonicalViewPath_withSteps_iff`) and whether a key is its own key
(`canonicalViewPath_canonicalViewPath_iff`).

## Main Definitions

* `IdleStep`, `withSteps` — steps, and a path with steps in front of it
* `frontSteps`, `barePath` — the steps that a path starts with, and the path behind them
* `Settled` — steps of which no `./` stands behind a slash
* `keptSteps` — the steps that are left in the key of a path
-/

namespace ViewTemplate

/-! ## Paths and their steps -/

/-- **A step that leads nowhere.** -/
inductive IdleStep where
  /-- The step `./`. -/
  | here
  /-- A slash by itself. -/
  | slash
deriving DecidableEq

/-- How a step is written. -/
def IdleStep.text : IdleStep → String
  | here => "./"
  | slash => "/"

/-- A path with steps in front of it. -/
def withSteps : List IdleStep → String → String
  | [], path => path
  | step :: steps, path => step.text ++ withSteps steps path

/-- The steps that a path starts with. -/
def frontSteps (path : String) : List IdleStep :=
  stepsOf path.toList
where
  /-- The steps that a text starts with. -/
  stepsOf : List Char → List IdleStep
    | '.' :: '/' :: rest => .here :: stepsOf rest
    | '/' :: rest => .slash :: stepsOf rest
    | _ => []

/-- **The bare path**: a path without all the steps that it starts with, in whatever order. -/
def barePath (path : String) : String :=
  String.ofList (restOf path.toList)
where
  /-- The rest of a text behind the steps that it starts with. -/
  restOf : List Char → List Char
    | '.' :: '/' :: rest => restOf rest
    | '/' :: rest => restOf rest
    | text => text

theorem frontSteps_append (step : IdleStep) (path : String) :
    frontSteps (step.text ++ path) = step :: frontSteps path := by
  cases step with
  | here => simp [frontSteps, IdleStep.text, frontSteps.stepsOf]
  | slash => simp [frontSteps, IdleStep.text, frontSteps.stepsOf]

theorem barePath_append (step : IdleStep) (path : String) :
    barePath (step.text ++ path) = barePath path := by
  cases step with
  | here => simp [barePath, IdleStep.text, barePath.restOf]
  | slash => simp [barePath, IdleStep.text, barePath.restOf]

/-- Steps in front of a path are steps that it starts with. -/
@[simp]
theorem frontSteps_withSteps (steps : List IdleStep) (path : String) :
    frontSteps (withSteps steps path) = steps ++ frontSteps path := by
  induction steps with
  | nil => rfl
  | cons step steps ih => rw [withSteps, frontSteps_append, ih, List.cons_append]

@[simp]
theorem barePath_withSteps (steps : List IdleStep) (path : String) :
    barePath (withSteps steps path) = barePath path := by
  induction steps with
  | nil => rfl
  | cons step steps ih => rw [withSteps, barePath_append, ih]

/-- **A path is its steps in front of its bare path.** -/
theorem withSteps_frontSteps (path : String) :
    withSteps (frontSteps path) (barePath path) = path := by
  have cut (text : List Char) :
      (withSteps (frontSteps.stepsOf text) (.ofList (barePath.restOf text))).toList = text := by
    induction text using frontSteps.stepsOf.induct with
    | case1 rest ih =>
      simpa [frontSteps.stepsOf, barePath.restOf, withSteps, IdleStep.text] using ih
    | case2 rest ih =>
      simpa [frontSteps.stepsOf, barePath.restOf, withSteps, IdleStep.text] using ih
    | case3 text notHere notSlash =>
      rw [frontSteps.stepsOf.eq_3 text notHere notSlash,
        barePath.restOf.eq_3 text notHere notSlash, withSteps, String.toList_ofList]
  exact String.toList_inj.mp (cut path.toList)

/-- A bare path starts with no step. -/
@[simp]
theorem frontSteps_barePath (path : String) : frontSteps (barePath path) = [] := by
  have cut := congrArg frontSteps (withSteps_frontSteps path)
  rw [frontSteps_withSteps] at cut
  exact List.append_right_eq_self.mp cut

/-- Two paths with the same behind their steps differ if the steps do. -/
theorem withSteps_inj {steps others : List IdleStep} {path : String} :
    withSteps steps path = withSteps others path ↔ steps = others := by
  constructor
  · intro same
    have fronts := congrArg frontSteps same
    rw [frontSteps_withSteps, frontSteps_withSteps] at fronts
    exact List.append_cancel_right fronts
  · rintro rfl
    rfl

/-! ## Settled steps -/

/-- **Settled steps**: behind a slash there are only slashes. -/
def Settled (steps : List IdleStep) : Prop :=
  steps.Pairwise fun first second => first = .slash → second = .slash

instance (steps : List IdleStep) : Decidable (Settled steps) :=
  inferInstanceAs (Decidable (steps.Pairwise _))

theorem settled_here_cons {steps : List IdleStep} :
    Settled (.here :: steps) ↔ Settled steps := by
  simp [Settled]

theorem settled_slash_cons {steps : List IdleStep} :
    Settled (.slash :: steps) ↔ ∀ step ∈ steps, step = .slash := by
  rw [Settled, List.pairwise_cons]
  constructor
  · intro settled step mem
    exact settled.1 step mem rfl
  · intro slashes
    refine ⟨fun step mem _ => slashes step mem, List.pairwise_of_forall_mem_list ?_⟩
    exact fun _ _ second mem _ => slashes second mem

/-- The steps that are left when first every `./` is dropped and then every slash. -/
def keptSteps (steps : List IdleStep) : List IdleStep :=
  (steps.dropWhile (· = .here)).dropWhile (· = .slash)

@[simp]
theorem keptSteps_here_cons (steps : List IdleStep) :
    keptSteps (.here :: steps) = keptSteps steps := rfl

@[simp]
theorem keptSteps_slash_cons (steps : List IdleStep) :
    keptSteps (.slash :: steps) = steps.dropWhile (· = .slash) := rfl

theorem length_keptSteps_le (steps : List IdleStep) :
    (keptSteps steps).length ≤ steps.length :=
  ((List.dropWhile_suffix _).trans (List.dropWhile_suffix _)).length_le

/-- Steps that are left start with a `./`. -/
theorem head?_keptSteps (steps : List IdleStep) : (keptSteps steps).head? ≠ some .slash := by
  intro first
  have stopped := List.head?_dropWhile_not (· = IdleStep.slash) (steps.dropWhile (· = .here))
  rw [← keptSteps, first] at stopped
  simp at stopped

/-- **Nothing is left of settled steps**, and something of all others. -/
theorem keptSteps_eq_nil_iff {steps : List IdleStep} : keptSteps steps = [] ↔ Settled steps := by
  induction steps with
  | nil => simp [keptSteps, Settled]
  | cons step steps ih =>
    cases step with
    | here => rw [keptSteps_here_cons, ih, settled_here_cons]
    | slash => simp [settled_slash_cons]

/-- More steps are not what is left of fewer. -/
theorem ne_keptSteps_of_length_lt {steps fewer : List IdleStep}
    (longer : fewer.length < steps.length) : steps ≠ keptSteps fewer := by
  rintro rfl
  exact Nat.not_le.mpr longer (length_keptSteps_le fewer)

/-- What is left is left again only if it is nothing. -/
theorem keptSteps_keptSteps_iff {steps : List IdleStep} :
    keptSteps (keptSteps steps) = keptSteps steps ↔ Settled steps := by
  rw [← keptSteps_eq_nil_iff]
  have first := head?_keptSteps steps
  generalize keptSteps steps = kept at first ⊢
  cases kept with
  | nil => simp [keptSteps]
  | cons step rest =>
    cases step with
    | here =>
      have longer : rest.length < (IdleStep.here :: rest).length := Nat.lt_succ_self _
      exact iff_of_false (ne_keptSteps_of_length_lt longer).symm (List.cons_ne_nil _ _)
    | slash => exact absurd rfl first

/-- Behind a slash it is the slashes that are dropped, and what is left of steps in front of
others is what is left of the others only if all of them are slashes and no `./` follows. -/
theorem dropWhile_slash_append_iff {steps front : List IdleStep} :
    (steps ++ front).dropWhile (· = .slash) = keptSteps front ↔
      ∀ step ∈ steps ++ front.take 1, step = .slash := by
  induction steps with
  | nil =>
    cases front with
    | nil => simp [keptSteps]
    | cons step front =>
      cases step with
      | here =>
        have longer : front.length < (IdleStep.here :: front).length := Nat.lt_succ_self _
        rw [keptSteps_here_cons]
        exact iff_of_false (ne_keptSteps_of_length_lt longer) (by simp)
      | slash => simp
  | cons step steps ih =>
    cases step with
    | here =>
      have longer : front.length < (IdleStep.here :: (steps ++ front)).length := by
        rw [List.length_cons, List.length_append]
        omega
      exact iff_of_false (ne_keptSteps_of_length_lt longer) (by simp)
    | slash => simpa using ih

/-- **Steps before others change nothing in what is left** exactly if they are settled,
together with the first of the others. -/
theorem keptSteps_append_iff {steps front : List IdleStep} :
    keptSteps (steps ++ front) = keptSteps front ↔ Settled (steps ++ front.take 1) := by
  induction steps with
  | nil =>
    refine iff_of_true rfl ?_
    cases front with
    | nil => simp [Settled]
    | cons step front => simp [Settled]
  | cons step steps ih =>
    cases step with
    | here => rw [List.cons_append, keptSteps_here_cons, ih, List.cons_append, settled_here_cons]
    | slash =>
      rw [List.cons_append, keptSteps_slash_cons, dropWhile_slash_append_iff, List.cons_append,
        settled_slash_cons]

/-! ## Keys of paths -/

section Keys

variable {path : String}

/-- What starts with no step starts with no `./`. -/
theorem dropHere_of_bare (bare : frontSteps path = []) :
    canonicalViewPath.dropHere path.toList = path.toList := by
  rw [frontSteps] at bare
  unfold canonicalViewPath.dropHere
  split
  · rename_i rest starts
    rw [starts] at bare
    cases bare
  · rfl

/-- What starts with no step starts with no slash. -/
theorem dropWhile_slash_of_bare (bare : frontSteps path = []) :
    path.toList.dropWhile (· = '/') = path.toList := by
  rw [frontSteps] at bare
  cases starts : path.toList with
  | nil => rfl
  | cons c rest =>
    rw [starts] at bare
    by_cases slash : c = '/'
    · subst slash
      cases bare
    · exact List.dropWhile_cons_of_neg (by simpa using slash)

/-- Every `./` in front of steps is dropped. -/
theorem dropHere_withSteps (bare : frontSteps path = []) (steps : List IdleStep) :
    canonicalViewPath.dropHere (withSteps steps path).toList
      = (withSteps (steps.dropWhile (· = .here)) path).toList := by
  induction steps with
  | nil => exact dropHere_of_bare bare
  | cons step steps ih =>
    cases step with
    | here => simpa [withSteps, IdleStep.text, canonicalViewPath.dropHere] using ih
    | slash => simp [withSteps, IdleStep.text, canonicalViewPath.dropHere]

/-- Every slash in front of steps is dropped. -/
theorem dropWhile_slash_withSteps (bare : frontSteps path = []) (steps : List IdleStep) :
    (withSteps steps path).toList.dropWhile (· = '/')
      = (withSteps (steps.dropWhile (· = .slash)) path).toList := by
  induction steps with
  | nil => exact dropWhile_slash_of_bare bare
  | cons step steps ih =>
    cases step with
    | here => simp [withSteps, IdleStep.text]
    | slash => simpa [withSteps, IdleStep.text] using ih

end Keys

/-- **The key of a path** is its bare path behind the steps that are left. -/
theorem canonicalViewPath_eq (path : String) :
    canonicalViewPath path = withSteps (keptSteps (frontSteps path)) (barePath path) := by
  have bare := frontSteps_barePath path
  have dropped := dropHere_withSteps bare (frontSteps path)
  rw [withSteps_frontSteps] at dropped
  rw [canonicalViewPath, dropped, dropWhile_slash_withSteps bare, String.ofList_toList]
  rfl

/-- The key of a path starts with the steps that are left. -/
theorem frontSteps_canonicalViewPath (path : String) :
    frontSteps (canonicalViewPath path) = keptSteps (frontSteps path) := by
  rw [canonicalViewPath_eq, frontSteps_withSteps, frontSteps_barePath, List.append_nil]

/-- The key of a path has the bare path of the path. -/
theorem barePath_canonicalViewPath (path : String) :
    barePath (canonicalViewPath path) = barePath path := by
  rw [canonicalViewPath_eq, barePath_withSteps, ← barePath_withSteps (frontSteps path),
    withSteps_frontSteps]

/-- **Steps in front of a path leave its key as it is** exactly if they are settled, together
with the first step of the path. -/
theorem canonicalViewPath_withSteps_iff {steps : List IdleStep} {path : String} :
    canonicalViewPath (withSteps steps path) = canonicalViewPath path ↔
      Settled (steps ++ (frontSteps path).take 1) := by
  rw [canonicalViewPath_eq, canonicalViewPath_eq, frontSteps_withSteps, barePath_withSteps,
    withSteps_inj, keptSteps_append_iff]

/-- **A key is its own key** exactly if the steps of the path are settled. -/
theorem canonicalViewPath_canonicalViewPath_iff {path : String} :
    canonicalViewPath (canonicalViewPath path) = canonicalViewPath path ↔
      Settled (frontSteps path) := by
  rw [canonicalViewPath_eq (canonicalViewPath path), frontSteps_canonicalViewPath,
    barePath_canonicalViewPath, canonicalViewPath_eq path, withSteps_inj, keptSteps_keptSteps_iff]

/-- **The key of a path is its bare path** if the steps of the path are settled. -/
theorem canonicalViewPath_of_settled {path : String} (settled : Settled (frontSteps path)) :
    canonicalViewPath path = barePath path := by
  rw [canonicalViewPath_eq, keptSteps_eq_nil_iff.mpr settled, withSteps]

end ViewTemplate
