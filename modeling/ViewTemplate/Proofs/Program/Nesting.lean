import ViewTemplate.Program.Basic

/-!
# Steps inside steps

The lists of steps that a step holds, and what follows for statements about all
the steps of a program.

`Step` nests lists of itself in six of its constructors, some of them optional
and some paired with an expression.  `Step.bodies` collects them, so that
"however deeply nested" is one relation (`Step.Occurs`, `Program.HasList`) and an
induction over steps has one case (`Step.induction`).

## Main Definitions

* `Step.bodies` — the lists of steps that stand directly in a step
* `Step.Occurs` — a step stands somewhere in a list of steps
* `Program.HasList` — a list is one of a program's, at any depth
-/

namespace ViewTemplate

/-- The lists of steps that stand directly in a step. -/
def Step.bodies : Step → List (List Step)
  | .block body => [body]
  | .branch _ consequent alternate => consequent :: alternate.toList
  | .switch _ cases fallback => cases.map (·.2) ++ fallback.toList
  | .foreach _ _ body empty => body :: empty.toList
  | .loop _ body => [body]
  | .printBlock _ _ body => [body]
  | _ => []

/-- What stands in a step is smaller than the step. -/
theorem Step.sizeOf_lt_of_mem_bodies {step inner : Step} {body : List Step}
    (direct : body ∈ step.bodies) (mem : inner ∈ body) : sizeOf inner < sizeOf step := by
  have inside : sizeOf inner < sizeOf body := List.sizeOf_lt_of_mem mem
  cases step with
  | block | loop | printBlock =>
    simp only [bodies, List.mem_singleton] at direct
    subst direct
    simp
    omega
  | branch _ _ alternate | foreach _ _ _ alternate =>
    simp only [bodies, List.mem_cons, Option.mem_toList] at direct
    rcases direct with rfl | here
    · simp
      omega
    · subst here
      simp
      omega
  | switch _ cases fallback =>
    simp only [bodies, List.mem_append, List.mem_map, Option.mem_toList] at direct
    rcases direct with ⟨case, here, rfl⟩ | here
    · have caseSize := List.sizeOf_lt_of_mem here
      obtain ⟨expression, body⟩ := case
      simp at caseSize inside ⊢
      omega
    · subst here
      simp
      omega
  | _ => simp [bodies] at direct

/-- **Induction over steps**: what holds of a step whenever it holds of all the
steps directly inside holds of every step. -/
theorem Step.induction {motive : Step → Prop}
    (inside : ∀ step, (∀ body ∈ step.bodies, ∀ inner ∈ body, motive inner) → motive step)
    (step : Step) : motive step :=
  inside step fun _ _ inner _ => Step.induction inside inner
termination_by sizeOf step
decreasing_by
  rename_i body direct mem
  exact sizeOf_lt_of_mem_bodies direct mem

/-- A step stands in a list of steps, directly or inside others. -/
inductive Step.Occurs (sought : Step) : List Step → Prop where
  | here {steps : List Step} (mem : sought ∈ steps) : Occurs sought steps
  | inside {steps body : List Step} {step : Step} (mem : step ∈ steps)
      (direct : body ∈ step.bodies) (occurs : Occurs sought body) : Occurs sought steps

namespace Step.Occurs

variable {sought step : Step} {steps more body : List Step}

/-- What stands in a list stands in every list with the same steps and others. -/
theorem mono (occurs : Occurs sought steps) (wider : ∀ step ∈ steps, step ∈ more) :
    Occurs sought more := by
  cases occurs with
  | here mem => exact .here (wider sought mem)
  | inside mem direct occurs => exact .inside (wider _ mem) direct occurs

/-- What stands in a list inside a step stands where the step does. -/
theorem of_mem_bodies (outer : Occurs step steps) (direct : body ∈ step.bodies)
    (occurs : Occurs sought body) : Occurs sought steps := by
  induction outer with
  | here mem => exact .inside mem direct occurs
  | inside mem direct' _ ih => exact .inside mem direct' ih

end Step.Occurs

/-- **Induction over lists of steps** whose steps have a property of their own, wherever
they stand: a list is built of its steps, and a step of the lists inside it. -/
theorem Step.listInduction {own single : Step → Prop} {whole : List Step → Prop}
    (nil : whole []) (cons : ∀ step rest, single step → whole rest → whole (step :: rest))
    (inside : ∀ step, own step → (∀ body ∈ step.bodies, whole body) → single step)
    {steps : List Step} (all : ∀ step : Step, step.Occurs steps → own step) : whole steps := by
  have list (steps : List Step) (each : ∀ step ∈ steps, single step) : whole steps := by
    induction steps with
    | nil => exact nil
    | cons step rest ih =>
      exact cons step rest (each step List.mem_cons_self)
        (ih fun other mem => each other (List.mem_cons_of_mem _ mem))
  have alone (step : Step) (own' : ∀ inner : Step, inner.Occurs [step] → own inner) :
      single step := by
    induction step using Step.induction with
    | inside step ih =>
      refine inside step (own' step (.here List.mem_cons_self)) ?_
      refine fun body direct => list body fun inner mem => ih body direct inner mem ?_
      intro sought occurs
      have within : sought.Occurs body :=
        occurs.mono fun _ same => List.mem_singleton.mp same ▸ mem
      exact own' sought (.inside List.mem_cons_self direct within)
  refine list steps fun step mem => alone step fun inner occurs => all inner ?_
  exact occurs.mono fun _ same => List.mem_singleton.mp same ▸ mem

/-- A list of steps is one of a program's: all its steps, or a list that stands
in one of them. -/
inductive Program.HasList (program : Program) : List Step → Prop where
  | steps : HasList program program.steps
  | body {steps body : List Step} {step : Step} (outer : HasList program steps)
      (mem : step ∈ steps) (direct : body ∈ step.bodies) : HasList program body

end ViewTemplate
