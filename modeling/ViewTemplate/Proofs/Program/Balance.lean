import ViewTemplate.Program.Lowering
import ViewTemplate.Proofs.Program.Nesting
import ViewTemplate.Proofs.Yields

/-!
# Balanced programs

Starting a target and ending one are two separate steps, so nothing in the type
of steps makes them come in pairs.  What does is compilation: it emits them only
around the body of a captured block, in one list.  `Balanced` says that of a list
of steps and of all lists inside it, and `Document.compile_balanced` that it
holds of every program.

## Main Definitions

* `Balanced` — targets are started and ended in pairs, here and in all lists inside
-/

namespace ViewTemplate

/-- A step that starts or ends a target. -/
def Step.SwitchesTarget : Step → Prop
  | .saveTarget | .mergeTarget _ => True
  | _ => False

/-- **Targets are started and ended in pairs**, in a list of steps and in all the
lists inside it. -/
inductive Balanced : List Step → Prop where
  | nil : Balanced []
  /-- A step that leaves targets alone and holds balanced lists. -/
  | step {step : Step} {rest : List Step} (keeps : ¬step.SwitchesTarget)
      (inside : ∀ body ∈ step.bodies, Balanced body) (next : Balanced rest) :
      Balanced (step :: rest)
  /-- A target that is started, written to, and ended. -/
  | capture {slot : String} {body rest : List Step} (inside : Balanced body)
      (next : Balanced rest) : Balanced (.saveTarget :: (body ++ .mergeTarget slot :: rest))

namespace Balanced

variable {steps rest body : List Step} {step : Step}

/-- A single step that leaves targets alone. -/
theorem single (keeps : ¬step.SwitchesTarget) (inside : ∀ body ∈ step.bodies, Balanced body) :
    Balanced [step] :=
  .step keeps inside .nil

theorem append (first : Balanced steps) (second : Balanced rest) :
    Balanced (steps ++ rest) := by
  induction first with
  | nil => exact second
  | step keeps inside _ _ ih => exact .step keeps inside ih
  | capture inside _ _ ih =>
    rw [List.cons_append, List.append_assoc, List.cons_append]
    exact .capture inside ih

/-- The lists inside a balanced list are balanced. -/
theorem of_mem_bodies (h : Balanced steps) (mem : step ∈ steps) (direct : body ∈ step.bodies) :
    Balanced body := by
  induction h with
  | nil => cases mem
  | step keeps inside _ _ ih =>
    rcases List.mem_cons.mp mem with rfl | later
    · exact inside body direct
    · exact ih later
  | capture _ _ ihInside ihNext =>
    rcases List.mem_cons.mp mem with rfl | later
    · cases direct
    · rcases List.mem_append.mp later with within | later
      · exact ihInside within
      · rcases List.mem_cons.mp later with rfl | later
        · cases direct
        · exact ihNext later

end Balanced

/-- All lists of a balanced program are balanced. -/
theorem Program.HasList.balanced {program : Program} {steps : List Step}
    (h : program.HasList steps) (whole : Balanced program.steps) : Balanced steps := by
  induction h with
  | steps => exact whole
  | body _ mem direct ih => exact ih.of_mem_bodies mem direct

/-! ## Compilation -/

mutual

/-- The steps of a node are balanced. -/
theorem lowerNode_balanced : (node : Node) → Yields (lowerNode node) Balanced
  | .text .. | .whitespace .. | .comment .. | .cdata .. | .doctype _ | .action .. |
    .printAction .. | .render .. | .renderContent .. | .print _ _ none =>
    .pure (.single id (by simp [Step.bodies]))
  | .commentSpan .. => .pure .nil
  | .elseIf .. | .otherwise .. | .layout .. => .throw _
  | .element _ tag children => by
    unfold lowerNode
    split
    · exact .pure (.single id (by simp [Step.bodies]))
    · refine .bind (lowerNodes_balanced children) fun steps h => .pure ?_
      exact .step id (by simp [Step.bodies]) (h.append (.single id (by simp [Step.bodies])))
  | .scope _ children | .loop _ _ children | .print _ _ (some (_, children)) =>
    .bind (lowerNodes_balanced children) fun steps h =>
      .pure (.single id (by simpa [Step.bodies] using h))
  | .conditional _ _ children alternate =>
    .bind (lowerAlternate_balanced alternate) fun other h' =>
      .bind (lowerNodes_balanced children) fun steps h => .pure <| .single id <| by
        simpa [Step.bodies] using ⟨h, h'⟩
  | .switch _ _ cases fallback =>
    .bind (lowerCases_balanced cases) fun bodies h =>
      .bind (lowerFallback_balanced fallback) fun other h' => .pure <| .single id <| by
        intro body direct
        rcases List.mem_append.mp direct with inCase | inFallback
        · obtain ⟨case, mem, rfl⟩ := List.mem_map.mp inCase
          exact h case mem
        · exact h' body (Option.mem_toList.mp inFallback)
  | .foreach _ _ _ children alternate =>
    .bind (lowerEmpty_balanced alternate) fun other h' =>
      .bind (lowerNodes_balanced children) fun steps h => .pure <| .single id <| by
        simpa [Step.bodies] using ⟨h, h'⟩
  | .contentFor _ _ children =>
    .bind (lowerNodes_balanced children) fun steps h => .pure <|
      .capture (.single id (by simpa [Step.bodies] using h)) .nil

theorem lowerNodes_balanced : (nodes : List Node) → Yields (lowerNode.lowerNodes nodes) Balanced
  | [] => .pure .nil
  | node :: rest =>
    .bind (lowerNode_balanced node) fun _ first =>
      .bind (lowerNodes_balanced rest) fun _ others => .pure (first.append others)

theorem lowerAlternate_balanced : (alternate : Option Node) →
    Yields (lowerNode.lowerAlternate alternate) fun lowered => ∀ body ∈ lowered, Balanced body
  | none => .pure nofun
  | some node => by
    cases node with
    | elseIf _ _ children alternate =>
      refine .bind (lowerAlternate_balanced alternate) fun other h' => ?_
      refine .bind (lowerNodes_balanced children) fun steps h => .pure ?_
      rintro _ ⟨⟩
      exact .single id (by simpa [Step.bodies] using ⟨h, h'⟩)
    | otherwise _ children =>
      refine .bind (lowerNodes_balanced children) fun steps h => .pure ?_
      rintro _ ⟨⟩
      exact h
    | _ => exact .throw _

theorem lowerEmpty_balanced : (alternate : Option Node) →
    Yields (lowerNode.lowerEmpty alternate) fun lowered => ∀ body ∈ lowered, Balanced body
  | none => .pure nofun
  | some node => by
    cases node with
    | otherwise _ children =>
      refine .bind (lowerNodes_balanced children) fun steps h => .pure ?_
      rintro _ ⟨⟩
      exact h
    | _ => exact .throw _

theorem lowerCases_balanced : (cases : List (Branch Node)) →
    Yields (lowerNode.lowerCases cases) fun lowered => ∀ case ∈ lowered, Balanced case.2
  | [] => .pure nofun
  | ⟨_, _, children⟩ :: rest =>
    .bind (lowerNodes_balanced children) fun _ h =>
      .bind (lowerCases_balanced rest) fun _ h' => .pure (List.forall_mem_cons.mpr ⟨h, h'⟩)

theorem lowerFallback_balanced : (fallback : Option (Position × List Node)) →
    Yields (lowerNode.lowerFallback fallback) fun lowered => ∀ body ∈ lowered, Balanced body
  | none => .pure nofun
  | some (_, children) =>
    .bind (lowerNodes_balanced children) fun steps h => .pure (by simpa using h)

end

/-- **Programs are balanced.** -/
theorem Document.compile_balanced {document : Document} {program : Program}
    (h : document.compile = .ok program) : Balanced program.steps := by
  have compiled : Yields document.compile fun program => Balanced program.steps := by
    unfold compile
    split
    · exact .bind (lowerNodes_balanced _) fun steps rest =>
        .pure (.step id (by simp [Step.bodies]) rest)
    · exact .bind (lowerNodes_balanced _) fun steps all => .pure all
  exact compiled program h

end ViewTemplate
