import ViewTemplate.Proofs.Render.Interpretation
import ViewTemplate.Proofs.Render.SpareFrames
import ViewTemplate.Proofs.Render.TargetStack
import ViewTemplate.Proofs.Yields

/-!
# Programs do what their documents say

Executing the program of a document is interpreting the document: from every state with the
same result, and with the same state afterwards.

Most nodes become the steps that do what the node does, and the two sides differ by the laws
of sequences only.  Two kinds of nodes need more.  A block that is captured becomes three
steps in the list around it.  And an else-if branch becomes a choice inside the other branch,
with one more frame around it for each branch of the chain, where the interpreter has none;
no choice notices such a frame (`inFrame_branch`).

What is called is dealt with last.  Compiled steps and their document do the same as soon as
their calls do, and calls do the same as soon as the steps on the level below do
(`executeWithin_eq_interpretWithin`).
-/

namespace ViewTemplate

variable {environment : Environment} {calls : Calls} {origin : Nat}

/-! ## Single steps -/

/-- Attributes are built as they were written. -/
theorem buildAttributes_lower (attributes : AttributeSet) (written : List Attribute) :
    buildAttributes environment calls attributes (written.map Attribute.lower) =
      written.foldlM (renderAttribute environment calls) attributes := by
  induction written generalizing attributes with
  | nil => rfl
  | cons first rest ih =>
    rw [List.map_cons, List.foldlM_cons]
    obtain ⟨position, name, form⟩ := first
    cases form with
    | plain value =>
      cases value with
      | none => exact (ih _).trans (pure_bind _ _).symm
      | some value =>
        simp only [Attribute.lower, buildAttributes, renderAttribute, bind_assoc, pure_bind, ih]
    | bound quote expression =>
      simp only [Attribute.lower, buildAttributes, renderAttribute, bind_assoc, pure_bind, ih]
    | conditional quote condition | append quote suffix condition =>
      simp only [Attribute.lower, buildAttributes, renderAttribute, bind_assoc, pure_bind, ih]
      refine bind_congr fun value => ?_
      cases value.isTruthy with
      | true => rfl
      | false => rfl

/-! ## Nodes -/

section

variable (environment origin)

mutual

/-- **The steps of a node do what the node does.** -/
theorem lowerNode_renders (spare : calls.Spare) : (node : Node) → Yields (lowerNode node)
    fun steps => executeSteps environment calls origin steps =
      renderNode environment calls origin node
  | .text .. | .whitespace .. | .comment .. | .cdata .. | .doctype _ | .action .. |
    .printAction .. | .renderContent .. | .print _ _ none =>
    .pure (executeSteps_single _)
  | .render _ path none => .pure (executeSteps_single _)
  | .render _ path (some context) => by
    refine .pure ?_
    rw [executeSteps_single, executeStep, renderNode]
    simp only [map_eq_pure_bind, bind_assoc, pure_bind]
  | .commentSpan .. => .pure rfl
  | .elseIf .. | .otherwise .. | .layout .. => .throw _
  | .element _ tag children => by
    unfold lowerNode
    split
    · rename_i empty
      refine .pure ?_
      rw [executeSteps_single, executeStep, buildAttributes_lower, renderNode]
      simp only [if_pos empty, bind_pure_unit]
    · rename_i full
      refine .bind (lowerNodes_renders spare children) fun steps inside => .pure ?_
      rw [List.cons_append, executeSteps_cons, executeSteps_append, executeSteps_single, inside,
        executeStep, buildAttributes_lower, renderNode]
      simp only [if_neg full, bind_assoc]
      rfl
  | .scope _ children =>
    .bind (lowerNodes_renders spare children) fun steps inside => .pure <| by
      rw [executeSteps_single, renderNode, ← inside]
      rfl
  | .loop _ _ children =>
    .bind (lowerNodes_renders spare children) fun steps inside => .pure <| by
      rw [executeSteps_single, renderNode, ← inside]
      rfl
  | .print _ _ (some (_, children)) =>
    -- The body is not executed here but kept, in the form that compilation gives it.
    .bind (fun _ compiled => compiled) fun body (compiled : lowerNode.lowerNodes children = _) =>
      .pure <| by
        rw [executeSteps_single, renderNode, compiled]
        rfl
  | .conditional _ _ children alternate =>
    .bind (lowerAlternate_renders spare alternate) fun other behind =>
      .bind (lowerNodes_renders spare children) fun steps inside => .pure <| by
        rw [executeSteps_single, renderNode, ← inside, ← behind]
        rfl
  | .switch _ _ cases fallback =>
    .bind (lowerCases_renders spare cases) fun bodies found =>
      .bind (lowerFallback_renders spare fallback) fun other behind => .pure <| by
        rw [executeSteps_single, executeStep, renderNode, behind]
        simp only [found]
  | .foreach _ _ _ children alternate =>
    .bind (lowerEmpty_renders spare alternate) fun other behind =>
      .bind (lowerNodes_renders spare children) fun steps inside => .pure <| by
        rw [executeSteps_single, renderNode, ← inside, ← behind]
        rfl
  | .contentFor _ _ children =>
    .bind (lowerNodes_renders spare children) fun steps inside => .pure <| by
      rw [executeSteps_cons, executeSteps_cons, executeSteps_single, renderNode, ← inside]
      rfl

theorem lowerNodes_renders (spare : calls.Spare) : (nodes : List Node) →
    Yields (lowerNode.lowerNodes nodes) fun steps => executeSteps environment calls origin steps =
      renderNode.renderNodes environment calls origin nodes
  | [] => .pure rfl
  | node :: rest =>
    .bind (lowerNode_renders spare node) fun _ first =>
      .bind (lowerNodes_renders spare rest) fun _ others => .pure <| by
        rw [executeSteps_append, first, others]
        rfl

theorem lowerAlternate_renders (spare : calls.Spare) : (alternate : Option Node) →
    Yields (lowerNode.lowerAlternate alternate) fun lowered =>
      executeStep.executeOptional environment calls origin lowered =
        renderNode.renderAlternate environment calls origin alternate
  | none => .pure rfl
  | some node => by
    cases node with
    | elseIf _ condition children alternate =>
      refine .bind (lowerAlternate_renders spare alternate) fun other behind => ?_
      refine .bind (lowerNodes_renders spare children) fun steps inside => .pure ?_
      rw [executeStep.executeOptional, ← executeSteps, executeSteps_single, inFrame_branch spare,
        renderNode.renderAlternate, ← inside, ← behind]
      rfl
    | otherwise _ children =>
      refine .bind (lowerNodes_renders spare children) fun steps inside => .pure ?_
      rw [renderNode.renderAlternate, ← inside]
      rfl
    | _ => exact .throw _

theorem lowerEmpty_renders (spare : calls.Spare) : (alternate : Option Node) →
    Yields (lowerNode.lowerEmpty alternate) fun lowered =>
      executeStep.executeOptional environment calls origin lowered =
        renderNode.renderAlternate environment calls origin alternate
  | none => .pure rfl
  | some node => by
    cases node with
    | otherwise _ children =>
      refine .bind (lowerNodes_renders spare children) fun steps inside => .pure ?_
      rw [renderNode.renderAlternate, ← inside]
      rfl
    | _ => exact .throw _

theorem lowerCases_renders (spare : calls.Spare) : (cases : List (Branch Node)) →
    Yields (lowerNode.lowerCases cases) fun lowered => ∀ value fallback,
      executeStep.executeCases environment calls origin value fallback lowered =
        renderNode.renderCases environment calls origin value fallback cases
  | [] => .pure fun _ _ => rfl
  | ⟨_, _, children⟩ :: rest =>
    .bind (lowerNodes_renders spare children) fun _ inside =>
      .bind (lowerCases_renders spare rest) fun _ others => .pure fun value fallback => by
        rw [executeStep.executeCases, renderNode.renderCases, ← inside, ← others]
        rfl

theorem lowerFallback_renders (spare : calls.Spare) :
    (fallback : Option (Position × List Node)) →
    Yields (lowerNode.lowerFallback fallback) fun lowered =>
      executeStep.executeOptional environment calls origin lowered =
        renderNode.renderFallback environment calls origin fallback
  | none => .pure rfl
  | some (_, children) =>
    .bind (lowerNodes_renders spare children) fun _ inside => .pure <| by
      rw [renderNode.renderFallback, ← inside]
      rfl

end

end

/-! ## Documents -/

/-- **The program of a document does what the document does**, whatever it calls. -/
theorem Document.compile_renders (environment : Environment) (spare : calls.Spare) (origin : Nat)
    {document : Document} {program : Program} (compiled : document.compile = .ok program) :
    executeSteps environment calls origin program.steps =
      renderDocument environment calls origin document := by
  have renders : Yields document.compile fun program =>
      executeSteps environment calls origin program.steps =
        renderDocument environment calls origin document := by
    unfold compile renderDocument
    cases document.nodes with
    | nil => exact .pure rfl
    | cons first rest =>
      cases first with
      | layout position path =>
        refine .bind (lowerNodes_renders environment origin spare rest) fun steps inside => ?_
        refine .pure ?_
        rw [executeSteps_cons, inside]
        rfl
      | _ =>
        exact .bind (lowerNodes_renders environment origin spare _) fun steps inside =>
          .pure inside
  exact renders program compiled

/-- **To execute is to interpret**, on every level: what is called on the level below does the
same in both, and the steps at hand do what their document does if it is known. -/
theorem executeWithin_eq_interpretWithin (environment : Environment) (provenance : Provenance)
    (levels : Nat) :
    executeWithin environment levels = interpretWithin environment provenance levels := by
  induction levels with
  | zero => rfl
  | succ levels ih =>
    funext origin steps
    rw [executeWithin, interpretWithin, ← ih]
    dsimp only
    cases found : provenance.document? steps with
    | none => rfl
    | some document =>
      exact document.compile_renders environment (callsBy_spare environment levels) origin
        (provenance.sound found)

/-- **Executing a program is interpreting its document.**  From every state the compiled steps
have the result that the document has, and leave the same state behind, be it that the
interpreter executes what is called or interprets that too; and it can interpret all of it,
since there is a provenance that knows every program's document. -/
theorem execute_interprets {document : Document} {program : Program}
    (compiled : document.compile = .ok program) (environment : Environment) (origin : Nat)
    (state : RenderState) :
    (∃ provenance : Provenance, provenance.Complete) ∧
    ∀ provenance : Provenance,
      (environment.execute origin program.steps).run.run state =
        (environment.interpret provenance origin document).run.run state := by
  refine ⟨Provenance.exists_complete, fun provenance => ?_⟩
  have executed : environment.execute origin program.steps =
      renderDocument environment (callsBy environment (executeWithin environment maxDepth))
        origin document :=
    document.compile_renders environment (callsBy_spare environment maxDepth) origin compiled
  rw [executed, executeWithin_eq_interpretWithin environment provenance]
  rfl

/-- A document that declares a layout and goes on with a chain of branches, of which the
second is taken: its program has one choice inside the other, and does what the chain does. -/
theorem execute_interprets_chain :
    let literal (value : Bool) : Expression := ⟨"", .start, .boolean ⟨0, 0⟩ value⟩
    let document : Document :=
      ⟨[.layout .start "base",
        .conditional .start (literal false) [.text .start "a"]
          (some (.elseIf .start (literal true) [.text .start "b"]
            (some (.otherwise .start [.text .start "c"]))))]⟩
    let program : Program :=
      ⟨[.setLayout "base",
        .branch (literal false) [.text "a"]
          (some [.branch (literal true) [.text "b"] (some [.text "c"])])]⟩
    let environment : Environment :=
      { options := {}, source := .memory [], functions := fun _ _ => .ok .null }
    document.compile = .ok program ∧ ∀ provenance,
      let after := ((environment.interpret provenance 0 document).run.run
        (RenderState.start .undefined {})).2
      after.target.default = "b" ∧ after.pendingLayout = some "base" := by
  intro literal document program environment
  have compiled : document.compile = .ok program := rfl
  refine ⟨compiled, fun provenance => ?_⟩
  have same := (execute_interprets compiled environment 0 (.start .undefined {})).2 provenance
  dsimp only
  rw [← same]
  decide +kernel

end ViewTemplate
