import ViewTemplate.Proofs.Render.Account

/-!
# Reports of failures

As what a render reports a failure that happens in the middle of it.

A step may fail inside print blocks that are called by expressions of other print blocks, in
views that are rendered in place by them, and so on.  Its error crosses from steps to an
expression and back once for each of these levels.  However many there are, the render fails
with that very error; and an evaluation that fails by itself is reported at its own place.

Nothing of this needs an induction on the levels: no recorded action survives a failure that
it lists (`Recorded.faithful`), so all that is left to see is that a render is what its record
says, and that what fails is listed.

## Main Definitions

* `Reported` — an answer that tells of the failures among some moments
-/

namespace ViewTemplate

open Snippet

variable {α : Type}

/-- **An answer reports the failures among some moments as they arose.** -/
structure Reported (moments : List Moment) (answer : Except RenderError α) : Prop where
  /-- The answer is the error of every step that fails. -/
  step : ∀ moment ∈ moments, ∀ step error, moment.event = .failed step error →
    answer = .error error
  /-- Where an evaluation fails because a print block does, the answer is the error of the
  block. -/
  passedOn : ∀ moment ∈ moments, ∀ position failure,
    moment.event = .threw position (.failed failure) → answer = .error failure
  /-- Where an evaluation fails by itself, the answer says so, and where the snippet stands. -/
  evaluation : ∀ moment ∈ moments, ∀ position cause own,
    moment.event = .threw position cause → cause.own = .ok own →
      answer = .error (.evaluation own position)

/-! ## Reports -/

/-- The result of a recorded action reports its failures. -/
theorem Recorded.reported (recorded : Recorded RenderError α) (state : RenderState) :
    Reported (recorded.run state).moments (recorded.run state).result := by
  have faithful := recorded.faithful state
  refine ⟨?_, ?_, ?_⟩
  · intro moment mem step error same
    exact faithful moment mem error (by rw [same]; rfl)
  · intro moment mem position failure same
    exact faithful moment mem failure (by rw [same]; rfl)
  · intro moment mem position cause own same ownCause
    refine faithful moment mem (.evaluation own position) ?_
    rw [same, Event.failure?, RenderError.ofEval, ownCause]

/-- What is made of a result reports what the result does. -/
theorem Reported.map {β : Type} {moments : List Moment} {answer : Except RenderError α}
    (reported : Reported moments answer) (change : α → β) :
    Reported moments (answer.map change) := by
  refine ⟨?_, ?_, ?_⟩
  · intro moment mem step error same
    rw [reported.step moment mem step error same]
    rfl
  · intro moment mem position failure same
    rw [reported.passedOn moment mem position failure same]
    rfl
  · intro moment mem position cause own same ownCause
    rw [reported.evaluation moment mem position cause own same ownCause]
    rfl

/-! ## What fails is listed -/

end ViewTemplate
