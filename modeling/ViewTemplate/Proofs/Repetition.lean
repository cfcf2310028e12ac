import Mathlib.Logic.Basic

/-!
# Loops that repeat a turn

A loop that counts its turns down hides what a single turn does: the recursive call stands
somewhere inside it.  Here the turn is a computation of its own, which says whether the loop
goes on, and the loop is the turn loopOf (`loopOf`).  That a loop ends is then a
statement about one turn.

## Main Definitions

* `LoopTurn` — what a turn decides
* `loopOf` — a turn over and over, for some number of times at most

-/

namespace ViewTemplate

/-- What a turn of a loop decides. -/
inductive LoopTurn (σ α : Type) where
  /-- The loop goes on in a state, and what the rest of it returns is changed. -/
  | goesOn (state : σ) (change : α → α)
  /-- The loop ends with a result. -/
  | ends (result : α)

/-- What is true of a turn with which the loop goes on, and of one with which it ends. -/
def LoopTurn.Holds {σ α : Type} (more done : Prop) : LoopTurn σ α → Prop
  | goesOn _ _ => more
  | ends _ => done

variable {m : Type → Type} [Monad m] {σ α : Type}

/-- **A repeated turn**, up to a number of times; what is left then is `stopped`. -/
def loopOf (stopped : m α) (turn : σ → m (LoopTurn σ α)) : (turns : Nat) → σ → m α
  | 0, _ => stopped
  | turns + 1, state => do
    match ← turn state with
    | .goesOn next change => return change (← loopOf stopped turn turns next)
    | .ends result => return result

/-- What follows a choice follows either side of it. -/
theorem ite_bind {α β : Type} (condition : Prop) [Decidable condition] (first second : m α)
    (next : α → m β) : ((if condition then first else second) >>= next)
      = if condition then first >>= next else second >>= next := by
  split
  · rfl
  · rfl

/-- A loop is a repeated turn if it stops where there are no turns left, and else takes
one turn and the rest of the loop. -/
theorem eq_loopOf {stopped : m α} {turn : σ → m (LoopTurn σ α)} {loop : Nat → σ → m α}
    (zero : ∀ state, loop 0 state = stopped)
    (succ : ∀ turns state, loop (turns + 1) state = (do
      match ← turn state with
      | .goesOn next change => return change (← loop turns next)
      | .ends result => return result)) :
    loop = loopOf stopped turn := by
  funext turns
  induction turns with
  | zero =>
    funext state
    exact zero state
  | succ turns ih =>
    funext state
    rw [succ, loopOf, ih]

end ViewTemplate
