import ViewTemplate.Proofs.Effect
import ViewTemplate.Snippet.Evaluation

/-!
# Calls of members

A member is looked up in two ways.  Reading it looks for a field, an item or a
character (`readMember`); calling it looks for a function among the fields of an
object and then for a method (`callMember`).  Where both find a function it is the
same one, so calling a member is calling what it reads as (`call_of_reads`).

There is one kind of value of which only the first way knows all members.  An item
of an array can be read by its place and can be a function, but a call looks for no
items: it fails, and says that what was just read as a function is none.

## Main Definitions

* `Value.isArray` — whether a value is an array
-/

namespace ViewTemplate

/-- Whether a value is an array. -/
def Value.isArray : Value → Bool
  | array _ => true
  | _ => false

namespace Snippet

variable {σ ε : Type} {scope : Scope σ ε}

/-- A result that depends on no state leaves it alone. -/
theorem ofExcept_run {α : Type} (result : Except (EvalError ε) α) (state : σ) :
    (ofExcept result : Eval σ ε α).run.run state = (result, state) := by
  cases result <;> rfl

/-! ## Members that are functions -/

/-- What stands in the place that a key names is an item, or nothing stands there. -/
theorem itemAt_mem {items : List Value} {key : String} {value : Value}
    (found : itemAt items key = value) (present : value ≠ .undefined) :
    value ∈ items ∧ ∃ index, place? key = some index := by
  unfold itemAt at found
  cases named : place? key with
  | none =>
    rw [named] at found
    exact absurd found.symm present
  | some index =>
    rw [named] at found
    dsimp only at found
    cases item : items[index]? with
    | none =>
      rw [item] at found
      exact absurd found.symm present
    | some other =>
      rw [item] at found
      exact ⟨found ▸ List.mem_of_getElem? item, index, rfl⟩

/-- A character is no function. -/
theorem function_notMem_chars (callable : Callable) (text : List Char) :
    Value.function callable ∉ text.map Value.ofChar := by
  intro mem
  obtain ⟨c, -, same⟩ := List.mem_map.mp mem
  cases same

/-- A key that names a place names no method of arrays. -/
theorem callMethod?_of_place {items : List Value} {key : String} {index : Nat}
    (named : place? key = some index) (arguments : List Value) :
    callMethod? scope (.array items) key arguments = pure none := by
  have other (method : String) (unnamed : place? method = none) : key ≠ method := by
    rintro rfl
    rw [unnamed] at named
    cases named
  have plain : plainArrayMethod? items key arguments = none := by
    unfold plainArrayMethod?
    split <;> first | rfl | exact absurd rfl (other _ rfl)
  unfold callMethod? arrayMethod?
  rw [if_neg (other "toString" rfl)]
  dsimp only
  rw [if_neg (other "map" rfl), if_neg (other "filter" rfl), plain]

/-- **The call of a member that reads as a function** calls the function, unless it is an item of
an array. -/
theorem callMember_of_reads {receiver : Value} {key : String} {callable : Callable}
    (reads : readMember (ε := ε) receiver key = .ok (.function callable)) (callee : String)
    (arguments : List Value) :
    callMember scope callee receiver key arguments =
      if receiver.isArray then throw (.notAFunction callee)
      else scope.call callable arguments := by
  cases receiver with
  | undefined | null | bool | number | function => cases reads
  | string text =>
    unfold readMember at reads
    dsimp only at reads
    split at reads
    · cases reads
    · obtain ⟨mem, -⟩ := itemAt_mem (Except.ok.inj reads) nofun
      exact absurd mem (function_notMem_chars callable _)
  | array items =>
    unfold readMember at reads
    dsimp only at reads
    split at reads
    · cases reads
    · obtain ⟨-, index, named⟩ := itemAt_mem (Except.ok.inj reads) nofun
      unfold callMember callMember.ownFunction?
      dsimp only
      rw [callMethod?_of_place named]
      rfl
  | object fields =>
    unfold readMember at reads
    dsimp only at reads
    cases found : Table.get? fields key with
    | none =>
      rw [found] at reads
      dsimp only at reads
      split at reads
      · cases reads
      · cases reads
    | some value =>
      rw [found] at reads
      cases reads
      unfold callMember callMember.ownFunction?
      dsimp only
      rw [found]
      rfl

/-! ## Calls and reads -/

/-- **Calling a member calls what it reads as**, with the arguments evaluated behind the key,
whatever the receiver is and however the key is written — unless the receiver is an array.
No item of an array can be called: once the arguments are evaluated, the call fails. -/
theorem call_of_reads (scope : Scope σ ε) {span : Span} {object key : Expr}
    {computed optional : Bool} {state after : σ} {callable : Callable}
    (reads : (evaluate scope (.member span object key computed optional)).run.run state =
      (.ok (.function callable), after))
    (callSpan : Span) (arguments : List Expr) :
    ∃ receiver middle, (evaluate scope object).run.run state = (.ok receiver, middle) ∧
      (evaluate scope
          (.call callSpan (.member span object key computed optional) arguments)).run.run state =
        (do
          let values ← evaluate.evaluateAll scope arguments
          if receiver.isArray then
            throw (.notAFunction (describe (.member span object key computed optional)))
          else
            scope.call callable values : Eval σ ε Value).run.run after := by
  rw [evaluate, run_bind] at reads
  rw [evaluate, run_bind]
  generalize (evaluate scope object).run.run state = received at reads ⊢
  obtain ⟨error | receiver, middle⟩ := received
  · cases reads
  refine ⟨receiver, middle, rfl, ?_⟩
  dsimp only at reads ⊢
  cases missing : receiver.isNullish with
  | true =>
    -- A missing receiver reads as `undefined`, or else reading it fails.
    cases optional with
    | true =>
      rw [missing] at reads
      cases reads
    | false =>
      rw [Bool.false_and, if_neg (by decide), run_bind] at reads
      generalize (evaluate scope key).run.run middle = named at reads
      obtain ⟨error | name, behind⟩ := named
      · cases reads
      dsimp only at reads
      rw [ofExcept_run] at reads
      cases receiver with
      | undefined | null => cases reads
      | _ => cases missing
  | false =>
    rw [missing, Bool.and_false, if_neg (by decide), run_bind] at reads
    rw [if_neg (by decide), run_bind]
    generalize (evaluate scope key).run.run middle = named at reads ⊢
    obtain ⟨error | name, behind⟩ := named
    · cases reads
    dsimp only at reads ⊢
    rw [ofExcept_run] at reads
    obtain ⟨found, rfl⟩ := Prod.mk.inj reads
    simp only [callMember_of_reads found]

/-- A function among the fields of an object is called with its argument. -/
theorem call_of_reads_field :
    let scope := Variables.scope fun _ arguments => .ok (arguments.headD .undefined)
    let frame : Variables := { table := [("o", .object [("f", .function (.host "first"))])] }
    let member : Expr := .member ⟨0, 3⟩ (.identifier ⟨0, 1⟩ "o") (.string ⟨2, 3⟩ "f") false false
    let arguments : List Expr := [.string ⟨4, 7⟩ "a"]
    (evaluate scope member).run.run frame = (.ok (.function (.host "first")), frame) ∧
      (evaluate scope (.call ⟨0, 8⟩ member arguments)).run.run frame =
        (.ok (.string "a"), frame) := by
  intro scope frame member arguments
  have reads : (evaluate scope member).run.run frame =
      (.ok (.function (.host "first")), frame) := rfl
  obtain ⟨receiver, middle, received, called⟩ := call_of_reads scope reads ⟨0, 8⟩ arguments
  cases received
  exact ⟨reads, called⟩

/-- **A function among the items of an array cannot be called there**: `[f]['0']` is a function, and
`f('a')` has a value, but `[f]['0']('a')` fails. -/
theorem call_of_reads_item :
    let scope := Variables.scope fun _ arguments => .ok (arguments.headD .undefined)
    let frame : Variables := { table := [("f", .function (.host "first"))] }
    let function : Expr := .identifier ⟨1, 2⟩ "f"
    let member : Expr := .member ⟨0, 8⟩ (.array ⟨0, 3⟩ [function]) (.string ⟨4, 7⟩ "0") true false
    let arguments : List Expr := [.string ⟨9, 12⟩ "a"]
    (evaluate scope member).run.run frame = (evaluate scope function).run.run frame ∧
      (evaluate scope (.call ⟨0, 13⟩ function arguments)).run.run frame =
        (.ok (.string "a"), frame) ∧
      (evaluate scope (.call ⟨0, 13⟩ member arguments)).run.run frame =
        (.error (.notAFunction "expression"), frame) :=
  ⟨rfl, rfl, rfl⟩

end Snippet

end ViewTemplate
