import Mathlib.Data.List.Induction
import ViewTemplate.Proofs.Effect
import ViewTemplate.Proofs.Render.Merging
import ViewTemplate.Proofs.Yields
import ViewTemplate.Render.Execution

/-!
# Attribute sets as histories of calls

An attribute set is what the calls made on it leave behind.  This module says what
that is in terms of the calls alone.

A call touches the entry of its own name and no other, and what it makes of that
entry depends on nothing else (`AttributeSet.get?_perform`).  So the entry of a name
is found by going through the calls with that name (`AttributeSet.get?_after`), and
the calls with other names can stand between them in any way.  Of the calls with a
name only the last one that sets counts, and what was appended behind it.

## Main Definitions

* `AttributeCall`, `AttributeSet.perform` — a call and what it does
* `AttributeSet.after` — the set that a history of calls leaves
* `actionsOn` — what a history does to a name
* `LeavesEntry` — which entry the actions on a name leave

## Main Results

* `AttributeSet.get?_after_iff` — the entry of a name, from the actions on it
* `AttributeSet.after_calls` — names, entries and text of a set, from its history
* `buildAttributes_after` — the attributes of an opening tag have a history

-/

namespace ViewTemplate

/-! ## Names without repetitions -/

/-- A name behind others is left out if it is one of them. -/
theorem eraseDups_concat (names : List String) (name : String) :
    (names ++ [name]).eraseDups
      = if name ∈ names then names.eraseDups else names.eraseDups ++ [name] := by
  rw [List.eraseDups_append]
  split_ifs with known
  · simp [List.removeAll, known]
  · simp [List.removeAll, known, List.eraseDups_cons]

/-! ## Calls -/

/-- What a call does to an attribute. -/
inductive AttributeAction where
  /-- Gives it a value. -/
  | value (quote : Char) (text : String)
  /-- Makes it one without a value. -/
  | boolean
  /-- Adds to its value. -/
  | append (quote : Char) (text : String)
deriving Repr, DecidableEq

/-- A call on an attribute set. -/
structure AttributeCall where
  /-- The attribute that is named. -/
  name : String
  /-- What is done to it. -/
  action : AttributeAction
deriving Repr, DecidableEq

/-- The set behind a call. -/
def AttributeSet.perform (attributes : AttributeSet) (call : AttributeCall) : AttributeSet :=
  match call.action with
  | .value quote text => attributes.setValue call.name quote text
  | .boolean => attributes.setBoolean call.name
  | .append quote text => attributes.appendValue call.name quote text

/-- The set behind a history of calls. -/
def AttributeSet.after (calls : List AttributeCall) : AttributeSet :=
  calls.foldl AttributeSet.perform []

/-- What a history does to a name, in order. -/
def actionsOn (name : String) (calls : List AttributeCall) : List AttributeAction :=
  (calls.filter (·.name = name)).map (·.action)

/-- What an action makes of an entry. -/
def AttributeAction.entry (old : Option AttributeEntry) : AttributeAction → AttributeEntry
  | value quote text => .value quote text
  | boolean => .boolean
  | append quote text =>
    match old with
    | some (.value quote old) => .value quote (old ++ " " ++ text)
    | _ => .value quote text

/-- What actions make of an entry, one after the other. -/
def entryBehind (actions : List AttributeAction) (old : Option AttributeEntry) :
    Option AttributeEntry :=
  actions.foldl (fun entry action => some (action.entry entry)) old

theorem actionsOn_append_self {name : String} (calls : List AttributeCall)
    (action : AttributeAction) :
    actionsOn name (calls ++ [⟨name, action⟩]) = actionsOn name calls ++ [action] := by
  simp [actionsOn]

theorem actionsOn_append_other {name : String} (calls : List AttributeCall) {call : AttributeCall}
    (other : call.name ≠ name) :
    actionsOn name (calls ++ [call]) = actionsOn name calls := by
  simp [actionsOn, other]

/-! ## One call -/

namespace AttributeSet

/-- Every call sets the entry of its name to what it makes of the one before. -/
theorem perform_eq (attributes : AttributeSet) (call : AttributeCall) :
    attributes.perform call
      = Table.set attributes call.name (call.action.entry (Table.get? attributes call.name)) := by
  obtain ⟨name, action⟩ := call
  cases action with
  | value quote text => rfl
  | boolean => rfl
  | append quote text =>
    simp only [perform, appendValue, AttributeAction.entry]
    rcases Table.get? attributes name with _ | _ | _ <;> rfl

/-- **A call changes one entry**, by what that entry was. -/
theorem get?_perform (attributes : AttributeSet) (call : AttributeCall) (name : String) :
    Table.get? (attributes.perform call) name
      = if call.name = name then some (call.action.entry (Table.get? attributes name))
        else Table.get? attributes name := by
  rw [perform_eq, Table.get?_set]
  split_ifs with same
  · rw [same]
  · rfl

/-- A call brings in its name, at the end. -/
theorem names_perform (attributes : AttributeSet) (call : AttributeCall) :
    Table.names (attributes.perform call)
      = if call.name ∈ Table.names attributes then Table.names attributes
        else Table.names attributes ++ [call.name] := by
  rw [perform_eq, Table.names_set]
  simp only [Table.contains_iff_mem_names]

/-! ## Histories -/

theorem after_append (calls : List AttributeCall) (call : AttributeCall) :
    after (calls ++ [call]) = (after calls).perform call :=
  List.foldl_concat ..

/-- **The entry of a name** is what the actions on that name make, one after the
other. -/
theorem get?_after (calls : List AttributeCall) (name : String) :
    Table.get? (after calls) name = entryBehind (actionsOn name calls) none := by
  induction calls using List.reverseRecOn with
  | nil => rfl
  | append_singleton calls call ih =>
    rw [after_append, get?_perform]
    split_ifs with same
    · obtain ⟨_, action⟩ := call
      subst same
      rw [actionsOn_append_self, entryBehind, List.foldl_concat, ih]
      rfl
    · rw [actionsOn_append_other calls same, ih]

/-- **Names stand in the order in which they were first named.** -/
theorem names_after (calls : List AttributeCall) :
    Table.names (after calls) = (calls.map (·.name)).eraseDups := by
  induction calls using List.reverseRecOn with
  | nil => rfl
  | append_singleton calls call ih =>
    rw [after_append, names_perform, ih, List.map_append, List.map_singleton, eraseDups_concat]
    simp only [List.mem_eraseDups]

/-- No name stands twice. -/
theorem nodup_names_after (calls : List AttributeCall) : (Table.names (after calls)).Nodup := by
  induction calls using List.reverseRecOn with
  | nil => exact List.nodup_nil
  | append_singleton calls call ih =>
    rw [after_append, perform_eq]
    exact Table.nodup_names_set ih _ _

/-- Attributes with distinct names are written name by name. -/
theorem text_eq {attributes : AttributeSet} (distinct : (Table.names attributes).Nodup) :
    attributes.text
      = String.join ((Table.names attributes).map fun name =>
          " " ++ name ++ ((Table.get? attributes name).elim "" AttributeEntry.text)) := by
  rw [text, Table.names, List.map_map]
  refine congrArg String.join (List.map_congr_left fun entry member => ?_)
  rw [Function.comp_apply, Table.get?_of_mem distinct member]
  rfl

end AttributeSet

/-! ## The entry that actions leave -/

/-- The entry that a value and the texts added to it make; if there is none of them, it is
what was there without a value. -/
def joinedEntry (otherwise : Option AttributeEntry) :
    List (Char × String) → Option AttributeEntry
  | [] => otherwise
  | (quote, text) :: more => some (.value quote (" ".intercalate (text :: more.map (·.2))))

/-- Texts that are added with a quote each, as actions. -/
def appendActions (added : List (Char × String)) : List AttributeAction :=
  added.map fun (quote, text) => .append quote text

/-- **Which entry the actions on a name leave.**  Of the actions that set it the last one
counts, with the texts added behind it, each behind a space.  A text added to what is not
there or has no value is its value. -/
inductive LeavesEntry : List AttributeAction → Option AttributeEntry → Prop where
  /-- It was never set. -/
  | unset (added : List (Char × String)) :
    LeavesEntry (appendActions added) (joinedEntry none added)
  /-- It was last set to a value. -/
  | value (earlier : List AttributeAction) (quote : Char) (text : String)
    (added : List (Char × String)) :
    LeavesEntry (earlier ++ .value quote text :: appendActions added)
      (joinedEntry none ((quote, text) :: added))
  /-- It was last made one without a value. -/
  | boolean (earlier : List AttributeAction) (added : List (Char × String)) :
    LeavesEntry (earlier ++ .boolean :: appendActions added) (joinedEntry (some .boolean) added)

theorem appendActions_concat (added : List (Char × String)) (quote : Char) (text : String) :
    appendActions (added ++ [(quote, text)]) = appendActions added ++ [.append quote text] :=
  List.map_append

/-- Whatever is done to a name leaves something. -/
theorem LeavesEntry.exists (actions : List AttributeAction) : ∃ entry, LeavesEntry actions entry := by
  induction actions using List.reverseRecOn with
  | nil => exact ⟨_, .unset []⟩
  | append_singleton actions action ih =>
    cases action with
    | value quote text => exact ⟨_, .value actions quote text []⟩
    | boolean => exact ⟨_, .boolean actions []⟩
    | append quote text =>
      obtain ⟨_, left⟩ := ih
      cases left with
      | unset added =>
        rw [← appendActions_concat]
        exact ⟨_, .unset _⟩
      | value earlier quote' text' added =>
        rw [List.append_assoc, List.cons_append, ← appendActions_concat]
        exact ⟨_, .value ..⟩
      | boolean earlier added =>
        rw [List.append_assoc, List.cons_append, ← appendActions_concat]
        exact ⟨_, .boolean ..⟩

/-- Texts are added to a value. -/
theorem entryBehind_value (added : List (Char × String)) (quote : Char) (text : String) :
    entryBehind (appendActions added) (some (.value quote text))
      = joinedEntry none ((quote, text) :: added) := by
  induction added generalizing text with
  | nil => rfl
  | cons first rest ih => exact ih _

/-- The first text that is added to what has no value is its value. -/
theorem entryBehind_other (added : List (Char × String)) {old : Option AttributeEntry}
    (other : ∀ quote text, old ≠ some (.value quote text)) :
    entryBehind (appendActions added) old = joinedEntry old added := by
  cases added with
  | nil => rfl
  | cons first rest =>
    obtain ⟨quote, text⟩ := first
    have given : (AttributeAction.append quote text).entry old = .value quote text := by
      rcases old with _ | _ | ⟨quote', text'⟩
      · rfl
      · rfl
      · exact absurd rfl (other quote' text')
    exact (congrArg (fun entry => entryBehind (appendActions rest) (some entry)) given).trans
      (entryBehind_value rest quote text)

/-- Nothing before an action that sets the entry matters. -/
theorem entryBehind_set (earlier rest : List AttributeAction) {action : AttributeAction}
    {entry : AttributeEntry} (sets : ∀ old, action.entry old = entry)
    (old : Option AttributeEntry) :
    entryBehind (earlier ++ action :: rest) old = entryBehind rest (some entry) := by
  rw [entryBehind, List.foldl_append, List.foldl_cons, sets]
  rfl

/-- What actions leave is what they make, one after the other, of nothing. -/
theorem LeavesEntry.entryBehind_eq {actions : List AttributeAction} {entry : Option AttributeEntry}
    (left : LeavesEntry actions entry) : entryBehind actions none = entry := by
  cases left with
  | unset added => exact entryBehind_other added nofun
  | value earlier quote text added =>
    rw [entryBehind_set earlier _ fun _ => rfl]
    exact entryBehind_value added quote text
  | boolean earlier added =>
    rw [entryBehind_set earlier _ fun _ => rfl]
    exact entryBehind_other added nofun

/-- **The entry of a name** is what the actions on it leave. -/
theorem AttributeSet.get?_after_iff {calls : List AttributeCall} {name : String}
    {entry : Option AttributeEntry} :
    Table.get? (AttributeSet.after calls) name = entry ↔ LeavesEntry (actionsOn name calls) entry := by
  obtain ⟨found, left⟩ := LeavesEntry.exists (actionsOn name calls)
  rw [AttributeSet.get?_after]
  constructor
  · rintro rfl
    rwa [left.entryBehind_eq]
  · exact LeavesEntry.entryBehind_eq

/-! ## What is written -/

/-- **Attribute sets.**  Whatever calls are made, the set lists every name that was named
once, in the order of the first calls that name them, and it is written as these names
with their entries, each behind one space, so as nothing exactly if there were no calls.
The entry of a name is what the actions on that name leave.  So two histories that do the
same to every name leave the same entry of each, however the calls on different names are
mixed. -/
theorem AttributeSet.after_calls (calls : List AttributeCall) :
    Table.names (AttributeSet.after calls) = (calls.map (·.name)).eraseDups
      ∧ (Table.names (AttributeSet.after calls)).Nodup
      ∧ (AttributeSet.after calls).text
          = String.join ((calls.map (·.name)).eraseDups.map fun name =>
              " " ++ name
                ++ (Table.get? (AttributeSet.after calls) name).elim "" AttributeEntry.text)
      ∧ ((AttributeSet.after calls).text = "" ↔ calls = [])
      ∧ (∀ name entry, Table.get? (AttributeSet.after calls) name = entry
          ↔ LeavesEntry (actionsOn name calls) entry)
      ∧ ∀ others : List AttributeCall,
          (∀ name, actionsOn name others = actionsOn name calls) →
            ∀ name, Table.get? (AttributeSet.after others) name
              = Table.get? (AttributeSet.after calls) name := by
  have written := AttributeSet.text_eq (AttributeSet.nodup_names_after calls)
  rw [AttributeSet.names_after] at written
  refine ⟨AttributeSet.names_after calls, AttributeSet.nodup_names_after calls, written, ?_,
    fun _ _ => AttributeSet.get?_after_iff, fun others same name => ?_⟩
  · constructor
    · intro empty
      cases calls with
      | nil => rfl
      | cons call calls =>
        rw [written, List.map_cons, List.eraseDups_cons, List.map_cons, String.join_cons] at empty
        simp at empty
    · rintro rfl
      rfl
  · rw [AttributeSet.get?_after, AttributeSet.get?_after, same]

/-- Two histories of two names that differ in how the calls are mixed. -/
theorem AttributeSet.after_calls_mixed :
    (∀ name, actionsOn name
        [⟨"hidden", .boolean⟩, ⟨"class", .value '"' "btn"⟩, ⟨"class", .append '\x27' "active"⟩]
      = actionsOn name
        [⟨"class", .value '"' "btn"⟩, ⟨"hidden", .boolean⟩, ⟨"class", .append '\x27' "active"⟩])
      ∧ Table.get? (AttributeSet.after
          [⟨"hidden", .boolean⟩, ⟨"class", .value '"' "btn"⟩,
            ⟨"class", .append '\x27' "active"⟩]) "class"
        = some (.value '"' "btn active") := by
  have same : ∀ name, actionsOn name
        [⟨"hidden", .boolean⟩, ⟨"class", .value '"' "btn"⟩, ⟨"class", .append '\x27' "active"⟩]
      = actionsOn name
        [⟨"class", .value '"' "btn"⟩, ⟨"hidden", .boolean⟩,
          ⟨"class", .append '\x27' "active"⟩] := by
    intro name
    by_cases first : "class" = name
    · subst first
      rfl
    · simp [actionsOn, List.filter_cons, first]
  refine ⟨same, ?_⟩
  obtain ⟨-, -, -, -, left, mixed⟩ := AttributeSet.after_calls
    [⟨"class", .value '"' "btn"⟩, ⟨"hidden", .boolean⟩, ⟨"class", .append '\x27' "active"⟩]
  rw [mixed _ same]
  exact (left "class" _).2 (.value [] '"' "btn" [('\x27', "active")])

/-! ## Opening tags -/

/-- The attribute that a step names. -/
def AttributeStep.name : AttributeStep → String
  | plain name _ | bound name _ _ | conditional name _ | append name _ _ _ => name

/-- The attributes that a run returns, if it returns, have a history: calls that were made
on those it was given, by steps in their order, each step at most once. -/
def HasHistory (attributes : AttributeSet) (steps : List AttributeStep)
    (run : Except RenderError AttributeSet × RenderState) : Prop :=
  Yields run.1 fun built => ∃ calls : List AttributeCall,
    (calls.map (·.name)).Sublist (steps.map AttributeStep.name)
      ∧ built = calls.foldl AttributeSet.perform attributes

namespace HasHistory

variable {attributes : AttributeSet} {step : AttributeStep} {rest : List AttributeStep}
  {run : Except RenderError AttributeSet × RenderState}

/-- What is evaluated before a call is made is no part of the history. -/
theorem bind {α : Type} {action : Render α} {next : α → Render AttributeSet} {state : RenderState}
    (h : ∀ value after, HasHistory attributes rest ((next value).run.run after)) :
    HasHistory attributes rest ((action >>= next).run.run state) := by
  rw [run_bind]
  split
  · exact h _ _
  · exact nofun

/-- A step that makes no call. -/
theorem skip (h : HasHistory attributes rest run) : HasHistory attributes (step :: rest) run :=
  h.mono fun _ ⟨calls, order, same⟩ => ⟨calls, order.cons _, same⟩

/-- A step that makes a call. -/
theorem call (action : AttributeAction)
    (h : HasHistory (attributes.perform ⟨step.name, action⟩) rest run) :
    HasHistory attributes (step :: rest) run :=
  h.mono fun _ ⟨calls, order, same⟩ => ⟨⟨step.name, action⟩ :: calls, order.cons_cons _, same⟩

end HasHistory

/-- **The attributes of an opening tag** are what calls leave that its steps made. -/
theorem buildAttributes_after (environment : Environment) (calls : Calls)
    (steps : List AttributeStep) (attributes : AttributeSet) (state : RenderState) :
    HasHistory attributes steps
      ((buildAttributes environment calls attributes steps).run.run state) := by
  induction steps generalizing attributes state with
  | nil => exact .pure ⟨[], List.Sublist.refl _, rfl⟩
  | cons step rest ih =>
    cases step with
    | plain name value =>
      cases value with
      | none => exact .call .boolean (ih _ _)
      | some value =>
        obtain ⟨quote, parts⟩ := value
        exact .bind fun text _ => .call (.value quote text) (ih _ _)
    | bound name quote expression =>
      exact .bind fun value _ => .call (.value quote value.text) (ih _ _)
    | conditional name condition =>
      refine .bind fun value _ => ?_
      split
      · exact .call .boolean (ih _ _)
      · exact .skip (ih _ _)
    | append name quote suffix condition =>
      refine .bind fun value _ => ?_
      split
      · exact .call (.append quote suffix) (ih _ _)
      · exact .skip (ih _ _)

end ViewTemplate
