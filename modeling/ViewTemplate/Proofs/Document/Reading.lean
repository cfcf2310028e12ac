import ViewTemplate.Proofs.Document.Shape
import ViewTemplate.Proofs.Yields

/-!
# Documents that are read are formed

Each production of the grammar builds formed nodes, if the reader of the nodes
inside does.  A production takes that reader as an argument, so there is one
statement for each of them, and the induction over the depth of nesting comes last
(`node_reads`).

What a reader leaves unread does not matter here, so a statement about a reader
speaks of its results from any text at all (`Reads`).

## Main Definitions

* `Reads` — whatever a reader returns, from any text, has a property

-/

namespace ViewTemplate.Document

open Template

variable {α β : Type}

/-- **Whatever a reader returns**, with any settings and from any text, has a
property. -/
def Reads (reader : Reader α) (property : α → Prop) : Prop :=
  ∀ lexicon cursor, Yields ((reader.run lexicon).run cursor) fun result => property result.1

namespace Reads

variable {property : α → Prop} {property' : β → Prop}

theorem pure {value : α} (h : property value) : Reads (Pure.pure value) property :=
  fun _ _ => .pure h

/-- Of a part whose result does not matter nothing has to be known. -/
theorem any (reader : Reader α) : Reads reader fun _ => True :=
  fun _ _ _ _ => trivial

/-- **Sequences.**  What follows may use what the first part returned. -/
theorem bind {reader : Reader α} {next : α → Reader β} (first : Reads reader property)
    (rest : ∀ value, property value → Reads (next value) property') :
    Reads (reader >>= next) property' :=
  fun lexicon cursor => (first lexicon cursor).bind fun result h => rest result.1 h lexicon result.2

/-- A sequence whose first part returns something that does not matter. -/
theorem after {reader : Reader α} {next : α → Reader β}
    (rest : ∀ value, Reads (next value) property') : Reads (reader >>= next) property' :=
  (any reader).bind fun value _ => rest value

/-- A sequence whose first part only gives a value. -/
theorem given {value : α} {next : α → Reader β} (rest : Reads (next value) property') :
    Reads (Pure.pure value >>= next) property' :=
  rest

/-- A part that may be left out before the rest. -/
theorem optional {condition : Prop} [Decidable condition] {next longer : Reader α}
    (rest : Reads next property) (before : Reads next property → Reads longer property) :
    Reads (if condition then longer else next) property := by
  split
  · exact before rest
  · exact rest

theorem failAt (position : Position) (fault : ParseFault) :
    Reads (Document.failAt position fault) property :=
  fun _ _ => .throw _

theorem failHere (fault : ParseFault) : Reads (Document.failHere fault) property :=
  .after fun position => .failAt position fault

theorem failUnexpected : Reads Document.failUnexpected property := by
  refine .after fun next => ?_
  cases next with
  | none => exact .failHere _
  | some token => exact .failAt _ _

end Reads

/-! ## Bodies of blocks -/

variable {nested : Reader Node}

theorem nodesBefore_reads (inner : Reads nested (Node.Formed .body)) (kind : TokenKind)
    (turns : Nat) : Reads (nodesBefore nested kind turns) Node.FormedAll := by
  induction turns with
  | zero => exact .failHere _
  | succ turns ih =>
    refine .after fun seen => ?_
    split
    · exact .pure .nil
    · refine .bind inner fun node first => ?_
      exact .bind ih fun nodes rest => .pure (.cons first rest)

theorem blockBody_reads (inner : Reads nested (Node.Formed .body)) :
    Reads (blockBody nested) Node.FormedAll := by
  refine .after fun turns => .bind (nodesBefore_reads inner _ turns) fun nodes formed => ?_
  exact .after fun _ => .after fun _ => .pure formed

theorem blockRest_reads (inner : Reads nested (Node.Formed .body)) :
    Reads (blockRest nested) Node.FormedAll :=
  .after fun _ => blockBody_reads inner

theorem branch_reads (inner : Reads nested (Node.Formed .body)) (opener : TokenKind) :
    Reads (branch nested opener) fun found => Node.FormedAll found.children := by
  refine .after fun token => .after fun condition => ?_
  exact .bind (blockRest_reads inner) fun children formed => .pure formed

/-! ## Blocks -/

theorem scopeBlock_reads (inner : Reads nested (Node.Formed .body)) :
    Reads (scopeBlock nested) (Node.Formed .body) := by
  refine .after fun token => .bind (blockRest_reads inner) fun children formed => .pure ?_
  exact .of_children trivial trivial formed rfl

/-- A name that is not among others that differ. -/
theorem nodup_append_fresh {names : List String} {name : String} (distinct : names.Nodup)
    (fresh : ¬names.contains name = true) : (names ++ [name]).Nodup := by
  rw [← List.concat_eq_append]
  refine List.Nodup.concat ?_ distinct
  intro known
  exact fresh (List.contains_iff_mem.2 known)

/-- The parameters read so far differ, and a further one differs from them. -/
theorem blockParameters_reads (quote : TokenKind) (turns : Nat) {names : List String}
    (distinct : names.Nodup) : Reads (blockParameters quote turns names) List.Nodup := by
  induction turns generalizing names with
  | zero => exact .failHere _
  | succ turns ih =>
    refine .after fun _ => .after fun closed => ?_
    split
    · exact .pure distinct
    · refine .optional ?_ fun rest => .after fun _ => .after fun _ => rest
      refine .after fun position => .after fun name => ?_
      split
      · exact .failAt _ _
      · rename_i fresh
        exact ih (nodup_append_fresh distinct fresh)

theorem parameterList_reads : Reads parameterList List.Nodup := by
  refine .after fun _ => .after fun _ => .after fun _ => .after fun _ => .after fun quote => ?_
  refine .after fun turns => .bind (blockParameters_reads quote turns List.nodup_nil) ?_
  intro names distinct
  split
  · exact .failHere _
  · exact .after fun _ => .pure distinct

theorem printBlock_reads (inner : Reads nested (Node.Formed .body)) :
    Reads (printBlock nested) (Node.Formed .body) := by
  refine .after fun token => .after fun expression => .after fun _ => .after fun seen => ?_
  split
  · refine .bind parameterList_reads fun parameters distinct => .after fun _ => ?_
    refine .bind (blockBody_reads inner) fun children formed => .pure ?_
    exact .of_children trivial distinct formed rfl
  · refine .after fun closed => ?_
    split
    · exact .after fun _ => .pure (.of_leaf trivial trivial rfl rfl)
    · refine .after fun _ => .bind (blockBody_reads inner) fun children formed => .pure ?_
      exact .of_children trivial List.nodup_nil formed rfl

/-- The place of the branch behind a block that admits else-if branches or not. -/
def alternatePlace (admitsElseIf : Bool) : Place :=
  if admitsElseIf then .branch else .fallback

/-- A branch that follows a block can stand where it does, and so can the one that
follows it. -/
theorem alternate_reads (inner : Reads nested (Node.Formed .body)) (admitsElseIf : Bool)
    (turns : Nat) :
    Reads (alternate nested admitsElseIf turns) fun next =>
      ∀ node ∈ next, node.Formed (alternatePlace admitsElseIf) := by
  induction turns generalizing admitsElseIf with
  | zero => exact .failHere _
  | succ turns ih =>
    refine .after fun kind => ?_
    split
    · exact .after fun _ => ih admitsElseIf
    · exact .after fun _ => ih admitsElseIf
    · split
      · rename_i admits
        subst admits
        refine .bind (branch_reads inner _) fun found formed => ?_
        refine .bind (ih true) fun next follows => .pure ?_
        rintro _ ⟨⟩
        exact .intro trivial trivial formed follows
      · exact .pure nofun
    · refine .after fun token => .bind (blockRest_reads inner) fun children formed => .pure ?_
      rintro _ ⟨⟩
      refine .of_children ?_ trivial formed rfl
      cases admitsElseIf <;> trivial
    · exact .pure nofun

theorem conditionalBlock_reads (inner : Reads nested (Node.Formed .body)) :
    Reads (conditionalBlock nested) (Node.Formed .body) := by
  refine .bind (branch_reads inner _) fun found formed => .after fun turns => ?_
  refine .bind (alternate_reads inner true turns) fun next follows => .pure ?_
  exact .intro trivial trivial formed follows

/-- The nodes of all cases and of the default case are formed. -/
structure Cases.Formed (found : Cases) : Prop where
  cases : ∀ case ∈ found.cases, Node.FormedAll case.children
  fallback : Node.FormedAll (found.fallback.elim [] (·.2))

theorem switchCases_reads (inner : Reads nested (Node.Formed .body)) (turns : Nat)
    {found : Cases} (formed : found.Formed) :
    Reads (switchCases nested turns found) Cases.Formed := by
  induction turns generalizing found with
  | zero => exact .failHere _
  | succ turns ih =>
    refine .after fun kind => ?_
    split
    · exact .failHere _
    · exact .pure formed
    · exact .after fun _ => ih formed
    · exact .after fun _ => ih formed
    · refine .bind (branch_reads inner _) fun case inside => ih ?_
      exact
        { cases := List.forall_mem_append.2
            ⟨formed.cases, List.forall_mem_singleton.2 inside⟩
          fallback := formed.fallback }
    · split
      · exact .failHere _
      · refine .after fun token => .bind (blockRest_reads inner) fun children inside => ih ?_
        exact { cases := formed.cases, fallback := inside }
    · exact .failUnexpected

theorem switchBlock_reads (inner : Reads nested (Node.Formed .body)) :
    Reads (switchBlock nested) (Node.Formed .body) := by
  refine .after fun token => .after fun expression => .after fun _ => .after fun turns => ?_
  have none : Cases.Formed {} := { cases := nofun, fallback := .nil }
  refine .bind (switchCases_reads inner turns none) fun found formed => ?_
  refine .after fun _ => .after fun _ => .pure ?_
  refine .of_children trivial trivial (List.forall_mem_append.2 ⟨?_, formed.fallback⟩) rfl
  intro child mem
  obtain ⟨case, inside, within⟩ := List.mem_flatMap.1 mem
  exact formed.cases case inside child within

/-- The names read so far are at most two and differ; a further one is added only
if that stays so. -/
theorem loopNames_reads (turns : Nat) {names : List String} (distinct : names.Nodup)
    (few : names.length ≤ 2) :
    Reads (loopNames turns names) fun names =>
      (names.length = 1 ∨ names.length = 2) ∧ names.Nodup := by
  induction turns generalizing names with
  | zero => exact .failHere _
  | succ turns ih =>
    refine .optional ?_ fun rest => .after fun _ => rest
    refine .after fun _ => .after fun position => .after fun name => ?_
    split
    · exact .failAt _ _
    · rename_i fresh
      have longer : (names ++ [name]).Nodup := nodup_append_fresh distinct fresh
      split
      · exact .failAt _ _
      · rename_i room
        have length : (names ++ [name]).length = names.length + 1 := List.length_append
        refine .after fun _ => .after fun comma => ?_
        split
        · exact ih longer (by omega)
        · exact .pure ⟨by omega, longer⟩

theorem foreachBlock_reads (inner : Reads nested (Node.Formed .body)) :
    Reads (foreachBlock nested) (Node.Formed .body) := by
  refine .after fun token => .after fun _ => .after fun _ => .after fun _ => .after fun quote => ?_
  refine .after fun turns => .bind (loopNames_reads turns List.nodup_nil (Nat.zero_le 2)) ?_
  intro names few
  refine .after fun _ => .after fun _ => .after fun position => .after fun text => ?_
  refine .after fun collection => .bind (blockRest_reads inner) fun children formed => ?_
  refine .after fun turns => .bind (alternate_reads inner false turns) fun next follows => .pure ?_
  exact .intro trivial few formed follows

theorem loopBlock_reads (inner : Reads nested (Node.Formed .body)) :
    Reads (loopBlock nested) (Node.Formed .body) := by
  refine .bind (branch_reads inner _) fun found formed => .pure ?_
  exact .of_children trivial trivial formed rfl

theorem renderBlock_reads : Reads renderBlock (Node.Formed .body) := by
  refine .after fun token => .after fun path => .after fun _ => .after fun seen => ?_
  split
  · exact .after fun context => .after fun _ => .pure (.of_leaf trivial trivial rfl rfl)
  · exact .after fun _ => .pure (.of_leaf trivial trivial rfl rfl)

theorem contentForBlock_reads (inner : Reads nested (Node.Formed .body)) :
    Reads (contentForBlock nested) (Node.Formed .body) := by
  refine .after fun token => .after fun slot => ?_
  refine .bind (blockRest_reads inner) fun children formed => .pure ?_
  exact .of_children trivial trivial formed rfl

theorem layoutBlock_reads :
    Reads layoutBlock fun node => ∃ position path, node = .layout position path := by
  refine .after fun token => .after fun path => .after fun _ => .pure ?_
  exact ⟨token.position, path, rfl⟩

/-! ## Nodes without others inside -/

theorem renderContentBlock_reads : Reads renderContentBlock (Node.Formed .body) := by
  refine .after fun token => .after fun _ => .after fun seen => ?_
  split
  · exact .after fun slot => .after fun _ => .pure (.of_leaf trivial trivial rfl rfl)
  · exact .after fun slot => .after fun _ => .pure (.of_leaf trivial trivial rfl rfl)

theorem commentSpan_reads : Reads commentSpan (Node.Formed .body) :=
  .after fun _ => .after fun _ => .pure (.of_leaf trivial trivial rfl rfl)

theorem actionSpan_reads : Reads actionSpan (Node.Formed .body) :=
  .after fun _ => .after fun _ => .after fun _ => .pure (.of_leaf trivial trivial rfl rfl)

theorem printSpan_reads : Reads printSpan (Node.Formed .body) := by
  refine .after fun token => .after fun span => .after fun action => ?_
  split
  · exact .failAt _ _
  · exact .pure (.of_leaf trivial trivial rfl rfl)

theorem commentMarkup_reads : Reads commentMarkup (Node.Formed .body) :=
  .after fun _ => .after fun _ => .pure (.of_leaf trivial trivial rfl rfl)

theorem cdataMarkup_reads : Reads cdataMarkup (Node.Formed .body) :=
  .after fun _ => .after fun _ => .pure (.of_leaf trivial trivial rfl rfl)

theorem doctypeMarkup_reads : Reads doctypeMarkup (Node.Formed .body) := by
  refine .after fun token => .after fun _ => .after fun word => ?_
  split
  · exact .after fun _ => .pure (.of_leaf trivial trivial rfl rfl)
  · exact .failAt _ _

theorem textRun_reads : Reads textRun (Node.Formed .body) :=
  .after fun _ => .after fun _ => .pure (.of_leaf trivial trivial rfl rfl)

theorem spaceRun_reads : Reads spaceRun (Node.Formed .body) :=
  .after fun _ => .pure (.of_leaf trivial trivial rfl rfl)

theorem textOrUnknown_reads : Reads textOrUnknown (Node.Formed .body) := by
  refine .after fun lexicon => .after fun next => ?_
  split
  · split
    · exact .failAt _ _
    · exact textRun_reads
  · exact textRun_reads

/-! ## Elements -/

theorem rawText_reads (tagName : String) :
    Reads (rawText tagName) fun node => ∃ position text, node = .text position text :=
  .after fun position => .after fun text => .pure ⟨position, text, rfl⟩

/-- The nodes in an element are formed, and in a script or a style there is one,
a text. -/
theorem elementContent_reads (inner : Reads nested (Node.Formed .body)) (tagName : String) :
    Reads (elementContent nested tagName) fun children =>
      Node.FormedAll children ∧ (tagName = "script" ∨ tagName = "style" →
        ∃ position text, children = [.text position text]) := by
  rw [elementContent]
  split
  · refine .bind (rawText_reads tagName) fun node found => .pure ?_
    obtain ⟨position, text, rfl⟩ := found
    have leaf : Node.Formed .body (.text position text) := .of_leaf trivial trivial rfl rfl
    exact ⟨.cons leaf .nil, fun _ => ⟨position, text, rfl⟩⟩
  · rename_i notRaw
    refine .after fun turns => ?_
    refine fun lexicon cursor => (nodesBefore_reads inner _ turns lexicon cursor).mono ?_
    intro result formed
    refine ⟨formed, fun raw => absurd ?_ notRaw⟩
    rcases raw with rfl | rfl <;> decide

/-- A script or a style has content. -/
theorem not_isVoidElement_of_raw {tagName : String} (raw : tagName = "script" ∨ tagName = "style") :
    isVoidElement tagName = false := by
  rcases raw with rfl | rfl <;> decide

theorem element_reads (inner : Reads nested (Node.Formed .body)) :
    Reads (element nested) (Node.Formed .body) := by
  refine .after fun token => .after fun _ => .after fun turns => .after fun attributes => ?_
  refine .after fun isSelfClosing => .after fun _ => ?_
  generalize token.tagName.getD "" = tagName
  split
  · rename_i closed
    refine .pure (.of_leaf trivial ⟨rfl, fun _ => rfl, fun opened raw => ?_⟩ rfl rfl)
    dsimp only at opened
    rw [not_isVoidElement_of_raw raw, opened] at closed
    exact absurd closed (by decide)
  · rename_i opened
    refine .bind (elementContent_reads inner tagName) fun children content => .after fun _ => ?_
    refine .pure (.of_children trivial ⟨rfl, fun closed => ?_, fun _ => content.2⟩ content.1 rfl)
    exact absurd (Bool.or_eq_true_iff.2 closed) opened

/-! ## Nodes and documents -/

theorem nodeWith_reads (inner : Reads nested (Node.Formed .body)) :
    Reads (nodeWith nested) (Node.Formed .body) := by
  refine .after fun kind => ?_
  cases kind with
  | none => exact .failHere _
  | some kind =>
    cases kind with
    | scope => exact scopeBlock_reads inner
    | print => exact printBlock_reads inner
    | ifBlock => exact conditionalBlock_reads inner
    | switch => exact switchBlock_reads inner
    | foreach => exact foreachBlock_reads inner
    | whileBlock => exact loopBlock_reads inner
    | render => exact renderBlock_reads
    | renderContent => exact renderContentBlock_reads
    | contentFor => exact contentForBlock_reads inner
    | layout => exact .failHere _
    | expressionStart => exact actionSpan_reads
    | printExpressionStart => exact printSpan_reads
    | commentExpressionStart => exact commentSpan_reads
    | commentStart => exact commentMarkup_reads
    | cdataStart => exact cdataMarkup_reads
    | doctype => exact doctypeMarkup_reads
    | elementStart => exact element_reads inner
    | whitespace => exact spaceRun_reads
    | elseIf | elseBlock | case | defaultCase | blockClosingStart | expressionEnd |
      elementClosingStart => exact .failUnexpected
    | _ => exact textOrUnknown_reads

/-- **Nodes.**  A node that is read is formed, by induction on the depth to which
others can be nested in it. -/
theorem node_reads (depth : Nat) : Reads (node depth) (Node.Formed .body) := by
  induction depth with
  | zero => exact .failHere _
  | succ depth ih => exact nodeWith_reads ih

theorem nodesToEnd_reads (inner : Reads nested (Node.Formed .body)) (turns : Nat) :
    Reads (nodesToEnd nested turns) Node.FormedAll := by
  induction turns with
  | zero => exact .failHere _
  | succ turns ih =>
    refine .after fun kind => ?_
    split
    · exact .pure .nil
    · refine .bind inner fun node first => ?_
      exact .bind ih fun nodes rest => .pure (.cons first rest)

theorem document_reads : Reads document Document.Formed := by
  refine .after fun declares => ?_
  split
  · refine .bind layoutBlock_reads fun node found => ?_
    obtain ⟨position, path, rfl⟩ := found
    refine .given (.after fun depth => .after fun turns => ?_)
    exact .bind (nodesToEnd_reads (node_reads depth) turns) fun nodes formed =>
      .pure (.layout formed)
  · refine .given (.after fun depth => .after fun turns => ?_)
    exact .bind (nodesToEnd_reads (node_reads depth) turns) fun nodes formed =>
      .pure (.plain formed)

/-- **Documents that are read are formed.** -/
theorem parse_formed {options : LexicalOptions} {source : String} {document : Document}
    (parsed : parse options source = .ok document) : document.Formed := by
  rw [parse] at parsed
  cases valid : options.validate with
  | error fault =>
    rw [valid] at parsed
    cases parsed
  | ok _ =>
    rw [valid] at parsed
    exact Yields.map Prod.fst (document_reads _ _) document parsed

end ViewTemplate.Document
