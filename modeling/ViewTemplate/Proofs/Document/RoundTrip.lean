import ViewTemplate.Proofs.Document.Productions
import ViewTemplate.Proofs.Snippet.Ending

/-!
# Parsing undoes writing

A document that can be written is read back from its text, up to positions, if no print
block in it repeats a parameter.

A node is recovered wherever something stands behind it that is not taken for a part of
it (`Precedes`).  What the next node begins with decides that (`StartsWith`), so nodes
side by side are recovered one after the other.  How deep nodes are nested is bounded by
the length of the text: whatever stands inside a node has a shorter text than the node,
so a reader that goes as deep as its text is long goes deep enough (`recoverable`).

## Main Definitions

* `StartsWith` — what the writing of a node begins with
* `Precedes` — what may stand behind a node
* `Restored` — a node is recovered whatever may follow it
* `Recoverable` — the same of a branch or a node at a place, deep enough

## Main Results

* `nodeWith_recovers` — a node is recovered if those in it are
* `recoverable` — every node that can be written is recovered
* `Document.parse_written` — so is every document without repeated parameters

-/

namespace ViewTemplate

namespace Document

open Template Text Writing

variable {wording : Wording} {nested : Reader Node} {children : List Node} {rest : List Char}

/-! ## What a written node begins with -/

/-- The kinds of tokens that the writing of a node begins with. -/
def StartsWith : Node → TokenKind → Prop
  | .text .., kind => kind ∈ [.letters, .inKeyword, .ofKeyword, .numbers, .unknown]
  | .element .., kind => kind = .elementStart
  | .scope .., kind => kind = .scope
  | .print .., kind => kind = .print
  | .conditional .., kind => kind = .ifBlock
  | .switch .., kind => kind = .switch
  | .foreach .., kind => kind = .foreach
  | .loop .., kind => kind = .whileBlock
  | .render .., kind => kind = .render
  | .renderContent .., kind => kind = .renderContent
  | .contentFor .., kind => kind = .contentFor
  | .printAction .., kind => kind = .printExpressionStart
  | _, _ => False

/-- **The first token of a written node** is of a kind that tells what node it is. -/
theorem firstKind_written {node : Node} (admitted : Place.body.Admits node)
    (spellable : node.Spellable) (rest : List Char) :
    ∃ kind, firstKind (node.written wording ++ rest) = some kind ∧ StartsWith node kind := by
  cases node with
  | text position content =>
    obtain ⟨c, others, same, letter, -⟩ := spellable
    obtain ⟨kind, among, first⟩ := @firstKind_anyLetter c (others ++ rest) letter
    rw [Node.written, same]
    exact ⟨kind, first, among⟩
  | element position tag children =>
    have begins (others : List Char) (stop : ∀ c ∈ others.head?, endsTagName c = true) :
        firstKind ('<' :: tag.name.toList ++ others) = some .elementStart :=
      (cuts_element spellable.1.isTagName stop).firstKind
    rw [Node.written]
    split_ifs
    · exact ⟨_, by simpa using begins ('/' :: '>' :: rest) (by rintro _ ⟨⟩; rfl), rfl⟩
    · refine ⟨_, ?_, rfl⟩
      rw [← begins ('>' :: (Node.written.writtenNodes wording children
        ++ '<' :: '/' :: (tag.name.toList ++ '>' :: rest))) (by rintro _ ⟨⟩; rfl)]
      simp
  | scope position children =>
    rw [Node.written, List.cons_append, List.cons_append, List.cons_append, enclosed_append]
    exact ⟨_, cuts_scope.firstKind, rfl⟩
  | print position expression block =>
    rcases block with _ | ⟨parameters, children⟩ <;>
    · rw [Node.written, List.append_assoc, List.append_assoc]
      exact ⟨_, Opens.firstKind_value ⟨rfl, by decide⟩ _ _, rfl⟩
  | conditional | switch | foreach | loop | render | contentFor =>
    rw [Node.written, List.append_assoc, List.append_assoc]
    exact ⟨_, Opens.firstKind_value ⟨rfl, by decide⟩ _ _, rfl⟩
  | renderContent position slot =>
    have opens : Opens "render-content" .renderContent := ⟨rfl, by decide⟩
    rw [Node.written, List.append_assoc]
    cases slot with
    | none => exact ⟨_, (opens.cuts (by rintro _ ⟨⟩; rfl)).firstKind, rfl⟩
    | some name =>
      rw [Option.elim_some, List.append_assoc]
      exact ⟨_, opens.firstKind_value _ _, rfl⟩
  | printAction => exact ⟨_, cuts_printStart.firstKind, rfl⟩
  | elseIf | otherwise | layout => exact absurd admitted id
  | whitespace | comment | cdata | doctype | action | commentSpan => exact absurd spellable id

/-- A node other than a text begins with a tag or a delimiter. -/
theorem head_written {node : Node} (admitted : Place.body.Admits node)
    (spellable : node.Spellable) (other : ¬ node.IsText) (rest : List Char) :
    ∀ d ∈ (node.written wording ++ rest).head?, d ∈ ['<', '\x7b'] := by
  cases node with
  | text => exact absurd trivial other
  | element position tag children =>
    rw [Node.written]
    split_ifs <;> (rintro _ ⟨⟩; decide)
  | print position expression block =>
    rcases block with _ | ⟨parameters, children⟩ <;> (rintro _ ⟨⟩; decide)
  | scope | conditional | switch | foreach | loop | render | renderContent | contentFor
    | printAction =>
    rintro _ ⟨⟩
    decide
  | elseIf | otherwise | layout => exact absurd admitted id
  | whitespace | comment | cdata | doctype | action | commentSpan => exact absurd spellable id

namespace StartsWith

variable {node : Node} {kind : TokenKind}

theorem apart (starts : StartsWith node kind) :
    kind ∉ [.whitespace, .commentExpressionStart, .elseIf, .elseBlock, .blockClosingStart,
      .elementClosingStart, .layout] := by
  cases node with
  | text =>
    have among : ∀ kind ∈ [.letters, .inKeyword, .ofKeyword, .numbers, .unknown],
        kind ∉ [.whitespace, .commentExpressionStart, .elseIf, .elseBlock, .blockClosingStart,
          TokenKind.elementClosingStart, .layout] := by decide
    exact among kind starts
  | whitespace | comment | cdata | doctype | action | commentSpan | elseIf | otherwise
    | layout => exact absurd starts id
  | _ =>
    cases starts
    decide

theorem endsText (starts : StartsWith node kind) (other : ¬ node.IsText) :
    Document.endsText kind = true := by
  cases node with
  | text => exact absurd trivial other
  | whitespace | comment | cdata | doctype | action | commentSpan | elseIf | otherwise
    | layout => exact absurd starts id
  | _ =>
    cases starts
    rfl

end StartsWith

/-! ## Nodes side by side -/

/-- What may stand behind a node: nothing that could be taken for a branch that follows
it, and behind a text nothing that could be taken for more of it. -/
structure Precedes (node : Node) (rest : List Char) : Prop where
  clear : Clear rest
  ends : node.IsText → EndsText rest

theorem Precedes.end (node : Node) : Precedes node [] :=
  ⟨nofun, fun _ => ⟨nofun, nofun⟩⟩

theorem ClosesBody.behind {kind : TokenKind} (closes : ClosesBody kind rest) (node : Node) :
    Precedes node rest := by
  constructor
  · intro found same
    rw [closes.first] at same
    cases same
    rcases closes.closing with rfl | rfl <;> decide
  · refine fun _ => ⟨?_, ?_⟩
    · rw [closes.start]
      rintro _ ⟨⟩
      decide
    · intro found same
      rw [closes.first] at same
      cases same
      rcases closes.closing with rfl | rfl <;> rfl

/-- A node with what is asked of it to be recovered by a reader, whatever may follow. -/
structure Restored (wording : Wording) (nested : Reader Node) (node : Node) : Prop where
  admitted : Place.body.Admits node
  spellable : node.Spellable
  recovers : ∀ rest, Precedes node rest → RecoversNode wording nested node rest

theorem Restored.precedes {node next : Node} (restored : Restored wording nested next)
    (apart : ¬ (node.IsText ∧ next.IsText)) (rest : List Char) :
    Precedes node (next.written wording ++ rest) := by
  obtain ⟨kind, first, starts⟩ := firstKind_written restored.admitted restored.spellable rest
  constructor
  · intro found same
    rw [first] at same
    cases same
    have other := starts.apart
    simp only [List.mem_cons, List.not_mem_nil, or_false, not_or] at other ⊢
    tauto
  · intro text
    have other : ¬ next.IsText := fun also => apart ⟨text, also⟩
    refine ⟨head_written restored.admitted restored.spellable other rest, fun found same => ?_⟩
    rw [first] at same
    cases same
    exact starts.endsText other

/-- What follows the first of several nodes. -/
theorem precedes_nodes {node : Node} {nodes : List Node}
    (restored : ∀ next ∈ nodes, Restored wording nested next)
    (apart : Node.TextsApart (node :: nodes)) (last : ∀ node, Precedes node rest) :
    Precedes node (Node.written.writtenNodes wording nodes ++ rest) := by
  cases nodes with
  | nil => exact last node
  | cons next others =>
    rw [Node.written.writtenNodes, List.append_assoc]
    exact (restored next List.mem_cons_self).precedes (List.isChain_cons_cons.1 apart).1 _

theorem written_ne_nil {node : Node} (admitted : Place.body.Admits node)
    (spellable : node.Spellable) : node.written wording ≠ [] := by
  intro none
  obtain ⟨kind, first, -⟩ := @firstKind_written wording _ admitted spellable []
  rw [none] at first
  cases first

/-- **Nodes side by side** are recovered one after the other. -/
theorem recoversBody_of_restored {nodes : List Node}
    (restored : ∀ node ∈ nodes, Restored wording nested node) (apart : Node.TextsApart nodes) :
    RecoversBody wording nested nodes := by
  intro kind rest turns closes enough
  induction nodes generalizing turns with
  | nil =>
    obtain ⟨turns, rfl⟩ := Nat.exists_eq_add_one_of_ne_zero (Nat.ne_zero_of_lt enough)
    refine .sees closes.first ?_
    rw [if_pos rfl]
    exact .pure rfl
  | cons node nodes ih =>
    obtain ⟨turns, rfl⟩ := Nat.exists_eq_add_one_of_ne_zero (Nat.ne_zero_of_lt enough)
    obtain ⟨first, others⟩ := List.forall_mem_cons.1 restored
    have some := List.length_pos_iff.2 (@written_ne_nil wording _ first.admitted first.spellable)
    rw [Node.written.writtenNodes] at enough ⊢
    rw [List.length_append] at enough
    rw [List.append_assoc]
    obtain ⟨found, begins, starts⟩ := @firstKind_written wording _ first.admitted first.spellable
      (Node.written.writtenNodes wording nodes ++ rest)
    refine .misses (firstKind_ne begins ?_) ?_
    · rintro rfl
      have other := starts.apart
      rcases closes.closing with rfl | rfl <;> exact absurd (by decide) other
    · rw [if_neg Bool.false_ne_true]
      refine .bind (first.recovers _ (precedes_nodes others apart closes.behind)) fun _ same => ?_
      refine .bind (ih others apart.tail turns (by omega)) fun _ sames => .pure ?_
      rw [List.map_cons, List.map_cons, same, sames]

/-- The nodes of a document are recovered up to its end. -/
theorem nodesToEnd_recovers {nodes : List Node}
    (restored : ∀ node ∈ nodes, Restored wording nested node) (apart : Node.TextsApart nodes)
    {turns : Nat} (enough : (Node.written.writtenNodes wording nodes).length < turns) :
    Recovers (nodesToEnd nested turns) (Node.written.writtenNodes wording nodes) []
      fun found => found.map Node.unplaced = nodes.map Node.unplaced := by
  induction nodes generalizing turns with
  | nil =>
    obtain ⟨turns, rfl⟩ := Nat.exists_eq_add_one_of_ne_zero (Nat.ne_zero_of_lt enough)
    exact .peekKind (.pure rfl)
  | cons node nodes ih =>
    obtain ⟨turns, rfl⟩ := Nat.exists_eq_add_one_of_ne_zero (Nat.ne_zero_of_lt enough)
    obtain ⟨first, others⟩ := List.forall_mem_cons.1 restored
    have some := List.length_pos_iff.2 (@written_ne_nil wording _ first.admitted first.spellable)
    rw [Node.written.writtenNodes] at enough ⊢
    rw [List.length_append] at enough
    obtain ⟨found, begins, -⟩ := @firstKind_written wording _ first.admitted first.spellable
      (Node.written.writtenNodes wording nodes)
    refine .peekKind ?_
    rw [begins, if_neg (by simp)]
    have behind := precedes_nodes others apart Precedes.end
    rw [List.append_nil] at behind
    refine .bind (first.recovers _ behind) fun _ same => ?_
    refine .bind (ih others apart.tail (by omega)) fun _ sames => .pure ?_
    rw [List.map_cons, List.map_cons, same, sames]

/-! ## All nodes -/

/-- Whether an else-if branch can follow a node, if a branch can. -/
def admitsElseIf : Node → Bool
  | .foreach .. => false
  | _ => true

/-- **A node is recovered** if those in it are, and the branch that follows it. -/
theorem nodeWith_recovers {node : Node} (admitted : Place.body.Admits node)
    (spellable : node.Spellable) (differ : node.ParametersDiffer)
    (inner : ∀ body ∈ node.bodies, RecoversBody wording nested body)
    (behind : RecoversNext wording nested (admitsElseIf node) node.alternate? rest)
    (precedes : Precedes node rest) : RecoversNode wording (nodeWith nested) node rest := by
  obtain ⟨kind, first, starts⟩ := @firstKind_written wording _ admitted spellable rest
  refine .peekKind ?_
  rw [first]
  have only {children : List Node} (same : node.bodies = [children]) :
      RecoversBody wording nested children := inner children (by simp [same])
  cases node with
  | text position content =>
    have run := @textOrUnknown_recovers wording rest position content spellable
      (precedes.ends trivial)
    simp only [StartsWith, List.mem_cons, List.not_mem_nil, or_false] at starts
    rcases starts with rfl | rfl | rfl | rfl | rfl <;> exact run
  | element position tag children =>
    cases starts
    obtain ⟨named, content, bare, empty⟩ := spellable
    exact element_recovers named content bare empty (only rfl)
  | scope position children =>
    cases starts
    exact scopeBlock_recovers (only rfl)
  | print position expression block =>
    cases starts
    rcases block with _ | ⟨parameters, children⟩
    · exact printBlock_recovers_value spellable.1
    · exact printBlock_recovers_block spellable.1 differ (spellable.2 parameters rfl) (only rfl)
  | conditional position condition children alternate =>
    cases starts
    exact conditionalBlock_recovers spellable (only rfl) behind
  | switch position expression cases fallback =>
    cases starts
    refine switchBlock_recovers spellable.1 spellable.2 (fun case mem => ?_) fun other mem => ?_
    · exact inner _ (List.mem_append_left _ (List.mem_map_of_mem mem))
    · exact inner _ (List.mem_append_right _ (List.mem_map_of_mem (Option.mem_toList.2 mem)))
  | foreach position identifiers collection children alternate =>
    cases starts
    obtain ⟨few, distinct, named, legible, trailing⟩ := spellable
    exact foreachBlock_recovers few distinct named legible trailing (only rfl) behind
  | loop position condition children =>
    cases starts
    exact loopBlock_recovers spellable (only rfl)
  | render position path context =>
    cases starts
    exact renderBlock_recovers spellable.1 spellable.2
  | renderContent position slot =>
    cases starts
    exact renderContentBlock_recovers spellable
  | contentFor position slot children =>
    cases starts
    exact contentForBlock_recovers spellable (only rfl)
  | printAction position handle =>
    cases starts
    obtain ⟨accepted, plain, spannable⟩ := spellable
    exact printSpan_recovers accepted plain
      (.of_spannable spannable (Snippet.readStatement_last accepted plain)) spannable.noEnd
  | elseIf | otherwise | layout => exact absurd admitted id
  | whitespace | comment | cdata | doctype | action | commentSpan => exact absurd spellable id

/-! ## Shorter texts -/

theorem length_writtenNodes {child : Node} {nodes : List Node} (mem : child ∈ nodes) :
    (child.written wording).length ≤ (Node.written.writtenNodes wording nodes).length := by
  induction nodes with
  | nil => cases mem
  | cons node nodes ih =>
    rw [Node.written.writtenNodes, List.length_append]
    rcases List.mem_cons.1 mem with rfl | mem
    · omega
    · have := ih mem
      omega

theorem length_writtenCases {case : Branch Node} {cases : List (Branch Node)}
    (mem : case ∈ cases) : (Node.written.writtenNodes wording case.children).length
      < (Node.written.writtenCases wording cases).length := by
  induction cases with
  | nil => cases mem
  | cons other cases ih =>
    obtain ⟨place, condition, children⟩ := other
    rw [Node.written.writtenCases]
    simp only [enclosed, List.length_append, List.length_cons]
    rcases List.mem_cons.1 mem with rfl | mem
    · dsimp only
      omega
    · have := ih mem
      omega

/-- What stands between the tags of a node has a shorter text than the node. -/
theorem length_body {node : Node} (spellable : node.Spellable) {body : List Node}
    (mem : body ∈ node.bodies) :
    (Node.written.writtenNodes wording body).length < (node.written wording).length := by
  cases node with
  | switch position expression cases fallback =>
    rw [Node.written]
    simp only [enclosed, List.length_append, List.length_cons]
    rcases List.mem_append.1 mem with among | last
    · obtain ⟨case, within, rfl⟩ := List.mem_map.1 among
      have := @length_writtenCases wording _ _ within
      omega
    · obtain ⟨⟨place, children⟩, within, rfl⟩ := List.mem_map.1 last
      rw [Option.mem_toList.1 within, Node.written.writtenFallback]
      simp only [enclosed, List.length_append, List.length_cons]
      omega
  | text position content =>
    obtain ⟨c, others, same, -⟩ := spellable
    rw [List.mem_singleton.1 mem, Node.written, same]
    exact Nat.succ_pos _
  | element position tag children =>
    rw [List.mem_singleton.1 mem, Node.written]
    split_ifs with closed
    · rw [show (Node.element position tag children).children = [] from spellable.2.2.2 closed]
      exact Nat.succ_pos _
    · simp only [Node.children, List.length_append, List.length_cons]
      omega
  | print position expression block =>
    rw [List.mem_singleton.1 mem]
    rcases block with _ | ⟨parameters, children⟩
    · exact Nat.succ_pos _
    · rw [Node.written]
      simp only [Node.children, Option.elim_some, enclosed, List.length_append, List.length_cons]
      omega
  | scope | conditional | elseIf | otherwise | foreach | loop | contentFor =>
    rw [List.mem_singleton.1 mem, Node.written]
    simp only [Node.children, enclosed, List.length_append, List.length_cons]
    omega
  | render | renderContent | printAction =>
    rw [List.mem_singleton.1 mem]
    exact Nat.succ_pos _
  | whitespace | comment | cdata | doctype | action | commentSpan | layout =>
    exact absurd spellable id

/-- So has the branch that follows one. -/
theorem length_alternate {node next : Node} (mem : next ∈ node.alternate?) :
    (next.written wording).length < (node.written wording).length := by
  cases node with
  | conditional | elseIf | foreach =>
    cases mem
    rw [Node.written, Node.written.writtenNext]
    simp only [enclosed, List.length_append, List.length_cons]
    omega
  | _ => cases mem

/-- What stands between the tags of a node stands directly in it. -/
theorem mem_children {node child : Node} {body : List Node} (mem : body ∈ node.bodies)
    (within : child ∈ body) : child ∈ node.children := by
  cases node with
  | switch position expression cases fallback =>
    rcases List.mem_append.1 mem with among | last
    · obtain ⟨case, inside, rfl⟩ := List.mem_map.1 among
      exact List.mem_append_left _ (List.mem_flatMap.2 ⟨case, inside, within⟩)
    · obtain ⟨other, inside, rfl⟩ := List.mem_map.1 last
      refine List.mem_append_right _ ?_
      rw [Option.mem_toList.1 inside]
      exact within
  | _ => exact List.mem_singleton.1 mem ▸ within

/-! ## Nodes of any depth -/

/-- **A node at a place is recovered**, by readers that go as deep as its text is long. -/
def Recoverable (wording : Wording) (place : Place) (target : Node) : Prop :=
  ∀ depth, (target.written wording).length ≤ depth →
    match place with
    | .head => True
    | .body => Restored wording (node depth) target
    | .branch => ∀ rest, Clear rest → RecoversNext wording (node depth) true (some target) rest
    | .fallback => ∀ rest, Clear rest → RecoversNext wording (node depth) false (some target) rest

/-- What stands between the tags of a node is recovered if the nodes in it are. -/
theorem bodies_recover {target : Node} (spellable : target.Spellable)
    (apart : ∀ body ∈ target.bodies, Node.TextsApart body)
    (inner : ∀ child ∈ target.children, Recoverable wording .body child) {depth : Nat}
    (deep : (target.written wording).length ≤ depth + 1) :
    ∀ body ∈ target.bodies, RecoversBody wording (node depth) body := by
  intro body mem
  refine recoversBody_of_restored (fun child within => ?_) (apart body mem)
  refine inner child (mem_children mem within) depth ?_
  have shorter := @length_body wording target spellable body mem
  have part := @length_writtenNodes wording child body within
  omega

/-- The branch that follows a node is recovered if it is at its place. -/
theorem alternate_recovers {target : Node}
    (behind : ∀ next ∈ target.alternate?, Recoverable wording target.alternatePlace next)
    {depth : Nat} (deep : (target.written wording).length ≤ depth + 1) (clear : Clear rest) :
    RecoversNext wording (node depth) (admitsElseIf target) target.alternate? rest := by
  cases follows : target.alternate? with
  | none => exact alternate_recovers_none _ clear
  | some next =>
    have shorter := @length_alternate wording target next follows
    have found := behind next follows depth (by omega)
    cases target with
    | conditional | elseIf | foreach => exact found rest clear
    | _ => cases follows

/-- **Every node that can be written is recovered**, by induction on how it is built. -/
theorem recoverable {place : Place} {target : Node} (writable : target.Writable place)
    (differ : ∀ node : Node, node.Occurs [target] → node.ParametersDiffer) :
    Recoverable wording place target := by
  induction writable with
  | @intro place target admitted spellable apart _ _ inner behind =>
    have among : target ∈ [target] := List.mem_singleton_self target
    replace inner : ∀ child ∈ target.children, Recoverable wording .body child :=
      fun child mem => inner child mem fun node occurs =>
        differ node (.child among (occurs.of_mem mem))
    replace behind : ∀ next ∈ target.alternate?, Recoverable wording target.alternatePlace next :=
      fun next mem => behind next mem fun node occurs =>
        differ node (.alternate among (occurs.of_mem (Option.mem_toList.2 mem)))
    intro depth deep
    cases place with
    | head => trivial
    -- The nodes inside are read one level deeper, and their texts are shorter.
    | body =>
      have some := List.length_pos_iff.2 (@written_ne_nil wording _ admitted spellable)
      obtain ⟨depth, rfl⟩ := Nat.exists_eq_add_one_of_ne_zero (by omega : depth ≠ 0)
      refine ⟨admitted, spellable, fun rest precedes => ?_⟩
      exact nodeWith_recovers admitted spellable (differ _ (.here among))
        (bodies_recover spellable apart inner deep)
        (alternate_recovers behind deep precedes.clear) precedes
    -- A branch is read on the level of the block that it follows.
    | branch =>
      intro rest clear
      have bodies := bodies_recover spellable apart inner (Nat.le_succ_of_le deep)
      have next := alternate_recovers behind (Nat.le_succ_of_le deep) clear
      cases target with
      | elseIf => exact alternate_recovers_elseIf spellable (bodies _ List.mem_cons_self) next
      | otherwise => exact alternate_recovers_otherwise true (bodies _ List.mem_cons_self)
      | _ => exact absurd admitted id
    | fallback =>
      intro rest clear
      have bodies := bodies_recover spellable apart inner (Nat.le_succ_of_le deep)
      cases target with
      | otherwise => exact alternate_recovers_otherwise false (bodies _ List.mem_cons_self)
      | _ => exact absurd admitted id

/-! ## Line ends -/

/-- A text without carriage returns has no line end of two characters. -/
theorem normalizeLines_eq {text : List Char} (plain : '\r' ∉ text) :
    normalizeLines text = text := by
  induction text using normalizeLines.induct with
  | case1 rest => exact absurd List.mem_cons_self plain
  | case2 c rest other ih =>
    rw [normalizeLines, ih (List.not_mem_of_not_mem_cons plain)]
    exact other
  | case3 => rfl

/-- A text that holds no carriage return. -/
def Unbroken (text : List Char) : Prop := '\r' ∉ text

instance (text : List Char) : Decidable (Unbroken text) :=
  inferInstanceAs (Decidable (¬ _))

namespace Unbroken

variable {text more : List Char}

theorem append (first : Unbroken text) (second : Unbroken more) : Unbroken (text ++ more) :=
  List.not_mem_append first second

theorem cons {c : Char} (other : '\r' ≠ c) (rest : Unbroken text) : Unbroken (c :: text) :=
  List.not_mem_cons_of_ne_of_not_mem other rest

theorem assigned (value : Unbroken text) : Unbroken (assigned text) := by
  simpa [Unbroken, Writing.assigned] using value

theorem enclosed (inside : Unbroken text) : Unbroken (enclosed text) := by
  simpa [Unbroken, Writing.enclosed, closer] using inside

theorem tail {keyword : String} (plain : Unbroken keyword.toList) (value : Unbroken text) :
    Unbroken (tail keyword text) := by
  simp only [Writing.tail, Unbroken, List.mem_cons, not_or]
  exact ⟨by decide, by decide, plain.append value.assigned⟩

theorem listed {names : List String}
    (parts : ∀ name ∈ names, ∀ c ∈ name.toList, isNamePart c = true) (gap : Nat) :
    Unbroken (listed gap names) := by
  have plain (name : String) (mem : name ∈ names) : '\r' ∉ name.toList := fun within =>
    ne_of_class (parts name mem _ within) rfl rfl
  cases names with
  | nil => exact List.not_mem_nil
  | cons name names =>
    obtain ⟨first, others⟩ := List.forall_mem_cons.1 plain
    simp only [Unbroken, Writing.listed, following, List.mem_append, List.mem_flatMap,
      List.mem_cons, List.mem_replicate, not_or, not_exists, not_and]
    exact ⟨first, fun other mem => ⟨by decide, fun _ => by decide, others other mem⟩⟩

theorem nodes {nodes : List Node} (inner : ∀ child ∈ nodes, Unbroken (child.written wording)) :
    Unbroken (Node.written.writtenNodes wording nodes) := by
  induction nodes with
  | nil => exact List.not_mem_nil
  | cons node nodes ih =>
    obtain ⟨first, others⟩ := List.forall_mem_cons.1 inner
    exact first.append (ih others)

theorem next {next : Option Node} (inner : ∀ node ∈ next, Unbroken (node.written wording)) :
    Unbroken (Node.written.writtenNext wording next) := by
  cases next with
  | none => exact List.not_mem_nil
  | some node => exact inner node rfl

theorem cases {cases : List (Branch Node)}
    (legible : ∀ case ∈ cases, Node.Spellable.Legible case.condition)
    (inner : ∀ case ∈ cases, ∀ child ∈ case.children, Unbroken (child.written wording)) :
    Unbroken (Node.written.writtenCases wording cases) := by
  induction cases with
  | nil => exact List.not_mem_nil
  | cons case cases ih =>
    obtain ⟨place, condition, children⟩ := case
    obtain ⟨first, others⟩ := List.forall_mem_cons.1 inner
    obtain ⟨legible, legibles⟩ := List.forall_mem_cons.1 legible
    have value : Unbroken condition.source.toList := legible.2.noReturn
    have opens : Unbroken (opener "case") := by decide
    exact (opens.append (value.assigned.append (nodes first).enclosed)).append (ih legibles others)

end Unbroken

/-- **The text of a node holds no carriage return**, if those in it do not. -/
theorem unbroken_written {node : Node} (spellable : node.Spellable)
    (inner : ∀ child ∈ node.children, Unbroken (child.written wording))
    (behind : ∀ next ∈ node.alternate?, Unbroken (next.written wording)) :
    Unbroken (node.written wording) := by
  have value {handle : Expression} (legible : Node.Spellable.Legible handle) :
      Unbroken (assigned handle.source.toList) :=
    Unbroken.assigned legible.2.noReturn
  have label {name : String} (label : IsLabel name) : Unbroken (assigned name.toList) :=
    Unbroken.assigned label.noReturn
  have closes : Unbroken selfClosing := by decide
  cases node with
  | text position content =>
    exact fun mem => (IsPlainText.parts spellable _ mem).ne (by decide) rfl
  | element position tag children =>
    have name : Unbroken tag.name.toList := fun mem =>
      ne_of_class (spellable.1.letters _ mem) rfl rfl
    have nodes := Unbroken.nodes inner
    rw [Node.written]
    split_ifs
    · exact .cons (by decide) (name.append (by decide))
    · exact .cons (by decide) (name.append (.cons (by decide) (nodes.append
        (.cons (by decide) (.cons (by decide) (name.append (by decide)))))))
  | scope position children =>
    exact .cons (by decide) (.cons (by decide) (.cons (by decide) (Unbroken.nodes inner).enclosed))
  | print position expression block =>
    rcases block with _ | ⟨parameters, children⟩
    · exact .append (by decide) ((value spellable.1).append closes)
    · have parts : Unbroken (if parameters = [] then [] else
          tail "block" (listed wording.gap parameters)) := by
        split_ifs
        · exact List.not_mem_nil
        · exact .tail (by decide)
            (.listed (fun name mem => (spellable.2 parameters rfl name mem).parts) wording.gap)
      exact .append (by decide) ((value spellable.1).append
        (parts.append (Unbroken.nodes inner).enclosed))
  | conditional | elseIf =>
    exact .append (by decide) ((value spellable).append
      (((Unbroken.nodes inner).enclosed).append (.next behind)))
  | otherwise => exact .append (by decide) (Unbroken.nodes inner).enclosed
  | switch position expression cases fallback =>
    have branches : Unbroken (Node.written.writtenCases wording cases) :=
      .cases spellable.2 fun case mem child within =>
        inner child (List.mem_append_left _ (List.mem_flatMap.2 ⟨case, mem, within⟩))
    have last : Unbroken (Node.written.writtenFallback wording fallback) := by
      cases fallback with
      | none => exact List.not_mem_nil
      | some other =>
        exact .append (by decide) (Unbroken.nodes fun child within =>
          inner child (List.mem_append_right _ within)).enclosed
    exact .append (by decide) ((value spellable.1).append (branches.append last).enclosed)
  | foreach position identifiers collection children alternate =>
    obtain ⟨-, -, named, -, trailing⟩ := spellable
    have word : Unbroken wording.loopWord.characters := by
      cases wording.loopWord <;> decide
    have text : Unbroken (listed wording.gap identifiers
        ++ ' ' :: (wording.loopWord.characters ++ ' ' :: collection.source.toList)) :=
      .append (.listed (fun name mem => (named name mem).parts) wording.gap)
        (.cons (by decide) (word.append (.cons (by decide) trailing.noReturn)))
    exact .append (by decide) (text.assigned.append
      ((Unbroken.nodes inner).enclosed.append (.next behind)))
  | loop =>
    exact .append (by decide) ((value spellable).append (Unbroken.nodes inner).enclosed)
  | render position path context =>
    refine .append (by decide) ((label spellable.1).append (.append ?_ closes))
    cases context with
    | none => exact List.not_mem_nil
    | some handle => exact .tail (by decide) (spellable.2 handle rfl).2.noReturn
  | renderContent position slot =>
    refine .append (by decide) (.append ?_ closes)
    cases slot with
    | none => exact List.not_mem_nil
    | some name => exact label (spellable name rfl)
  | contentFor =>
    exact .append (by decide) ((label spellable).append (Unbroken.nodes inner).enclosed)
  | printAction position handle =>
    exact .cons (by decide) (.cons (by decide) (.cons (by decide)
      (.append spellable.2.2.noReturn (by decide))))
  | whitespace | comment | cdata | doctype | action | commentSpan | layout =>
    exact absurd spellable id

/-- The text of every node that can be written holds none. -/
theorem unbroken_of_writable {place : Place} {target : Node} (writable : target.Writable place) :
    Unbroken (target.written wording) := by
  induction writable with
  | intro _ spellable _ _ _ inner behind => exact unbroken_written spellable inner behind

/-! ## Documents -/

/-- Nodes that can be written do not begin with the declaration of a layout. -/
theorem firstKind_nodes_ne_layout {nodes : List Node}
    (writable : ∀ node ∈ nodes, node.Writable .body) :
    firstKind (Node.written.writtenNodes wording nodes) ≠ some .layout := by
  cases nodes with
  | nil => exact nofun
  | cons first others =>
    obtain ⟨admitted, spellable, -⟩ := writable first List.mem_cons_self
    obtain ⟨kind, begins, starts⟩ := @firstKind_written wording _ admitted spellable
      (Node.written.writtenNodes wording others)
    refine firstKind_ne begins ?_
    rintro rfl
    exact starts.apart (by decide)

/-- The nodes of a document that can be written are recovered. -/
theorem document_recovers {target : ViewTemplate.Document} (writable : target.Writable)
    (differ : ∀ node : Node, node.Occurs target.nodes → node.ParametersDiffer) :
    Recovers document (Node.written.writtenNodes wording target.nodes) []
      fun found => found.unplaced = target.unplaced := by
  have restored : ∀ child ∈ target.nodes, Restored wording
      (node ((Node.written.writtenNodes wording target.nodes).length + 1)) child :=
    fun child mem => recoverable (writable.nodes child mem)
      (fun node occurs => differ node (occurs.of_mem mem)) _
      ((length_writtenNodes mem).trans (Nat.le_succ _))
  refine .misses (firstKind_nodes_ne_layout writable.nodes) ?_
  rw [if_neg Bool.false_ne_true]
  refine .bind (@Recovers.pure _ _ (· = []) [] rfl) fun _ none => .budget (.budget ?_)
  subst none
  refine .bind (nodesToEnd_recovers restored writable.apart (Nat.lt_succ_self _))
    fun found same => .pure ?_
  rw [Document.unplaced, Document.unplaced, List.nil_append, same]

end Document

/-- **Parsing undoes writing.**  Whatever the wording, a document that can be written, and
in which no print block repeats a parameter, is read back from its text, but for
positions. -/
theorem Document.parse_written (wording : Wording) {document : Document}
    (writable : document.Writable)
    (differ : ∀ node : Node, node.Occurs document.nodes → node.ParametersDiffer) :
    (Document.parse {} (document.written wording)).map Document.unplaced
      = .ok document.unplaced := by
  have plain : '\r' ∉ Node.written.writtenNodes wording document.nodes :=
    Document.Unbroken.nodes fun node mem =>
      Document.unbroken_of_writable (writable.nodes node mem)
  have source : Template.Cursor.ofSource (document.written wording)
      = ⟨Node.written.writtenNodes wording document.nodes, .start⟩ := by
    rw [Template.Cursor.ofSource, Document.written, String.toList_ofList,
      Document.normalizeLines_eq plain]
  obtain ⟨found, after, ran, same⟩ := @Document.document_recovers wording _ writable differ .start
  have valid : Template.LexicalOptions.validate {} = .ok () := rfl
  rw [Document.parse, valid, source]
  show (((Document.document.run Document.standard).run ⟨_, .start⟩).map (·.1)).map _ = _
  rw [ran]
  exact congrArg Except.ok same

/-- A condition whose last branch has a print block in it, with given parameters. -/
def branchedPrint (parameters : List String) : Document :=
  ⟨[.conditional .start ⟨"c", .start, .identifier ⟨0, 1⟩ "c"⟩ [.text .start "yes"]
    (some (.otherwise .start
      [.print .start ⟨"f", .start, .identifier ⟨0, 1⟩ "f"⟩ (some (parameters, []))]))]⟩

/-- It can be written, whether or not a parameter is repeated. -/
theorem branchedPrint_writable {parameters : List String}
    (named : ∀ name ∈ parameters, IsVariable name) : (branchedPrint parameters).Writable := by
  have text : (Node.text .start "yes").Writable .body :=
    .intro trivial
      ⟨'y', ['e', 's'], rfl, by decide, by simp [Text.isAsciiLetterOrDigit, Text.isAsciiLetter]⟩
      (List.forall_mem_singleton.2 .nil) (by rintro _ ⟨⟩) (by rintro _ ⟨⟩)
  have print : (Node.print .start ⟨"f", .start, .identifier ⟨0, 1⟩ "f"⟩
      (some (parameters, []))).Writable .body := by
    refine .intro trivial ⟨⟨rfl, by decide, by decide, by decide⟩, ?_⟩
      (List.forall_mem_singleton.2 .nil) (by rintro _ ⟨⟩) (by rintro _ ⟨⟩)
    rintro _ ⟨⟩
    exact named
  refine ⟨List.forall_mem_singleton.2 ?_, .singleton _⟩
  refine .intro trivial ⟨rfl, by decide, by decide, by decide⟩
    (List.forall_mem_singleton.2 (.singleton _)) (List.forall_mem_singleton.2 text) ?_
  rintro _ ⟨⟩
  exact .intro trivial trivial (List.forall_mem_singleton.2 (.singleton _))
    (List.forall_mem_singleton.2 print) (by rintro _ ⟨⟩)

/-- Two parameters that differ are read back. -/
theorem Document.parse_written_branched :
    (Document.parse {} ((branchedPrint ["a", "b"]).written ⟨.inWord, 1⟩)).map Document.unplaced
      = .ok (branchedPrint ["a", "b"]).unplaced := by
  refine Document.parse_written ⟨.inWord, 1⟩ (branchedPrint_writable ?_) fun node occurs => ?_
  · refine List.forall_mem_cons.2 ⟨?_, List.forall_mem_singleton.2 ?_⟩
    · exact ⟨⟨'a', [], rfl, rfl⟩, List.all_eq_true.1 (by decide), by decide⟩
    · exact ⟨⟨'b', [], rfl, rfl⟩, List.all_eq_true.1 (by decide), by decide⟩
  · simp only [branchedPrint, Node.occurs_singleton, Node.not_occurs_nil, Node.children,
      Node.alternate?, Option.elim_some, Option.toList_some, Option.toList_none, or_false]
      at occurs
    rcases occurs with rfl | rfl | rfl | rfl
    · trivial
    · trivial
    · trivial
    · exact (by decide : ["a", "b"].Nodup)

/-- One parameter that is named twice is not: what can be written is then refused. -/
theorem Document.parse_written_repeated :
    (branchedPrint ["a", "a"]).Writable
      ∧ (Document.parse {} ((branchedPrint ["a", "a"]).written ⟨.inWord, 1⟩)).map
          Document.unplaced
        = .error ⟨.duplicateArgument "a", ⟨1, 57⟩⟩ := by
  have named : IsVariable "a" := ⟨⟨'a', [], rfl, rfl⟩, List.all_eq_true.1 (by decide), by decide⟩
  refine ⟨branchedPrint_writable (by simpa using named), ?_⟩
  have refused : (Document.parse {} ((branchedPrint ["a", "a"]).written ⟨.inWord, 1⟩)).map
      (fun _ => ()) = .error ⟨.duplicateArgument "a", ⟨1, 57⟩⟩ := by
    decide +kernel
  cases parsed : Document.parse {} ((branchedPrint ["a", "a"]).written ⟨.inWord, 1⟩) with
  | error fault =>
    rw [parsed] at refused
    cases refused
    rfl
  | ok document =>
    rw [parsed] at refused
    cases refused

end ViewTemplate
