import ViewTemplate.Proofs.Document.Regions
import ViewTemplate.Proofs.Document.RoundTrip
import ViewTemplate.Proofs.Snippet.Blanks

/-!
# Headers of loops

A loop names its variables, and then its collection behind a word of loops.  Which lists
of names its header admits is settled here, for all names that are written as documented:
a letter, `_` or `$`, and then letters, digits, `_` and `$`.

A name is put together from tokens, and it may go on with the words `in` and `of`.  It
cannot begin with them: a run of letters that spells one of them is no start of a name,
whatever stands behind it.  But for that, one name or two that differ are admitted, and
the first name that makes more of them is refused (`namesFault?`).

What stands behind a header makes no difference.  A header that is admitted is read to
its end, and everything else is read as the rest of the loop (`foreachCollection_leads`); a header
that is refused is the error of the whole source (`Refuses`).

## Main Definitions

* `IsName` — a name as it is documented
* `namesFault?` — the first fault of the names of a loop
* `loopHeader` — the header of a loop
* `Refuses` — a reader fails on a text with a fault, wherever the text stands

## Main Results

* `namesFault?_eq_none_iff` — which names have no fault
* `parse_loopHeader` — which headers are admitted, and what they say

-/

namespace ViewTemplate

namespace Document

open Template Text Writing

variable {α β : Type} {input middle rest : List Char} {fault : ParseFault}

/-! ## Names -/

/-- **A name as it is documented**: a letter, `_` or `$`, and then letters, digits, `_` and
`$`. -/
structure IsName (name : String) : Prop where
  start : ∃ c rest, name.toList = c :: rest ∧ isNameStart c = true
  parts : ∀ c ∈ name.toList, isNamePart c = true

/-- The letters that a name begins with. -/
def leadingLetters (name : String) : String :=
  String.ofList (name.toList.takeWhile isAsciiLetter)

/-- The words that may stand behind the names of a loop. -/
def loopWords : List String := ["in", "of"]

theorem IsName.isVariable {name : String} (named : IsName name)
    (other : leadingLetters name ∉ loopWords) : IsVariable name :=
  ⟨named.start, named.parts, other⟩

theorem IsName.nonempty {name : String} (named : IsName name) : name.toList ≠ [] := by
  obtain ⟨c, others, same, -⟩ := named.start
  simp [same]

/-- The first fault of the names of a loop, where `before` are those that were read. -/
def namesFault? (before : List String) : List String → Option ParseFault
  | [] => none
  | name :: names =>
    if leadingLetters name ∈ loopWords then
      some (.expectedVariable ("'" ++ leadingLetters name ++ "'"))
    else if name ∈ before then some (.duplicateIdentifier name)
    else if before.length = 2 then some .tooManyIdentifiers
    else namesFault? (before ++ [name]) names

/-- **Names that a loop admits**: at most two that differ, of which none begins with a word
of loops. -/
structure Admitted (names : List String) : Prop where
  few : names.length ≤ 2
  distinct : names.Nodup
  noWord : ∀ name ∈ names, leadingLetters name ∉ loopWords

theorem namesFault?_eq_none_iff_of_before {before names : List String} (few : before.length ≤ 2)
    (distinct : before.Nodup) :
    namesFault? before names = none ↔
      (before ++ names).length ≤ 2 ∧ (before ++ names).Nodup
        ∧ ∀ name ∈ names, leadingLetters name ∉ loopWords := by
  induction names generalizing before with
  | nil => simp [namesFault?, few, distinct]
  | cons name names ih =>
    rw [namesFault?]
    split_ifs with word repeated full
    · exact iff_of_false nofun fun ⟨_, _, noWord⟩ => noWord name List.mem_cons_self word
    · refine iff_of_false nofun fun ⟨_, distinct, _⟩ => ?_
      exact List.disjoint_of_nodup_append distinct repeated List.mem_cons_self
    · refine iff_of_false nofun fun ⟨few, _, _⟩ => ?_
      rw [List.length_append, List.length_cons] at few
      omega
    · have one : (before ++ [name]).length ≤ 2 := by
        rw [List.length_append, List.length_singleton]
        omega
      have apart : (before ++ [name]).Nodup := by
        refine List.nodup_append.2 ⟨distinct, List.nodup_singleton name, ?_⟩
        rintro other mem _ same rfl
        exact repeated (List.mem_singleton.1 same ▸ mem)
      rw [ih one apart, List.append_assoc, List.singleton_append]
      simp [word]

/-- **Names have no fault** exactly if a loop admits them. -/
theorem namesFault?_eq_none_iff {names : List String} :
    namesFault? [] names = none ↔ Admitted names := by
  rw [namesFault?_eq_none_iff_of_before (by simp) List.nodup_nil]
  exact ⟨fun ⟨few, distinct, noWord⟩ => ⟨few, distinct, noWord⟩,
    fun ⟨few, distinct, noWord⟩ => ⟨few, distinct, noWord⟩⟩

/-- The faults of names are those of syntax. -/
theorem kind_of_namesFault? {before names : List String}
    (found : namesFault? before names = some fault) : fault.kind = .syntactic := by
  induction names generalizing before with
  | nil => cases found
  | cons name names ih =>
    rw [namesFault?] at found
    split_ifs at found
    · cases found
      rfl
    · cases found
      rfl
    · cases found
      rfl
    · exact ih found

/-! ## Texts that are refused -/

/-- **A reader refuses a text** with a fault, wherever the text stands. -/
def Refuses (reader : Reader α) (input : List Char) (fault : ParseFault) : Prop :=
  ∀ position, ∃ place, (reader.run standard).run ⟨input, position⟩ = .error ⟨fault, place⟩

namespace Refuses

theorem failAt (place : Position) : Refuses (failAt (α := α) place fault) input fault :=
  fun _ => ⟨place, rfl⟩

/-- Nothing is read behind a part that fails. -/
theorem bind {reader : Reader α} {next : α → Reader β} (first : Refuses reader input fault) :
    Refuses (reader >>= next) input fault := by
  intro position
  obtain ⟨place, ran⟩ := first position
  refine ⟨place, ?_⟩
  show ((reader.run standard).run ⟨input, position⟩).bind _ = _
  rw [ran]
  rfl

/-- A part that returns is passed. -/
theorem after {found : α → Prop} {reader : Reader α} {next : α → Reader β}
    (first : Recovers reader input middle found)
    (others : ∀ value, found value → Refuses (next value) middle fault) :
    Refuses (reader >>= next) input fault := by
  intro position
  obtain ⟨value, between, ran, h⟩ := first position
  obtain ⟨place, ran'⟩ := others value h between
  refine ⟨place, ?_⟩
  show ((reader.run standard).run ⟨input, position⟩).bind _ = _
  rw [ran]
  exact ran'

/-- Whether the next token is of a kind is known. -/
theorem sees {kind : TokenKind} {next : Bool → Reader β} (first : firstKind input = some kind)
    (others : Refuses (next true) input fault) : Refuses (sees kind >>= next) input fault :=
  .after (.looksFor kind) fun _ same => by rwa [same, decide_eq_true first]

end Refuses

/-- What the later reader refuses, the first one does. -/
theorem LeadsTo.refuses {next : β → Reader α} {given : β → Prop} {reader : Reader α}
    (leads : LeadsTo reader input next middle given)
    (others : ∀ value, given value → Refuses (next value) middle fault) :
    Refuses reader input fault := by
  intro position
  obtain ⟨value, after, h, same⟩ := leads position
  obtain ⟨place, ran⟩ := others value h after
  exact ⟨place, same.trans ran⟩

/-! ## Names that are read -/

/-- **No name begins with a word of loops.** -/
theorem variableName_refuses {name : String} (word : leadingLetters name ∈ loopWords)
    (ends : EndsName rest) :
    Refuses variableName (name.toList ++ rest)
      (.expectedVariable ("'" ++ leadingLetters name ++ "'")) := by
  have some : name.toList.takeWhile isAsciiLetter ≠ [] := by
    intro none
    rw [leadingLetters, none] at word
    exact absurd word (by decide)
  have kind : ∃ kind, (kind = .inKeyword ∨ kind = .ofKeyword)
      ∧ TokenKind.ofWord? (leadingLetters name) = Option.some kind := by
    rcases List.mem_pair.1 word with same | same <;> rw [same]
    · exact ⟨_, .inl rfl, rfl⟩
    · exact ⟨_, .inr rfl, rfl⟩
  obtain ⟨kind, among, spelled⟩ := kind
  have cuts := cuts_leadingLetters some ends
  rw [← leadingLetters, spelled, Option.getD_some] at cuts
  have whole : name.toList ++ rest
      = name.toList.takeWhile isAsciiLetter ++ (name.toList.dropWhile isAsciiLetter ++ rest) := by
    rw [← List.append_assoc, List.takeWhile_append_dropWhile]
  have first := take_recovers cuts
  rw [whole]
  refine .after first fun token taken => ?_
  have same : token.kind = kind := taken.1
  have text : token.text = leadingLetters name := taken.2.1
  have notSpace : token.kind ≠ .whitespace := by
    rw [same]
    rcases among with rfl | rfl <;> nofun
  have notStart : startsVariable token.kind = false := by
    rw [same]
    rcases among with rfl | rfl <;> rfl
  rw [notStart, if_neg Bool.false_ne_true, describe, if_neg notSpace, text]
  exact .failAt _

/-- What is read behind a name of a loop. -/
def moreNames (turns : Nat) (names : List String) : Reader (List String) := do
  skipSpace
  if ← sees .comma then
    loopNames turns names
  else
    return names

/-- One more name of a loop, and the names behind it. -/
def nameAndMore (turns : Nat) (before : List String) : Reader (List String) := do
  let position ← here
  let name ← variableName
  if before.contains name then
    failAt position (.duplicateIdentifier name)
  else if before.length = 2 then
    failAt position .tooManyIdentifiers
  else
    moreNames turns (before ++ [name])

/-- What stands behind a name of a loop, before the space behind the last one. -/
theorem endsName_names (gap : Nat) (names : List String) (rest : List Char) :
    EndsName (following gap names ++ ' ' :: rest) := by
  cases names with
  | nil => exact ⟨' ', by simp, _, rfl⟩
  | cons name names => exact ⟨',', by simp, _, rfl⟩

/-- A name is refused for itself, or what stands behind it is. -/
theorem nameAndMore_refuses {turns : Nat} {before names : List String} {name : String}
    (named : IsName name) (ends : EndsName rest)
    (found : namesFault? before (name :: names) = some fault)
    (others : namesFault? (before ++ [name]) names = some fault →
      Refuses (moreNames turns (before ++ [name])) rest fault) :
    Refuses (nameAndMore turns before) (name.toList ++ rest) fault := by
  rw [namesFault?] at found
  refine .after .place fun _ _ => ?_
  split_ifs at found with word repeated full
  · cases found
    exact .bind (variableName_refuses word ends)
  all_goals
    refine .after (variableName_recovers (named.isVariable word) ends) fun _ same => ?_
    subst same
  · cases found
    rw [if_pos (by simpa using repeated)]
    exact .failAt _
  · cases found
    rw [if_neg (by simpa using repeated), if_pos full]
    exact .failAt _
  · rw [if_neg (by simpa using repeated), if_neg full]
    exact others found

/-- **The first fault of the names** that follow others is the one that is reported. -/
theorem moreNames_refuses {gap turns : Nat} {before names : List String} (begun : before ≠ [])
    (named : ∀ name ∈ names, IsName name) (found : namesFault? before names = some fault)
    (enough : names.length ≤ turns) :
    Refuses (moreNames turns before) (following gap names ++ ' ' :: rest) fault := by
  induction names generalizing before turns with
  | nil => cases found
  | cons name names ih =>
    obtain ⟨turns, rfl⟩ := Nat.exists_eq_add_one_of_ne_zero (Nat.ne_zero_of_lt enough)
    obtain ⟨first, others⟩ := List.forall_mem_cons.1 named
    have text : following gap (name :: names) ++ ' ' :: rest
        = ',' :: (List.replicate gap ' '
          ++ (name.toList ++ (following gap names ++ ' ' :: rest))) := by
      simp [following]
    rw [text]
    refine .after (skipSpace_leaves (cuts_comma.firstKind_ne (by decide))) fun _ _ => ?_
    refine .sees cuts_comma.firstKind ?_
    rw [if_pos rfl, loopNames, if_pos (by simpa using begun)]
    refine .after (expect_mark cuts_comma) fun _ _ => ?_
    refine .after (skipSpace_parts first.nonempty first.parts gap _) fun _ _ => ?_
    exact nameAndMore_refuses first (endsName_names gap names rest) found fun later =>
      ih (by simp) others later (Nat.le_of_succ_le_succ enough)

/-- **The first fault of the names of a loop** is the one that is reported. -/
theorem loopNames_refuses {gap turns : Nat} {names : List String}
    (named : ∀ name ∈ names, IsName name) (found : namesFault? [] names = some fault)
    (enough : names.length ≤ turns) :
    Refuses (loopNames turns []) (listed gap names ++ ' ' :: rest) fault := by
  cases names with
  | nil => cases found
  | cons name names =>
    obtain ⟨turns, rfl⟩ := Nat.exists_eq_add_one_of_ne_zero (Nat.ne_zero_of_lt enough)
    obtain ⟨first, others⟩ := List.forall_mem_cons.1 named
    rw [listed, List.append_assoc, loopNames, if_neg (by simp)]
    refine .after (skipSpace_parts first.nonempty first.parts 0 _) fun _ _ => ?_
    exact nameAndMore_refuses first (endsName_names gap names rest) found fun later =>
      moreNames_refuses (by simp) others later (Nat.le_of_succ_le_succ enough)

/-! ## Headers -/

/-- The opening tag of a loop up to the value, the names of the loop, a word of loops, and
the text of the collection, in quotes. -/
def loopHeader (quote : Quote) (gap : Nat) (names : List String) (word : LoopWord)
    (text : List Char) : List Char :=
  opener "foreach" ++ '=' :: quote.character :: (listed gap names
    ++ ' ' :: (word.characters ++ ' ' :: (text ++ [quote.character])))

variable {quote : Quote} {gap : Nat} {names : List String} {word : LoopWord} {text : List Char}

theorem loopHeader_append (rest : List Char) :
    loopHeader quote gap names word text ++ rest
      = opener "foreach" ++ '=' :: quote.character :: (listed gap names
        ++ ' ' :: (word.characters ++ ' ' :: (text ++ quote.character :: rest))) := by
  simp [loopHeader]

theorem firstKind_loopHeader (rest : List Char) :
    firstKind (loopHeader quote gap names word text ++ rest) = some .foreach := by
  have opens : Opens "foreach" .foreach := ⟨rfl, by decide⟩
  rw [loopHeader_append]
  exact (opens.cuts (by rintro _ ⟨⟩; rfl)).firstKind

/-- **A loop is refused for its names**, whatever stands behind them. -/
theorem foreachBlock_refuses {nested : Reader Node} (named : ∀ name ∈ names, IsName name)
    (found : namesFault? [] names = some fault) :
    Refuses (foreachBlock nested) (loopHeader quote gap names word text ++ rest) fault := by
  rw [loopHeader_append]
  refine (foreachBlock_leads_value quote).refuses fun _ _ => ?_
  refine .after .counts fun _ same => ?_
  subst same
  refine .bind (loopNames_refuses named found ?_)
  have enough := length_listed gap names
  rw [List.length_append, List.length_cons]
  omega

/-- What stands in quotes as the collection of a loop: no quote ends it, no tag begins in
it, and no line end in it is another one in the source. -/
structure IsCollection (quote : Quote) (text : List Char) : Prop where
  noQuote : quote.character ∉ text
  noTag : '<' ∉ text
  noReturn : '\r' ∉ text

/-- Such a text is tiled before its quote. -/
theorem IsCollection.tiled (plain : IsCollection quote text) :
    Tiled (quote.character :: rest) text := by
  have tagsEnd : TagsEnd text := fun after within =>
    absurd (within.subset List.mem_cons_self) plain.noTag
  refine .of_ends tagsEnd (.inl (by cases quote <;> rfl)) (fun c => ?_)
    fun _ => by cases quote <;> decide
  cases quote <;> exact not_joins (by decide) (fun _ => rfl) rfl rfl

/-- A header holds no carriage return. -/
theorem unbroken_loopHeader (named : ∀ name ∈ names, IsName name)
    (plain : IsCollection quote text) : Unbroken (loopHeader quote gap names word text) := by
  have mark : '\r' ≠ quote.character := by cases quote <;> decide
  have spelled : Unbroken word.characters := by cases word <;> decide
  have value : Unbroken (text ++ [quote.character]) :=
    .append plain.noReturn (.cons mark (by decide))
  have list : Unbroken (listed gap names) := .listed (fun name mem => (named name mem).parts) gap
  refine .append (by decide) (.cons (by decide) (.cons mark ?_))
  exact list.append (.cons (by decide) (spelled.append (.cons (by decide) value)))

/-- **The collection of a loop is read** from its header, and what stands behind that is
read as the rest of the loop. -/
theorem foreachBlock_leads_rest {nested : Reader Node} {handle : Expression}
    (some : names ≠ []) (named : ∀ name ∈ names, IsName name) (admitted : Admitted names)
    (plain : IsCollection quote text) (source : handle.source = trim (String.ofList text))
    (accepted : Snippet.readExpression handle.source = .ok handle.body) :
    LeadsTo (foreachBlock nested) (loopHeader quote gap names word text ++ rest)
      (fun places : Position × Position => do
        let children ← blockRest nested
        return .foreach places.1 names ⟨handle.source, places.2, handle.body⟩ children
          (← alternate nested false (← budget)))
      rest fun _ => True := by
  have few : names.length = 1 ∨ names.length = 2 := by
    have one := List.length_pos_iff.2 some
    have two := admitted.few
    omega
  have spelled : ∀ name ∈ names, IsVariable name := fun name mem =>
    (named name mem).isVariable (admitted.noWord name mem)
  rw [loopHeader_append]
  refine (foreachBlock_leads_value quote).trans fun place _ => ?_
  refine (foreachValue_leads quote word few admitted.distinct spelled place).trans fun _ _ => ?_
  refine .after .place fun position _ => ?_
  refine .after (collection_recovers quote plain.noQuote plain.tiled) fun _ same => ?_
  rw [same, trim_dropSpaces, ← source]
  refine .after (captured_recovers accepted) fun _ same => ?_
  subst same
  exact .refl (place, position) trivial rfl

/-! ## Sources that begin with a header -/

/-- A text without carriage returns stays as it is in front of another one. -/
theorem Unbroken.normalizeLines_append {front : List Char} (plain : Unbroken front)
    (rest : List Char) : normalizeLines (front ++ rest) = front ++ normalizeLines rest := by
  induction front with
  | nil => rfl
  | cons c front ih =>
    rw [List.cons_append, normalizeLines, ih (List.not_mem_of_not_mem_cons plain)]
    · rfl
    · rintro rest rfl
      exact absurd List.mem_cons_self plain

theorem parse_append {front : List Char} (plain : Unbroken front) (rest : List Char) :
    Document.parse {} (String.ofList (front ++ rest))
      = ((document.run standard).run ⟨front ++ normalizeLines rest, .start⟩).map (·.1) := by
  have source : Cursor.ofSource (String.ofList (front ++ rest))
      = ⟨front ++ normalizeLines rest, .start⟩ := by
    rw [Cursor.ofSource, String.toList_ofList, plain.normalizeLines_append]
  have valid : LexicalOptions.validate {} = .ok () := rfl
  rw [Document.parse, valid, source]
  rfl

/-- **A source that begins with faulty names of a loop** is refused for the first fault. -/
theorem parse_refuses (named : ∀ name ∈ names, IsName name) (plain : IsCollection quote text)
    (found : namesFault? [] names = some fault) (rest : List Char) :
    ∃ place, Document.parse {} (String.ofList (loopHeader quote gap names word text ++ rest))
      = .error ⟨fault, place⟩ := by
  have refused : Refuses document (loopHeader quote gap names word text ++ normalizeLines rest)
      fault := by
    refine (document_leads (firstKind_loopHeader _) (by decide)).refuses fun _ _ => .bind ?_
    refine .after .looks fun _ looked => ?_
    rw [looked, firstKind_loopHeader]
    exact foreachBlock_refuses named found
  obtain ⟨place, ran⟩ := refused .start
  refine ⟨place, ?_⟩
  rw [parse_append (unbroken_loopHeader named plain), ran]
  rfl

/-- **A document begins with a loop** of names over a collection. -/
def BeginsWithLoop (names : List String) (source : String) (body : Snippet.Expr)
    (document : ViewTemplate.Document) : Prop :=
  ∃ place position children next others,
    document.nodes = .foreach place names ⟨source, position, body⟩ children next :: others

section Accepted

variable {handle : Expression} (some : names ≠ []) (named : ∀ name ∈ names, IsName name)
  (admitted : Admitted names) (plain : IsCollection quote text)
  (source : handle.source = trim (String.ofList text))
  (accepted : Snippet.readExpression handle.source = .ok handle.body)

include some named admitted plain source accepted

/-- **A loop that is read is the one of its header**, whatever stands behind that. -/
theorem parse_begins {document : ViewTemplate.Document}
    (parsed : Document.parse {} (String.ofList (loopHeader quote gap names word text ++ rest))
      = .ok document) : BeginsWithLoop names handle.source handle.body document := by
  have first {nested : Reader Node} : Leaves (nodeWith nested)
      (loopHeader quote gap names word text ++ normalizeLines rest) fun found _ =>
        ∃ place position children next,
          found = .foreach place names ⟨handle.source, position, handle.body⟩ children next := by
    refine .after .looks fun _ looked => ?_
    rw [looked, firstKind_loopHeader]
    refine (foreachBlock_leads_rest some named admitted plain source accepted).leaves
      fun places _ => ?_
    refine .bind (.any _) fun children _ _ => .bind (.any _) fun _ _ _ => ?_
    exact .bind (.any _) fun next _ _ => .pure ⟨places.1, places.2, children, next, rfl⟩
  have whole : Leaves Document.document
      (loopHeader quote gap names word text ++ normalizeLines rest) fun document _ =>
        BeginsWithLoop names handle.source handle.body document := by
    refine (document_leads (firstKind_loopHeader _) (by decide)).leaves fun _ _ => ?_
    refine .bind first fun found _ h => .bind (.any _) fun others _ _ => .pure ?_
    obtain ⟨place, position, children, next, rfl⟩ := h
    exact ⟨place, position, children, next, others, rfl⟩
  rw [parse_append (unbroken_loopHeader named plain)] at parsed
  exact Yields.map _ (whole .start) document parsed

/-- **A header is read with every body** that can be written. -/
theorem parse_enclosing {inner : ViewTemplate.Document} (wording : Wording)
    (writable : inner.Writable)
    (differ : ∀ node : Node, node.Occurs inner.nodes → node.ParametersDiffer) :
    (Document.parse {} (String.ofList (loopHeader quote gap names word text
        ++ enclosed (Node.written.writtenNodes wording inner.nodes)))).map Document.unplaced
      = .ok ⟨[.foreach .start names handle.unplaced inner.unplaced.nodes none]⟩ := by
  have inside : Unbroken (Node.written.writtenNodes wording inner.nodes) :=
    .nodes fun node mem => unbroken_of_writable (writable.nodes node mem)
  have header : Unbroken (loopHeader quote gap names word text) := unbroken_loopHeader named plain
  refine (@parse_eq_single_iff _ _ _ True (header.append inside.enclosed) (firstKind_loopHeader _)
    (by decide) (fun _ => .peekKind ?_) (.known fun _ _ _ => trivial)).2 trivial
  rw [firstKind_loopHeader]
  refine (foreachBlock_leads_rest some named admitted plain source accepted).recovers
    fun places _ => ?_
  have body : RecoversBody wording (node (loopHeader quote gap names word text
      ++ enclosed (Node.written.writtenNodes wording inner.nodes)).length) inner.nodes := by
    refine recoversBody_of_restored (fun child mem => ?_) writable.apart
    refine recoverable (writable.nodes child mem) (fun node occurs => differ node (occurs.of_mem mem))
      _ ((length_writtenNodes mem).trans ?_)
    simp only [enclosed, List.length_append, List.length_cons]
    omega
  have read := @blockRest_recovers wording _ inner.nodes [] body
  rw [List.append_nil] at read
  refine .bind read fun children sames => .budget ?_
  refine .bind (@alternate_recovers_none wording _ [] false clear_nil _ ?_) fun next none => .pure ?_
  · exact Nat.succ_pos _
  · obtain rfl := Option.map_eq_none_iff.1 none
    simp [Node.unplaced, Document.unplaced, Captured.unplaced, sames]

end Accepted

/-- **Which headers of loops are admitted.**  A header with names that are admitted is read
with every body that can be written, and a source that begins with it has no other reading:
its first node is the loop of these names over the trimmed collection, whose expression is
the one that was accepted.  Every other header is refused for its first fault, whatever
stands behind it. -/
theorem parse_loopHeader {collection : String} {expr : Snippet.Expr} (some : names ≠ [])
    (named : ∀ name ∈ names, IsName name) (plain : IsCollection quote collection.toList)
    (accepted : Snippet.readExpression collection = .ok expr) :
    (Admitted names → ∃ body : Snippet.Expr,
      Snippet.readExpression (trim collection) = .ok body ∧ body.unspanned = expr.unspanned ∧
      (∀ (wording : Wording) (inner : ViewTemplate.Document), inner.Writable →
        (∀ node : Node, node.Occurs inner.nodes → node.ParametersDiffer) →
        (Document.parse {} (String.ofList (loopHeader quote gap names word collection.toList
            ++ enclosed (Node.written.writtenNodes wording inner.nodes)))).map Document.unplaced
          = .ok ⟨[.foreach .start names ⟨trim collection, .start, body⟩
              inner.unplaced.nodes none]⟩) ∧
      ∀ rest document,
        Document.parse {} (String.ofList (loopHeader quote gap names word collection.toList ++ rest))
          = .ok document → BeginsWithLoop names (trim collection) body document) ∧
    (¬ Admitted names → ∀ rest, ∃ error,
      Document.parse {} (String.ofList (loopHeader quote gap names word collection.toList ++ rest))
        = .error error ∧
      namesFault? [] names = Option.some error.fault ∧ error.fault.kind = .syntactic) := by
  refine ⟨fun admitted => ?_, fun faulty rest => ?_⟩
  · obtain ⟨body, trimmed, same⟩ := Snippet.readExpression_trim accepted
    have source : trim collection = trim (String.ofList collection.toList) := by
      rw [String.ofList_toList]
    refine ⟨body, trimmed, same, fun wording inner writable differ => ?_,
      fun rest document parsed => ?_⟩
    · exact @parse_enclosing _ _ _ _ _ ⟨trim collection, .start, body⟩ some named admitted plain
        source trimmed _ wording writable differ
    · exact @parse_begins _ _ _ _ _ _ ⟨trim collection, .start, body⟩ some named admitted plain
        source trimmed _ parsed
  · obtain ⟨fault, found⟩ : ∃ fault, namesFault? [] names = Option.some fault := by
      refine Option.ne_none_iff_exists'.1 fun none => faulty (namesFault?_eq_none_iff.1 none)
    obtain ⟨place, refused⟩ := parse_refuses named plain found rest
    exact ⟨⟨fault, place⟩, refused, found, kind_of_namesFault? found⟩

/-- Two names are read, and the same with one of them repeated is refused. -/
theorem parse_loopHeader_pair :
    (∀ name ∈ ["a", "b_2"], IsName name) ∧ Admitted ["a", "b_2"] ∧
      IsCollection .single "c ".toList ∧
      Snippet.readExpression "c " = .ok (.identifier ⟨0, 1⟩ "c") ∧
      (Document.parse {} "<js @foreach='a, b_2 of c '></js>").map Document.unplaced
        = .ok ⟨[.foreach .start ["a", "b_2"] ⟨"c", .start, .identifier ⟨0, 1⟩ "c"⟩ [] none]⟩ ∧
      ∃ place, Document.parse {} "<js @foreach='a, b_2, a of c '>"
        = .error ⟨.duplicateIdentifier "a", place⟩ := by
  have first : IsName "a" := ⟨⟨'a', _, rfl, rfl⟩, List.all_eq_true.1 (by decide)⟩
  have second : IsName "b_2" := ⟨⟨'b', _, rfl, rfl⟩, List.all_eq_true.1 (by decide)⟩
  have named : ∀ name ∈ ["a", "b_2"], IsName name := by simp [first, second]
  have admitted : Admitted ["a", "b_2"] := ⟨by decide, by decide, by decide⟩
  have plain : IsCollection .single "c ".toList := ⟨by decide, by decide, by decide⟩
  have accepted : Snippet.readExpression "c " = .ok (.identifier ⟨0, 1⟩ "c") := rfl
  refine ⟨named, admitted, plain, accepted, ?_, ?_⟩
  · obtain ⟨body, trimmed, -, enclosing, -⟩ := (@parse_loopHeader .single 1 _ .ofWord _ _
      (by decide) named plain accepted).1 admitted
    have read : Snippet.readExpression (trim "c ") = .ok (.identifier ⟨0, 1⟩ "c") := rfl
    obtain rfl := Except.ok.inj (trimmed.symm.trans read)
    exact enclosing ⟨.inWord, 0⟩ ⟨[]⟩ ⟨nofun, .nil⟩ fun _ occurs =>
      absurd occurs Node.not_occurs_nil
  · have repeated : ∀ name ∈ ["a", "b_2", "a"], IsName name := by simp [first, second]
    obtain ⟨⟨fault, place⟩, refused, found, -⟩ := (@parse_loopHeader .single 1 _ .ofWord _ _
      (by decide) repeated plain accepted).2
      (fun h => absurd h.distinct (by decide)) ['>']
    have same : namesFault? [] ["a", "b_2", "a"] = Option.some (.duplicateIdentifier "a") := by
      decide
    obtain rfl := Option.some.inj (found.symm.trans same)
    exact ⟨place, refused⟩

/-- **A name that begins with a word of loops is refused**, though it is written as
documented. -/
theorem parse_loopHeader_word :
    IsName "in1" ∧ "in1" ∉ loopWords ∧ IsCollection .double "c".toList ∧
      Snippet.readExpression "c" = .ok (.identifier ⟨0, 1⟩ "c") ∧
      String.ofList (loopHeader .double 0 ["in1"] .inWord "c".toList ++ enclosed ['x'])
        = "<js @foreach=\"in1 in c\">x</js>" ∧
      Document.parse {} "<js @foreach=\"in1 in c\">x</js>"
        = .error ⟨.expectedVariable "'in'", ⟨1, 15⟩⟩ := by
  refine ⟨⟨⟨'i', _, rfl, rfl⟩, List.all_eq_true.1 (by decide)⟩, by decide,
    ⟨by decide, by decide, by decide⟩, rfl, by decide, ?_⟩
  have refused : (Document.parse {} "<js @foreach=\"in1 in c\">x</js>").map (fun _ => ())
      = .error ⟨.expectedVariable "'in'", ⟨1, 15⟩⟩ := by
    decide +kernel
  exact eq_error_of_map refused

end Document

end ViewTemplate
