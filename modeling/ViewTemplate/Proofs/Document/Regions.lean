import ViewTemplate.Proofs.Document.RoundTrip
import ViewTemplate.Proofs.Yields

/-!
# Texts up to what ends them

A comment, a snippet or a value in a source has a text of its own, and something ends it.
Some of these texts are taken as they are and others are put together again from tokens.
For the latter it is not enough that what ends the text stands nowhere in it: the token
before the end must not take the end in.

What a reader recovers is half of the matter, as that supposes that the text is tiled.
For the other half a reader is followed that may also fail, and then nothing is said of
it (`Leaves`).  Whatever it put together from tokens is tiled before what it left, so a
text that comes back as it was written has been tiled (`textUpTo_leaves`).

Both halves meet in sources of a single node (`parse_eq_single_iff`).

## Main Definitions

* `EndsFirst` — what ends a text begins nowhere in it
* `Leaves` — whatever a reader returns and leaves has a property

## Main Results

* `parse_eq_single_iff` — when a source is parsed to a given node

-/

namespace ViewTemplate

namespace Document

open Template Text

variable {α β : Type} {input output rest : List Char}

/-! ## Ends -/

/-- **The first closer ends the text.**  In the text and the closer behind it, the closer
begins nowhere before the end of the text. -/
def EndsFirst (closer text : List Char) : Prop :=
  ∀ i < text.length, ¬ closer <+: (text ++ closer).drop i

instance (closer text : List Char) : Decidable (EndsFirst closer text) :=
  inferInstanceAs (Decidable (∀ i < text.length, ¬ closer <+: (text ++ closer).drop i))

theorem EndsFirst.absent {closer text : List Char} (first : EndsFirst closer text)
    (nonempty : closer ≠ []) : ¬ closer <:+: text := by
  rintro ⟨before, behind, rfl⟩
  have some := List.length_pos_iff.2 nonempty
  refine first before.length ?_ ?_
  · simp only [List.length_append]
    omega
  · rw [List.append_assoc, List.append_assoc, List.drop_left]
    exact List.prefix_append _ _

/-! ## What readers leave -/

/-- **Whatever a reader returns**, wherever it started before a text, has a property
together with the text that is left then. -/
def Leaves (reader : Reader α) (input : List Char) (found : α → List Char → Prop) : Prop :=
  ∀ position, Yields ((reader.run standard).run ⟨input, position⟩)
    fun result => found result.1 result.2.rest

namespace Leaves

variable {found : α → List Char → Prop} {found' : β → List Char → Prop}

theorem pure {value : α} (h : found value input) : Leaves (Pure.pure value) input found :=
  fun _ => .pure h

/-- Of a part that does not matter nothing has to be known. -/
theorem any (reader : Reader α) : Leaves reader input fun _ _ => True :=
  fun _ _ _ => trivial

theorem mono {wider : α → List Char → Prop} {reader : Reader α}
    (h : Leaves reader input found) (widen : ∀ value rest, found value rest → wider value rest) :
    Leaves reader input wider :=
  fun position => (h position).mono fun result => widen result.1 result.2.rest

/-- What follows from what is known already. -/
theorem known {reader : Reader α} (h : ∀ value rest, found value rest) :
    Leaves reader input found :=
  (any reader).mono fun value rest _ => h value rest

/-- **Sequences.**  What follows may use what the first part returned and left. -/
theorem bind {reader : Reader α} {next : α → Reader β} (first : Leaves reader input found)
    (others : ∀ value rest, found value rest → Leaves (next value) rest found') :
    Leaves (reader >>= next) input found' :=
  fun position => (first position).bind fun result h =>
    others result.1 result.2.rest h result.2.position

/-- A part that is known to return. -/
theorem after {known : α → Prop} {reader : Reader α} {next : α → Reader β}
    (first : Recovers reader input rest known)
    (others : ∀ value, known value → Leaves (next value) rest found') :
    Leaves (reader >>= next) input found' := by
  intro position result ran
  obtain ⟨value, between, ran', h⟩ := first position
  refine others value h between result ?_
  have whole : ((reader.run standard).run ⟨input, position⟩).bind
      (fun found => ((next found.1).run standard).run found.2) = .ok result := ran
  rwa [ran'] at whole

theorem here {next : Position → Reader β}
    (others : ∀ position, Leaves (next position) input found') :
    Leaves (Document.here >>= next) input found' :=
  fun position => others position position

theorem peek {next : Option Token → Reader β}
    (others : ∀ position, Leaves
      (next ((standard.scan input).map (·.token position))) input found') :
    Leaves (Document.peek >>= next) input found' :=
  fun position => others position position

theorem failAt (position : Position) (fault : ParseFault) :
    Leaves (Document.failAt position fault) input found :=
  fun _ => .throw _

theorem failHere (fault : ParseFault) : Leaves (Document.failHere fault) input found :=
  .here fun position => .failAt position fault

end Leaves

/-- What the later reader leaves, the first one does. -/
theorem LeadsTo.leaves {reader : Reader α} {next : β → Reader α} {given : β → Prop}
    {found : α → List Char → Prop} (leads : LeadsTo reader input next output given)
    (others : ∀ value, given value → Leaves (next value) output found) :
    Leaves reader input found := by
  intro position
  obtain ⟨value, after, h, same⟩ := leads position
  rw [same]
  exact others value h after

/-! ## Texts put together from tokens -/

theorem take_leaves :
    Leaves take input fun token rest => ∃ piece, Cuts piece rest ∧ input = piece.text ++ rest
      ∧ token.kind = piece.kind := by
  cases found : standard.scan input with
  | none =>
    refine .peek fun position => ?_
    rw [found]
    exact .failHere _
  | some piece =>
    obtain ⟨rest, rfl⟩ := (Lexicon.scan_covers standard_hasDelimiters found).start
    rw [← bind_pure take]
    exact .after (take_recovers found) fun token taken => .pure ⟨piece, found, rfl, taken.1⟩

theorem expect_leaves {kind : TokenKind} {closer : List Char}
    (fixed : standard.spelling? kind = some closer) :
    Leaves (expect kind) input fun _ rest => input = closer ++ rest := by
  refine .bind take_leaves fun token rest taken => ?_
  obtain ⟨piece, cuts, rfl, same⟩ := taken
  split
  · rename_i wanted
    have written : piece.text = closer :=
      (Lexicon.scan_spelled cuts).fixed closer (by rw [← same, wanted, fixed]; rfl)
    exact .pure (by rw [written])
  · exact .failAt _ _

/-- **A text that was put together from tokens is tiled** before what is left. -/
theorem textsWhile_leaves (belongs : Token → Bool) (turns : Nat) :
    Leaves (textsWhile belongs turns) input fun pieces rest =>
      ∃ text, input = text ++ rest ∧ Tiled rest text ∧ String.join pieces = String.ofList text := by
  induction turns generalizing input with
  | zero => exact .failHere _
  | succ turns ih =>
    refine .peek fun position => ?_
    cases found : standard.scan input with
    | none => exact .pure ⟨[], rfl, .nil, rfl⟩
    | some piece =>
      rw [Option.map_some]
      dsimp only
      split
      · obtain ⟨behind, rfl⟩ := (Lexicon.scan_covers standard_hasDelimiters found).start
        refine .after (take_recovers found) fun _ _ => .bind ih fun pieces rest others => ?_
        obtain ⟨text, rfl, tiled, joined⟩ := others
        refine .pure ⟨piece.text ++ text, (List.append_assoc _ _ _).symm, .cons found tiled, ?_⟩
        rw [String.join_cons, joined, ← String.ofList_append]
      · exact .pure ⟨[], rfl, .nil, rfl⟩

theorem textWhile_leaves (belongs : Token → Bool) :
    Leaves (textWhile belongs) input fun taken rest =>
      input = taken.toList ++ rest ∧ Tiled rest taken.toList := by
  refine .after .counts fun turns _ => .bind (textsWhile_leaves belongs turns) ?_
  rintro pieces rest ⟨text, whole, tiled, joined⟩
  refine .pure ?_
  rw [joined, String.toList_ofList]
  exact ⟨whole, tiled⟩

theorem textUpTo_leaves {kind : TokenKind} {closer : List Char}
    (fixed : standard.spelling? kind = some closer) :
    Leaves (textUpTo kind) input fun taken rest =>
      input = taken.toList ++ (closer ++ rest) ∧ Tiled (closer ++ rest) taken.toList := by
  refine .bind (textWhile_leaves _) fun taken behind found => ?_
  refine .bind (expect_leaves fixed) fun _ rest same => .pure ?_
  rwa [same] at found

/-- Before what closes it once and for all, a text that comes back was tiled. -/
theorem tiled_of_taken {closer text : List Char} {taken : String}
    (found : text ++ (closer ++ output) = taken.toList ++ (closer ++ rest)
      ∧ Tiled (closer ++ rest) taken.toList)
    (same : taken = String.ofList text) : Tiled (closer ++ output) text := by
  obtain ⟨whole, tiled⟩ := found
  rw [same, String.toList_ofList] at whole tiled
  rwa [List.append_cancel_left whole]

/-- The handle of a snippet that was read has its text and what that was read to. -/
theorem captured_leaves {body : Type} {read : String → Except Snippet.Fault body}
    {source : String} {position : Position} :
    Leaves (captured (capture read source position)) input fun handle rest =>
      handle.source = source ∧ read source = .ok handle.body ∧ rest = input := by
  cases result : read source with
  | error fault =>
    rw [capture, result]
    exact .failAt _ _
  | ok value =>
    rw [capture, result]
    exact .pure ⟨rfl, rfl, rfl⟩

/-! ## Sources of a single node -/

/-- A source without carriage returns is parsed as it is. -/
theorem parse_ofList {text : List Char} (plain : '\r' ∉ text) :
    Document.parse {} (String.ofList text)
      = ((document.run standard).run ⟨text, .start⟩).map (·.1) := by
  have source : Cursor.ofSource (String.ofList text) = ⟨text, .start⟩ := by
    rw [Cursor.ofSource, String.toList_ofList, normalizeLines_eq plain]
  have valid : LexicalOptions.validate {} = .ok () := rfl
  rw [Document.parse, valid, source]
  rfl

/-- A source that is refused has no document, with places or without. -/
theorem parse_refused {source : String} {error : ParseError}
    (refused : (Document.parse {} source).map (fun _ => ()) = .error error) :
    (Document.parse {} source).map Document.unplaced = .error error := by
  rw [eq_error_of_map refused]
  rfl

/-- The nodes behind the first one of a document. -/
def documentBehind (first : Node) (depth turns : Nat) : Reader ViewTemplate.Document := do
  let nodes ← nodesToEnd (node depth) turns
  return ⟨first :: nodes⟩

/-- A document begins with its first node, unless that declares a layout. -/
theorem document_leads {kind : TokenKind} (first : firstKind input = some kind)
    (other : kind ≠ .layout) :
    LeadsTo document input
      (fun _ : Unit => nodeWith (node input.length) >>= fun found =>
        documentBehind found (input.length + 1) input.length)
      input fun _ => True := by
  refine .after (.looksFor .layout) fun _ same => ?_
  subst same
  have notLayout : ¬ decide (firstKind input = some TokenKind.layout) = true := by
    simpa [first] using other
  rw [if_neg notLayout]
  refine .after (@Recovers.pure _ input (· = []) [] rfl) fun _ none => ?_
  subst none
  refine .after .counts fun _ same => .after .counts fun _ same' => ?_
  subst same same'
  rw [nodesToEnd, bind_assoc]
  refine .after .looks fun _ same => ?_
  subst same
  rw [first, Option.isNone_some, if_neg Bool.false_ne_true, bind_assoc]
  refine .refl () trivial (bind_congr fun found => ?_)
  rw [documentBehind, bind_assoc]
  exact bind_congr fun nodes => by rw [pure_bind, List.nil_append]

/-- Nothing stands behind the last node. -/
theorem documentBehind_recovers {found : Node} {depth turns : Nat} (enough : 0 < turns) :
    Recovers (documentBehind found depth turns) [] [] (· = ⟨[found]⟩) := by
  obtain ⟨turns, rfl⟩ := Nat.exists_eq_add_one_of_ne_zero (Nat.ne_zero_of_lt enough)
  have nodes : Recovers (nodesToEnd (node depth) (turns + 1)) [] [] (· = []) :=
    .peekKind (.pure rfl)
  exact nodes.bind fun _ none => .pure (by rw [none])

theorem documentBehind_leaves {found : Node} {depth turns : Nat} :
    Leaves (documentBehind found depth turns) input fun document _ =>
      document.nodes.head? = some found :=
  .bind (.any _) fun _ _ _ => .pure rfl

/-- **What the first node of a parsed source tells.**  If the reader of nodes returns it
only when something holds, that holds. -/
theorem parse_head {text : List Char} {kind : TokenKind} {target : Node} {others : List Node}
    {holds : Prop} (plain : '\r' ∉ text) (first : firstKind text = some kind)
    (other : kind ≠ .layout)
    (only : Leaves (nodeWith (node text.length)) text fun found _ =>
      found.unplaced = target → holds)
    (parsed : (Document.parse {} (String.ofList text)).map Document.unplaced
      = .ok ⟨target :: others⟩) : holds := by
  have whole : Leaves Document.document text fun document _ =>
      ∀ found ∈ document.nodes.head?, found.unplaced = target → holds := by
    refine (document_leads first other).leaves fun _ _ => .bind only fun node _ h => ?_
    refine documentBehind_leaves.mono fun document _ same found head => ?_
    rw [same] at head
    exact Option.some.inj head ▸ h
  have results : Yields ((document.run standard).run ⟨text, .start⟩) fun result =>
      ∀ found ∈ result.1.nodes.head?, found.unplaced = target → holds := whole .start
  rw [parse_ofList plain] at parsed
  cases ran : (document.run standard).run ⟨text, .start⟩ with
  | error fault =>
    rw [ran] at parsed
    cases parsed
  | ok result =>
    rw [ran] at parsed
    have nodes : result.1.nodes.map Node.unplaced = target :: others :=
      congrArg ViewTemplate.Document.nodes (Except.ok.inj parsed)
    obtain ⟨found, behind, split, same, -⟩ := List.map_eq_cons_iff.1 nodes
    exact results result ran found (by rw [split]; rfl) same

/-- **When a source is parsed to a given node.**  The reader of nodes has to recover the
node from the source if something holds, and to return it only if that holds. -/
theorem parse_eq_single_iff {text : List Char} {kind : TokenKind} {target : Node} {holds : Prop}
    (plain : '\r' ∉ text) (first : firstKind text = some kind) (other : kind ≠ .layout)
    (recovers : holds → Recovers (nodeWith (node text.length)) text []
      fun found => found.unplaced = target)
    (only : Leaves (nodeWith (node text.length)) text fun found _ =>
      found.unplaced = target → holds) :
    (Document.parse {} (String.ofList text)).map Document.unplaced = .ok ⟨[target]⟩ ↔ holds := by
  refine ⟨parse_head plain first other only, fun h => ?_⟩
  have nonempty : 0 < text.length := by
    refine List.length_pos_iff.2 ?_
    rintro rfl
    cases first
  have whole : Recovers Document.document text [] fun found => found.unplaced = ⟨[target]⟩ := by
    refine (document_leads first other).recovers fun _ _ => .bind (recovers h) fun found same => ?_
    refine (documentBehind_recovers nonempty).mono ?_
    rintro _ rfl
    rw [Document.unplaced, List.map_singleton, same]
  obtain ⟨found, after, ran, same⟩ := whole .start
  rw [parse_ofList plain, ran]
  exact congrArg Except.ok same

/-! ## Texts between two tokens -/

/-- A node that holds the text between an opener and a closer. -/
def enclosedText (opening closing : TokenKind) (build : Position → String → Node) :
    Reader Node := do
  let token ← expect opening
  return build token.position (← textUpTo closing)

section Enclosed

variable {opening closing : TokenKind} {opener closer text : List Char}
  {build : Position → String → Node}

theorem enclosedText_recovers (opens : ∀ rest, Cuts ⟨opening, opener, none⟩ rest)
    (fixed : standard.spelling? closing = some closer) (closes : Cuts ⟨closing, closer, none⟩ rest)
    (tiled : Tiled (closer ++ rest) text) (absent : ¬ closer <:+: text) :
    Recovers (enclosedText opening closing build) (opener ++ (text ++ (closer ++ rest))) rest
      fun found => ∃ position, found = build position (String.ofList text) := by
  refine .bind (expect_recovers (opens _) rfl) fun token _ => ?_
  refine .bind (textUpTo_recovers fixed closes tiled absent) fun _ same => ?_
  exact .pure ⟨token.position, by rw [same]⟩

theorem enclosedText_leaves (opens : ∀ rest, Cuts ⟨opening, opener, none⟩ rest)
    (fixed : standard.spelling? closing = some closer) :
    Leaves (enclosedText opening closing build) (opener ++ (text ++ (closer ++ rest)))
      fun found _ => ∃ position taken, found = build position taken
        ∧ (taken = String.ofList text → Tiled (closer ++ rest) text) := by
  refine .after (expect_recovers (opens _) rfl) fun token _ => ?_
  refine .bind (textUpTo_leaves fixed) fun taken _ found => .pure ?_
  exact ⟨token.position, taken, rfl, tiled_of_taken found⟩

/-- Nodes of a form have a text of their own, and nothing else but a place. -/
structure HoldsText (build : Position → String → Node) : Prop where
  unplaced : ∀ position text, (build position text).unplaced = build .start text
  injective : ∀ text other, build .start text = build .start other → text = other

/-- **A source of an opener, a text and a closer** is parsed to the node that holds the
text if and only if the text is tiled before the closer. -/
theorem parse_enclosed_iff (plain : '\r' ∉ opener ++ (text ++ closer))
    (opens : ∀ rest, Cuts ⟨opening, opener, none⟩ rest) (other : opening ≠ .layout)
    (fixed : standard.spelling? closing = some closer) (closes : Cuts ⟨closing, closer, none⟩ [])
    (leads : ∀ nested input, firstKind input = some opening →
      LeadsTo (nodeWith nested) input (fun _ : Unit => enclosedText opening closing build) input
        fun _ => True)
    (holdsText : HoldsText build) (absent : ¬ closer <:+: text) :
    (Document.parse {} (String.ofList (opener ++ (text ++ closer)))).map Document.unplaced
      = .ok ⟨[build .start (String.ofList text)]⟩ ↔ Tiled closer text := by
  have first : firstKind (opener ++ (text ++ closer)) = some opening := (opens _).firstKind
  refine parse_eq_single_iff plain first other (fun tiled => ?_) ?_
  · refine (leads _ _ first).recovers fun _ _ => ?_
    have whole : Tiled (closer ++ []) text := by rwa [List.append_nil]
    have taken := @enclosedText_recovers _ _ _ _ _ text build opens fixed closes whole absent
    rw [List.append_nil] at taken
    refine taken.mono ?_
    rintro _ ⟨position, rfl⟩
    exact holdsText.unplaced position _
  · refine (leads _ _ first).leaves fun _ _ => ?_
    have taken := @enclosedText_leaves [] _ _ _ _ text build opens fixed
    rw [List.append_nil] at taken
    refine taken.mono ?_
    rintro _ _ ⟨position, taken, rfl, tiled⟩ same
    rw [holdsText.unplaced] at same
    exact tiled (holdsText.injective _ _ same)

end Enclosed

end Document

end ViewTemplate
