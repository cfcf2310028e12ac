import ViewTemplate.Proofs.Document.Regions
import ViewTemplate.Proofs.Render.LayoutChain

/-!
# Parts of a source that are taken as they are

The text of a comment, of a section of character data, of a script or of a style holds no
nodes: it is one text, up to what ends it.  Still it is put together from tokens.  So
where nothing in a text ends it, it is read back exactly if it is tiled, that is, if no
tag, keyword, delimiter or pair of dashes that begins in it takes in what ends it.
A region that is read back is rendered as it was written.

## Main Definitions

* `RawRegion` — comments, character data, scripts and styles
* `RawRegion.Encloses` — nothing in a text ends a region

## Main Results

* `RawRegion.verbatim` — when a region keeps its text

-/

namespace ViewTemplate

open Template Text Document

/-- The parts of a source whose text is taken as it is. -/
inductive RawRegion where
  /-- A comment. -/
  | comment
  /-- A section of character data. -/
  | cdata
  /-- A script. -/
  | script
  /-- A style. -/
  | style

namespace RawRegion

/-- What stands before the text of a region. -/
def opening : RawRegion → List Char
  | comment => ['<', '!', '-', '-']
  | cdata => ['<', '!', '[', 'C', 'D', 'A', 'T', 'A', '[']
  | script => ['<', 's', 'c', 'r', 'i', 'p', 't', '>']
  | style => ['<', 's', 't', 'y', 'l', 'e', '>']

/-- What stands behind the text of a region. -/
def closing : RawRegion → List Char
  | comment => ['-', '-', '>']
  | cdata => [']', ']', '>']
  | script => ['<', '/', 's', 'c', 'r', 'i', 'p', 't', '>']
  | style => ['<', '/', 's', 't', 'y', 'l', 'e', '>']

/-- A region with its text, as it is written. -/
def source (region : RawRegion) (text : String) : String :=
  String.ofList (region.opening ++ (text.toList ++ region.closing))

/-- The node of a region. -/
def node (text : String) : RawRegion → Node
  | comment => .comment .start text
  | cdata => .cdata .start text
  | script => .element .start ⟨"script", false, false, []⟩ [.text .start text]
  | style => .element .start ⟨"style", false, false, []⟩ [.text .start text]

/-- **Nothing in a text ends a region**: behind a comment or character data, the closer is
the first one, and in a script or a style no closing tag of the same name begins, in
capitals or not. -/
def Encloses (text : String) : RawRegion → Prop
  | comment => EndsFirst ['-', '-', '>'] text.toList
  | cdata => EndsFirst [']', ']', '>'] text.toList
  | script => ∀ name, toLower (String.ofList name) = "script" → ¬ '<' :: '/' :: name <:+: text.toList
  | style => ∀ name, toLower (String.ofList name) = "style" → ¬ '<' :: '/' :: name <:+: text.toList

end RawRegion

/-! ## Elements whose content is one text -/

section Elements

variable {name : String} {text rest : List Char}

/-- The names of these elements are names that tags can have. -/
theorem isTagName_of_raw (raw : name ∈ rawTextElements) : IsTagName name := by
  rcases List.mem_pair.1 raw with rfl | rfl
  · exact ⟨by decide, List.all_eq_true.1 (by decide), by decide⟩
  · exact ⟨by decide, List.all_eq_true.1 (by decide), by decide⟩

/-- The closing tag of an element ends its text, and no token in the text does. -/
theorem rawText_recovers (named : IsTagName name)
    (tiled : Tiled ('<' :: '/' :: (name.toList ++ '>' :: rest)) text)
    (absent : ∀ other, toLower (String.ofList other) = name → ¬ '<' :: '/' :: other <:+: text) :
    Recovers (rawText name) (text ++ '<' :: '/' :: (name.toList ++ '>' :: rest))
      ('<' :: '/' :: (name.toList ++ '>' :: rest))
      fun found => ∃ position, found = .text position (String.ofList text) := by
  have closes : Cuts ⟨.elementClosingStart, '<' :: '/' :: name.toList, some name⟩ ('>' :: rest) :=
    cuts_elementClosing named (by rintro _ ⟨⟩; rfl)
  refine .here fun position => .bind (textWhile_recovers tiled ?_ ?_) fun _ same => ?_
  · rintro before piece behind place rfl cuts
    by_contra ends
    simp only [Bool.or_eq_true, bne_iff_ne, ne_eq, not_or, not_not] at ends
    obtain ⟨closing, same⟩ := ends
    obtain ⟨other, written, lower⟩ := (Lexicon.scan_spelled cuts).closing closing
    rw [lower] at same
    refine absent other (Option.some.inj same) ?_
    rw [← written]
    exact (List.infix_append before piece.text behind).trans (by rw [List.append_assoc])
  · intro piece place found
    obtain rfl := Option.some.inj (found.symm.trans closes)
    simp
  · exact .pure ⟨position, by rw [same]⟩

/-- A text that comes back was tiled. -/
theorem rawText_leaves (name : String) {input : List Char} :
    Leaves (rawText name) input fun found rest => ∃ position taken, found = .text position taken
      ∧ input = taken.toList ++ rest ∧ Tiled rest taken.toList :=
  .here fun position => .bind (textWhile_leaves _) fun taken _ found =>
    .pure ⟨position, taken, rfl, found⟩

theorem elementContent_raw (nested : Reader Node) (raw : name ∈ rawTextElements) :
    elementContent nested name = do return [← rawText name] := by
  rw [elementContent, if_pos (List.contains_iff_mem.2 raw)]

/-- So the text of the element comes back if it is tiled. -/
theorem elementInside_raw_recovers {nested : Reader Node} {place : Position}
    (raw : name ∈ rawTextElements) (tiled : Tiled ('<' :: '/' :: (name.toList ++ '>' :: rest)) text)
    (absent : ∀ other, toLower (String.ofList other) = name → ¬ '<' :: '/' :: other <:+: text) :
    Recovers (elementInside nested ⟨name, false, false, []⟩ place)
      (text ++ '<' :: '/' :: (name.toList ++ '>' :: rest)) rest fun found =>
      found.unplaced
        = .element .start ⟨name, false, false, []⟩ [.text .start (String.ofList text)] := by
  have content : Recovers (elementContent nested name)
      (text ++ '<' :: '/' :: (name.toList ++ '>' :: rest))
      ('<' :: '/' :: (name.toList ++ '>' :: rest))
      fun children => ∃ position, children = [.text position (String.ofList text)] := by
    rw [elementContent_raw nested raw]
    refine .bind (rawText_recovers (isTagName_of_raw raw) tiled absent) fun _ found => ?_
    obtain ⟨position, rfl⟩ := found
    exact .pure ⟨position, rfl⟩
  refine .bind content fun children found => ?_
  obtain ⟨position, rfl⟩ := found
  exact .bind (closingTag_recovers (isTagName_of_raw raw)) fun _ _ => .pure rfl

/-- And it comes back only then. -/
theorem elementInside_raw_leaves {nested : Reader Node} {place : Position}
    (raw : name ∈ rawTextElements) :
    Leaves (elementInside nested ⟨name, false, false, []⟩ place) (text ++ rest) fun found _ =>
      found.unplaced
        = .element .start ⟨name, false, false, []⟩ [.text .start (String.ofList text)] →
      Tiled rest text := by
  have content : Leaves (elementContent nested name) (text ++ rest) fun children _ =>
      ∃ position taken, children = [.text position taken]
        ∧ (taken = String.ofList text → Tiled rest text) := by
    rw [elementContent_raw nested raw]
    refine .bind (rawText_leaves name) fun _ behind found => ?_
    obtain ⟨position, taken, rfl, whole, tiled⟩ := found
    refine .pure ⟨position, taken, rfl, fun same => ?_⟩
    rw [same, String.toList_ofList] at whole tiled
    rwa [List.append_cancel_left whole]
  refine .bind content fun children _ found => .bind (.any _) fun _ _ _ => .pure ?_
  obtain ⟨position, taken, rfl, tiled⟩ := found
  intro same
  injection same with _ _ children
  injection children with first
  injection first with _ taken
  exact tiled taken

/-- **A source of an element of raw text** is parsed to the element with its text if and
only if that is tiled before the closing tag. -/
theorem parse_rawElement_iff (raw : name ∈ rawTextElements)
    (plain : '\r' ∉ '<' :: (name.toList ++ '>' :: (text ++ '<' :: '/' :: (name.toList ++ ['>']))))
    (absent : ∀ other, toLower (String.ofList other) = name → ¬ '<' :: '/' :: other <:+: text) :
    (Document.parse {} (String.ofList
        ('<' :: (name.toList ++ '>' :: (text ++ '<' :: '/' :: (name.toList ++ ['>'])))))).map
        Document.unplaced
      = .ok ⟨[.element .start ⟨name, false, false, []⟩ [.text .start (String.ofList text)]]⟩
      ↔ Tiled ('<' :: '/' :: (name.toList ++ ['>'])) text := by
  have named := isTagName_of_raw raw
  have content : isVoidElement name = false :=
    not_isVoidElement_of_raw (List.mem_pair.1 raw)
  have first : firstKind
      ('<' :: (name.toList ++ '>' :: (text ++ '<' :: '/' :: (name.toList ++ ['>']))))
      = some .elementStart :=
    (cuts_element named (by rintro _ ⟨⟩; rfl)).firstKind
  have leads (nested : Reader Node) : LeadsTo (nodeWith nested)
      ('<' :: (name.toList ++ '>' :: (text ++ '<' :: '/' :: (name.toList ++ ['>']))))
      (elementInside nested ⟨name, false, false, []⟩)
      (text ++ '<' :: '/' :: (name.toList ++ ['>'])) fun _ => True := by
    refine .after .looks fun _ same => ?_
    rw [same, first]
    exact element_leads_bare named content
  refine parse_eq_single_iff plain first (by decide) (fun tiled => ?_) ?_
  · exact (leads _).recovers fun _ _ => elementInside_raw_recovers raw tiled absent
  · exact (leads _).leaves fun _ _ => elementInside_raw_leaves raw

end Elements

namespace RawRegion

/-! ## Parsing -/

/-- **A region is parsed to its node** if and only if its text is tiled before what closes
it. -/
theorem parse_iff (region : RawRegion) {text : String} (plain : '\r' ∉ text.toList)
    (encloses : region.Encloses text) :
    (Document.parse {} (region.source text)).map Document.unplaced = .ok ⟨[region.node text]⟩
      ↔ Tiled region.closing text.toList := by
  have whole : '\r' ∉ region.opening ++ (text.toList ++ region.closing) := by
    have before : '\r' ∉ region.opening := by cases region <;> decide
    have behind : '\r' ∉ region.closing := by cases region <;> decide
    exact List.not_mem_append before (List.not_mem_append plain behind)
  have same : String.ofList text.toList = text := String.ofList_toList
  cases region with
  | comment =>
    have parsed := @parse_enclosed_iff .commentStart .commentEnd _ _ text.toList .comment whole
      (fun _ => rfl) (by decide) rfl rfl
      (fun _ _ first => .after .looks fun _ looked => looked ▸ first ▸ .refl () trivial rfl)
      ⟨fun _ _ => rfl, fun _ _ same => by injection same⟩ (encloses.absent (by decide))
    rwa [same] at parsed
  | cdata =>
    have parsed := @parse_enclosed_iff .cdataStart .cdataEnd _ _ text.toList .cdata whole
      (fun _ => rfl) (by decide) rfl rfl
      (fun _ _ first => .after .looks fun _ looked => looked ▸ first ▸ .refl () trivial rfl)
      ⟨fun _ _ => rfl, fun _ _ same => by injection same⟩ (encloses.absent (by decide))
    rwa [same] at parsed
  | script =>
    have parsed := @parse_rawElement_iff "script" text.toList (by decide) whole encloses
    rwa [same] at parsed
  | style =>
    have parsed := @parse_rawElement_iff "style" text.toList (by decide) whole encloses
    rwa [same] at parsed

/-! ## Rendering -/

end RawRegion

section Nodes

variable {found : Node} {text : String}

theorem Node.eq_text (same : found.unplaced = .text .start text) :
    ∃ position, found = .text position text := by
  cases found with
  | text position content =>
    injection same with _ content
    exact ⟨position, by rw [content]⟩
  | print _ _ block => rcases block with _ | ⟨_, _⟩ <;> cases same
  | _ => cases same

theorem Node.eq_comment (same : found.unplaced = .comment .start text) :
    ∃ position, found = .comment position text := by
  cases found with
  | comment position content =>
    injection same with _ content
    exact ⟨position, by rw [content]⟩
  | print _ _ block => rcases block with _ | ⟨_, _⟩ <;> cases same
  | _ => cases same

theorem Node.eq_cdata (same : found.unplaced = .cdata .start text) :
    ∃ position, found = .cdata position text := by
  cases found with
  | cdata position content =>
    injection same with _ content
    exact ⟨position, by rw [content]⟩
  | print _ _ block => rcases block with _ | ⟨_, _⟩ <;> cases same
  | _ => cases same

theorem Node.eq_rawElement {name : String} (same : found.unplaced
      = .element .start ⟨name, false, false, []⟩ [.text .start text]) :
    ∃ position place, found = .element position ⟨name, false, false, []⟩ [.text place text] := by
  cases found with
  | element position tag children =>
    obtain ⟨_, isVoid, isSelfClosing, attributes⟩ := tag
    rw [Node.unplaced, Node.unplacedNodes_eq_map] at same
    injection same with _ tag children
    injection tag with name isVoid isSelfClosing attributes
    obtain ⟨child, rfl, only⟩ := List.map_eq_singleton_iff.1 children
    obtain ⟨place, rfl⟩ := Node.eq_text only
    dsimp only at name isVoid isSelfClosing
    subst name isVoid isSelfClosing
    obtain rfl := List.map_eq_nil_iff.1 attributes
    exact ⟨position, place, rfl⟩
  | print _ _ block => rcases block with _ | ⟨_, _⟩ <;> cases same
  | _ => cases same

end Nodes

namespace RawRegion

/-- The steps of a region. -/
def steps (text : String) : RawRegion → List Step
  | comment => [.comment text]
  | cdata => [.cdata text]
  | script => [.openTag "script" [], .text text, .closeTag "script"]
  | style => [.openTag "style" [], .text text, .closeTag "style"]

/-- The node of a region is compiled to its steps, wherever its parts stand. -/
theorem compile_eq {region : RawRegion} {text : String} {document : ViewTemplate.Document}
    (parsed : document.unplaced = ⟨[region.node text]⟩) :
    document.compile = .ok ⟨region.steps text⟩ := by
  obtain ⟨nodes⟩ := document
  have alone : nodes.map Node.unplaced = [region.node text] :=
    congrArg ViewTemplate.Document.nodes parsed
  obtain ⟨found, rfl, same⟩ := List.map_eq_singleton_iff.1 alone
  cases region with
  | comment =>
    obtain ⟨position, rfl⟩ := Node.eq_comment same
    rfl
  | cdata =>
    obtain ⟨position, rfl⟩ := Node.eq_cdata same
    rfl
  | script | style =>
    obtain ⟨position, place, rfl⟩ := Node.eq_rawElement same
    rfl

/-- The steps of a region write it as it stands in the source. -/
theorem execute_steps (region : RawRegion) (environment : Environment) (origin : Nat)
    (text : String) (state : RenderState) :
    (environment.execute origin (region.steps text)).run.run state
      = (.ok (), state.write (region.source text)) := by
  have written (parts : List Char) (other : String) (same : parts = other.toList) :
      state.write (String.ofList parts) = state.write other := by
    rw [same, String.ofList_toList]
  cases region with
  | comment =>
    rw [source, written _ ("<!--" ++ text ++ "-->") (by simp [opening, closing])]
    rfl
  | cdata =>
    rw [source, written _ ("<![CDATA[" ++ text ++ "]]>") (by simp [opening, closing])]
    rfl
  | script =>
    have ran : (environment.execute origin (script.steps text)).run.run state
        = (.ok (), ((state.write ("<" ++ "script" ++ "" ++ ">")).write text).write
          ("</" ++ "script" ++ ">")) := rfl
    rw [ran, source, written _ ("<script>" ++ text ++ "</script>") (by simp [opening, closing])]
    simp [RenderState.write, Target.append, String.append_assoc]
  | style =>
    have ran : (environment.execute origin (style.steps text)).run.run state
        = (.ok (), ((state.write ("<" ++ "style" ++ "" ++ ">")).write text).write
          ("</" ++ "style" ++ ">")) := rfl
    rw [ran, source, written _ ("<style>" ++ text ++ "</style>") (by simp [opening, closing])]
    simp [RenderState.write, Target.append, String.append_assoc]

/-- **A region that is parsed to its node is rendered as it was written.** -/
theorem renders {region : RawRegion} {text : String}
    (parsed : (Document.parse {} (region.source text)).map Document.unplaced
      = .ok ⟨[region.node text]⟩)
    {environment : Environment} (lexical : environment.options.lexical = {})
    (noLayout : environment.options.defaultLayout = none) (context : Value) (store : ViewStore) :
    ((environment.renderString (region.source text) context).run.run store).1
      = .ok (region.source text) := by
  have compiled : environment.compileSource Environment.sourceName (region.source text)
      = .ok ⟨region.steps text⟩ := by
    rw [Environment.compileSource, lexical]
    cases read : Document.parse {} (region.source text) with
    | error fault =>
      rw [read] at parsed
      cases parsed
    | ok document =>
      rw [read] at parsed
      have compiles := compile_eq (Except.ok.inj parsed)
      show (document.compile).mapError _ = _
      rw [compiles]
      rfl
  exact renderString_eq_ok compiled (region.execute_steps environment · text) noLayout context
    store

/-- **Regions keep their text.**  If nothing in a text ends a region, it is parsed to its
node if and only if the text is tiled before what closes the region; and then the source
is rendered as it is. -/
theorem verbatim (region : RawRegion) {text : String} (plain : '\r' ∉ text.toList)
    (encloses : region.Encloses text) :
    ((Document.parse {} (region.source text)).map Document.unplaced = .ok ⟨[region.node text]⟩
        ↔ Tiled region.closing text.toList)
      ∧ (Tiled region.closing text.toList →
        ∀ (environment : Environment) (context : Value) (store : ViewStore),
          environment.options.lexical = {} → environment.options.defaultLayout = none →
          ((environment.renderString (region.source text) context).run.run store).1
            = .ok (region.source text)) := by
  have parsed := region.parse_iff plain encloses
  refine ⟨parsed, fun tiled environment context store lexical noLayout => ?_⟩
  exact renders (parsed.2 tiled) lexical noLayout context store

/-- A comparison in a script: the bracket in it opens no tag. -/
theorem verbatim_comparison :
    let environment : Environment :=
      { options := {}, source := .memory [], functions := fun _ _ => .ok .null }
    '\r' ∉ "a < b".toList ∧ script.Encloses "a < b" ∧
      (Document.parse {} (script.source "a < b")).map Document.unplaced
        = .ok ⟨[script.node "a < b"]⟩ ∧
      ((environment.renderString "<script>a < b</script>" .undefined).run.run {}).1
        = .ok "<script>a < b</script>" := by
  intro environment
  have plain : '\r' ∉ "a < b".toList := by decide
  have encloses : script.Encloses "a < b" := fun name _ within =>
    absurd (within.subset (by simp)) (by decide : '/' ∉ "a < b".toList)
  have tiled : Tiled script.closing "a < b".toList :=
    @Tiled.cons _ ⟨.letters, ['a'], none⟩ _ rfl <|
      @Tiled.cons _ ⟨.whitespace, [' '], none⟩ _ rfl <|
        @Tiled.cons _ ⟨.leftAngleBrace, ['<'], none⟩ _ rfl <|
          @Tiled.cons _ ⟨.whitespace, [' '], none⟩ _ rfl <|
            @Tiled.cons _ ⟨.letters, ['b'], none⟩ _ rfl .nil
  have kept := verbatim script plain encloses
  exact ⟨plain, encloses, kept.1.2 tiled, kept.2 tiled environment .undefined {} rfl rfl⟩

/-- Without spaces the bracket opens one, whose name goes on up to the end of the closing
tag: then the script has no end.  A comment whose text ends with a dash has none either. -/
theorem verbatim_swallowed :
    ('\r' ∉ "a<b".toList ∧ script.Encloses "a<b" ∧
      (Document.parse {} "<script>a<b</script>").map Document.unplaced
        = .error ⟨.endOfSource, ⟨1, 21⟩⟩) ∧
    ('\r' ∉ "a-".toList ∧ comment.Encloses "a-" ∧
      (Document.parse {} "<!--a--->").map Document.unplaced
        = .error ⟨.endOfSource, ⟨1, 10⟩⟩) := by
  have encloses : script.Encloses "a<b" := fun name _ within =>
    absurd (within.subset (by simp)) (by decide : '/' ∉ "a<b".toList)
  have first : EndsFirst ['-', '-', '>'] "a-".toList := by decide
  refine ⟨⟨by decide, encloses, ?_⟩, by decide, first, ?_⟩
  · exact parse_refused (by decide +kernel)
  · exact parse_refused (by decide +kernel)

end RawRegion

end ViewTemplate
