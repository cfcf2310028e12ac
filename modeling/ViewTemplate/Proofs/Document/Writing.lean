import ViewTemplate.Document.Basic
import ViewTemplate.Proofs.Document.Shape
import Mathlib.Data.List.Chain

/-!
# Writings of documents

How a document is written down in the syntax of blocks, and which documents can be.

The writing of a tree leaves little open: values stand in double quotes, the links of
an `if` chain follow each other at once, and the default case of a choice comes last.
What is left is how a loop is worded and how far the names in a list stand apart
(`Wording`).

Not every tree has a writing that is read as this tree.  Two texts side by side are one
text in the source, a snippet with a double quote ends the value that it stands in, and
a variable whose first letters spell `in` or `of` is cut in two.  `Node.Spellable` says
this of one node and the snippets and names in it, and `Node.Writable` of all nodes,
however deep.  The parameters of a print block can be written even if one is repeated,
but only different ones are read (`Node.ParametersDiffer`).

Positions are no part of a writing, so trees are compared without them
(`Node.unplaced`).

## Main Definitions

* `Node.unplaced`, `Document.unplaced` — trees without positions
* `Wording` — what the syntax leaves open
* `Node.written`, `Document.written` — the text of a tree
* `Node.Spellable` — what the writing of a node asks of it
* `Node.Writable`, `Document.Writable` — the same of all nodes in it
* `Node.ParametersDiffer` — no parameter of a print block is repeated
-/

namespace ViewTemplate

open Template Text

/-! ## Trees without positions -/

/-- A snippet without its place. -/
def Captured.unplaced {α : Type} (handle : Captured α) : Captured α :=
  ⟨handle.source, .start, handle.body⟩

/-- A part of a value without its place. -/
def AttributePart.unplaced : AttributePart → AttributePart
  | literal text => literal text
  | expression handle => expression handle.unplaced

/-- What an attribute says, without places. -/
def AttributeForm.unplaced : AttributeForm → AttributeForm
  | plain value => plain (value.map fun parts => (parts.1, parts.2.map AttributePart.unplaced))
  | bound quote handle => bound quote handle.unplaced
  | conditional quote condition => conditional quote condition.unplaced
  | append quote suffix condition => append quote suffix condition.unplaced

/-- An attribute without its place. -/
def Attribute.unplaced (written : Attribute) : Attribute :=
  ⟨.start, written.name, written.form.unplaced⟩

/-- A tag without the places of its attributes. -/
def Tag.unplaced (tag : Tag) : Tag :=
  { tag with attributes := tag.attributes.map Attribute.unplaced }

namespace Node

/-- A node without the places of its parts. -/
@[simp] def unplaced : Node → Node
  | text _ content => text .start content
  | whitespace _ content => whitespace .start content
  | comment _ content => comment .start content
  | cdata _ content => cdata .start content
  | doctype _ => doctype .start
  | element _ tag children => element .start tag.unplaced (unplacedNodes children)
  | scope _ children => scope .start (unplacedNodes children)
  | print _ expression none => print .start expression.unplaced none
  | print _ expression (some (parameters, children)) =>
    print .start expression.unplaced (some (parameters, unplacedNodes children))
  | conditional _ condition children alternate =>
    conditional .start condition.unplaced (unplacedNodes children) (unplacedNext alternate)
  | elseIf _ condition children alternate =>
    elseIf .start condition.unplaced (unplacedNodes children) (unplacedNext alternate)
  | otherwise _ children => otherwise .start (unplacedNodes children)
  | switch _ expression cases fallback =>
    switch .start expression.unplaced (unplacedCases cases) (unplacedFallback fallback)
  | foreach _ identifiers collection children alternate =>
    foreach .start identifiers collection.unplaced (unplacedNodes children)
      (unplacedNext alternate)
  | loop _ condition children => loop .start condition.unplaced (unplacedNodes children)
  | render _ path context => render .start path (context.map Captured.unplaced)
  | renderContent _ slot => renderContent .start slot
  | contentFor _ slot children => contentFor .start slot (unplacedNodes children)
  | action _ handle => action .start handle.unplaced
  | printAction _ handle => printAction .start handle.unplaced
  | commentSpan _ content => commentSpan .start content
  | layout _ path => layout .start path
where
  /-- Nodes without their places. -/
  unplacedNodes : List Node → List Node
    | [] => []
    | node :: nodes => node.unplaced :: unplacedNodes nodes
  /-- The branch that follows a node, without its place. -/
  unplacedNext : Option Node → Option Node
    | none => none
    | some node => some node.unplaced
  /-- The cases of a choice without their places. -/
  unplacedCases : List (Branch Node) → List (Branch Node)
    | [] => []
    | ⟨_, condition, children⟩ :: cases =>
      ⟨.start, condition.unplaced, unplacedNodes children⟩ :: unplacedCases cases
  /-- The default case of a choice without its place. -/
  unplacedFallback : Option (Position × List Node) → Option (Position × List Node)
    | none => none
    | some (_, children) => some (.start, unplacedNodes children)

@[simp] theorem unplacedNodes_eq_map (nodes : List Node) :
    unplaced.unplacedNodes nodes = nodes.map unplaced := by
  induction nodes with
  | nil => rfl
  | cons node nodes ih => rw [unplaced.unplacedNodes, ih, List.map_cons]

@[simp] theorem unplacedNext_eq_map (next : Option Node) :
    unplaced.unplacedNext next = next.map unplaced := by
  cases next <;> rfl

end Node

/-- A branch without its place. -/
def Branch.unplaced (branch : Branch Node) : Branch Node :=
  ⟨.start, branch.condition.unplaced, branch.children.map Node.unplaced⟩

namespace Node

@[simp] theorem unplacedCases_eq_map (cases : List (Branch Node)) :
    unplaced.unplacedCases cases = cases.map Branch.unplaced := by
  induction cases with
  | nil => rfl
  | cons case cases ih =>
    obtain ⟨position, condition, children⟩ := case
    rw [unplaced.unplacedCases, ih, unplacedNodes_eq_map, List.map_cons]
    rfl

@[simp] theorem unplacedFallback_eq_map (fallback : Option (Position × List Node)) :
    unplaced.unplacedFallback fallback
      = fallback.map fun other => (.start, other.2.map unplaced) := by
  cases fallback with
  | none => rfl
  | some other => rw [unplaced.unplacedFallback, unplacedNodes_eq_map, Option.map_some]

end Node

/-- A document without the places of its parts. -/
def Document.unplaced (document : Document) : Document :=
  ⟨document.nodes.map Node.unplaced⟩

/-! ## Texts of trees -/

/-- The word between the names and the collection of a loop. -/
inductive LoopWord where
  | inWord
  | ofWord

/-- The characters of a word. -/
def LoopWord.characters : LoopWord → List Char
  | inWord => ['i', 'n']
  | ofWord => ['o', 'f']

/-- What the syntax of blocks leaves open. -/
structure Wording where
  /-- The word of a loop over a collection. -/
  loopWord : LoopWord
  /-- The number of spaces behind a comma between names. -/
  gap : Nat

namespace Writing

/-- The start of a block with a keyword. -/
def opener (keyword : String) : List Char :=
  '<' :: 'j' :: 's' :: ' ' :: '@' :: keyword.toList

/-- The closing tag of a block. -/
def closer : List Char := ['<', '/', 'j', 's', '>']

/-- A value behind an equals sign, in double quotes. -/
def assigned (value : List Char) : List Char :=
  '=' :: '"' :: (value ++ ['"'])

/-- The end of an opening tag, what stands inside, and the closing tag. -/
def enclosed (inside : List Char) : List Char :=
  '>' :: (inside ++ closer)

/-- The end of a tag that closes itself. -/
def selfClosing : List Char := [' ', '/', '>']

/-- The part of a block opener behind its value. -/
def tail (keyword : String) (value : List Char) : List Char :=
  ' ' :: '@' :: (keyword.toList ++ assigned value)

/-- Names that follow another one in a list: a comma and spaces before each. -/
def following (gap : Nat) (names : List String) : List Char :=
  names.flatMap fun name => ',' :: (List.replicate gap ' ' ++ name.toList)

/-- Names with commas between them. -/
def listed (gap : Nat) : List String → List Char
  | [] => []
  | name :: names => name.toList ++ following gap names

end Writing

namespace Node

open Writing

/-- **The text of a node** in the syntax of blocks.  Nodes of other kinds than those of
blocks, elements without attributes, texts and printed statements have none. -/
@[simp] def written (wording : Wording) : Node → List Char
  | text _ content => content.toList
  | element _ tag children =>
    if tag.isSelfClosing then '<' :: (tag.name.toList ++ ['/', '>'])
    else
      '<' :: (tag.name.toList ++ '>' :: (writtenNodes children
        ++ '<' :: '/' :: (tag.name.toList ++ ['>'])))
  | scope _ children => '<' :: 'j' :: 's' :: enclosed (writtenNodes children)
  | print _ expression none =>
    opener "print" ++ (assigned expression.source.toList ++ selfClosing)
  | print _ expression (some (parameters, children)) =>
    opener "print" ++ (assigned expression.source.toList
      ++ ((if parameters = [] then [] else tail "block" (listed wording.gap parameters))
        ++ enclosed (writtenNodes children)))
  | conditional _ condition children alternate =>
    opener "if" ++ (assigned condition.source.toList
      ++ (enclosed (writtenNodes children) ++ writtenNext alternate))
  | elseIf _ condition children alternate =>
    opener "else-if" ++ (assigned condition.source.toList
      ++ (enclosed (writtenNodes children) ++ writtenNext alternate))
  | otherwise _ children => opener "else" ++ enclosed (writtenNodes children)
  | switch _ expression cases fallback =>
    opener "switch" ++ (assigned expression.source.toList
      ++ enclosed (writtenCases cases ++ writtenFallback fallback))
  | foreach _ identifiers collection children alternate =>
    opener "foreach" ++ (assigned (listed wording.gap identifiers
        ++ ' ' :: (wording.loopWord.characters ++ ' ' :: collection.source.toList))
      ++ (enclosed (writtenNodes children) ++ writtenNext alternate))
  | loop _ condition children =>
    opener "while" ++ (assigned condition.source.toList ++ enclosed (writtenNodes children))
  | render _ path context =>
    opener "render" ++ (assigned path.toList
      ++ (context.elim [] (fun handle => tail "context" handle.source.toList) ++ selfClosing))
  | renderContent _ slot =>
    opener "render-content" ++ (slot.elim [] (fun name => assigned name.toList) ++ selfClosing)
  | contentFor _ slot children =>
    opener "content-for" ++ (assigned slot.toList ++ enclosed (writtenNodes children))
  | printAction _ handle => '\x7b' :: '%' :: '=' :: (handle.source.toList ++ ['%', '\x7d'])
  | whitespace .. | comment .. | cdata .. | doctype .. | action .. | commentSpan .. | layout .. =>
    []
where
  /-- The text of nodes, one behind the other. -/
  writtenNodes : List Node → List Char
    | [] => []
    | node :: nodes => node.written wording ++ writtenNodes nodes
  /-- The text of the branch that follows a node. -/
  writtenNext : Option Node → List Char
    | none => []
    | some node => node.written wording
  /-- The text of the cases of a choice. -/
  writtenCases : List (Branch Node) → List Char
    | [] => []
    | ⟨_, condition, children⟩ :: cases =>
      opener "case" ++ (assigned condition.source.toList ++ enclosed (writtenNodes children))
        ++ writtenCases cases
  /-- The text of the default case of a choice. -/
  writtenFallback : Option (Position × List Node) → List Char
    | none => []
    | some (_, children) => opener "default" ++ enclosed (writtenNodes children)

end Node

/-- **The text of a document** in the syntax of blocks. -/
def Document.written (wording : Wording) (document : Document) : String :=
  String.ofList (Node.written.writtenNodes wording document.nodes)

/-! ## Trees that can be written -/

/-- **What can stand in double quotes**: no quote ends it, no blanks at its ends are
dropped, and no line end in it is another one in the source. -/
structure Quotable (text : String) : Prop where
  trimmed : trim text = text
  noQuote : '"' ∉ text.toList
  noReturn : '\r' ∉ text.toList

/-- A name that stands in quotes by itself, such as a path or a slot. -/
structure IsLabel (text : String) : Prop extends Quotable text where
  nonempty : text ≠ ""

/-- **Tags that begin in a text end in it**: behind each angle bracket stands, sooner or
later, white space or a bracket that closes it. -/
def TagsEnd (text : List Char) : Prop :=
  ∀ after, '<' :: after <:+ text → ∃ c ∈ after, isSpace c = true ∨ c = '>'

/-- **Keywords that begin in a text end in it.** -/
def WordsEnd (text : List Char) : Prop :=
  ∀ after, '@' :: after <:+ text → ∃ c ∈ after, endsKeyword c = true

/-- **What can stand in quotes behind other words** and is cut into tokens there: no tag
that begins in it takes the quote in. -/
structure Trailing (text : String) : Prop extends Quotable text where
  tagsEnd : TagsEnd text.toList

/-- **What can stand between delimiters**: nothing in it takes the closing delimiter in,
and none closes it early. -/
structure Spannable (text : String) : Prop where
  noReturn : '\r' ∉ text.toList
  tagsEnd : TagsEnd text.toList
  wordsEnd : WordsEnd text.toList
  noEnd : ¬ ['%', '\x7d'] <:+: text.toList

/-- A character that a variable can start with. -/
def isNameStart (c : Char) : Bool :=
  isAsciiLetter c || c == '_' || c == '$'

/-- A character that a variable can go on with. -/
def isNamePart (c : Char) : Bool :=
  isAsciiLetterOrDigit c || c == '_' || c == '$'

/-- **A name of a variable**: a letter, `_` or `$`, and then letters, digits, `_` and `$`,
where the letters at the start are not a word of loops. -/
structure IsVariable (name : String) : Prop where
  start : ∃ c rest, name.toList = c :: rest ∧ isNameStart c = true
  parts : ∀ c ∈ name.toList, isNamePart c = true
  noWord : String.ofList (name.toList.takeWhile isAsciiLetter) ∉ ["in", "of"]

/-- **A plain text**: a letter, and then ASCII letters, digits and spaces. -/
def IsPlainText (text : String) : Prop :=
  ∃ c rest, text.toList = c :: rest ∧ isLetter c = true
    ∧ ∀ d ∈ rest, isAsciiLetterOrDigit d = true ∨ d = ' '

/-- A small ASCII letter. -/
def isSmallLetter (c : Char) : Bool :=
  97 ≤ c.toNat && c.toNat ≤ 122

/-- **A name of an element** with content that is read as nodes. -/
structure IsElementName (name : String) : Prop where
  nonempty : name ≠ ""
  letters : ∀ c ∈ name.toList, isSmallLetter c = true
  notVoid : isVoidElement name = false
  notRaw : name ∉ ["script", "style"]
  notBlock : name ≠ "js"

/-- **A name that tags can have**, whatever stands between them. -/
structure IsTagName (name : String) : Prop where
  nonempty : name.toList ≠ []
  letters : ∀ c ∈ name.toList, isSmallLetter c = true
  notBlock : name ≠ "js"

theorem IsElementName.isTagName {name : String} (named : IsElementName name) : IsTagName name where
  nonempty := fun none => named.nonempty (String.toList_eq_nil_iff.1 none)
  letters := named.letters
  notBlock := named.notBlock

namespace Node

/-- Whether a node is literal text. -/
def IsText : Node → Prop
  | text .. => True
  | _ => False

/-- No two texts stand side by side. -/
def TextsApart (nodes : List Node) : Prop :=
  nodes.IsChain fun node next => ¬ (node.IsText ∧ next.IsText)

/-- The lists of nodes that stand side by side between the tags of a node. -/
def bodies : Node → List (List Node)
  | switch _ _ cases fallback => cases.map (·.children) ++ fallback.toList.map (·.2)
  | node => [node.children]

/-- **What the writing of a node asks of it**: the node is of the syntax of blocks, a
plain text, an element without attributes or a printed statement; its snippets are what
their texts are read as; and texts and names can stand where they are written. -/
def Spellable : Node → Prop
  | text _ content => IsPlainText content
  | element _ tag children =>
    IsElementName tag.name ∧ tag.isVoid = false ∧ tag.attributes = []
      ∧ (tag.isSelfClosing = true → children = [])
  | scope .. | otherwise .. => True
  | print _ expression block =>
    Legible expression ∧ ∀ parameters ∈ block.map (·.1), ∀ name ∈ parameters, IsVariable name
  | conditional _ condition _ _ | elseIf _ condition _ _ | loop _ condition _ =>
    Legible condition
  | switch _ expression cases _ =>
    Legible expression ∧ ∀ case ∈ cases, Legible case.condition
  | foreach _ identifiers collection _ _ =>
    (identifiers.length = 1 ∨ identifiers.length = 2) ∧ identifiers.Nodup
      ∧ (∀ name ∈ identifiers, IsVariable name) ∧ Legible collection
      ∧ Trailing collection.source
  | render _ path context => IsLabel path ∧ ∀ handle ∈ context, Legible handle
  | renderContent _ slot => ∀ name ∈ slot, IsLabel name
  | contentFor _ slot _ => IsLabel slot
  | printAction _ handle =>
    Snippet.readStatement handle.source = .ok handle.body
      ∧ handle.body.isDeclaration = false ∧ Spannable handle.source
  | whitespace .. | comment .. | cdata .. | doctype .. | action .. | commentSpan .. | layout .. =>
    False
where
  /-- The value of a block holds a snippet that its text is read as. -/
  Legible (handle : Expression) : Prop :=
    Snippet.readExpression handle.source = .ok handle.body ∧ Quotable handle.source

/-- The parameters of a print block differ. -/
def ParametersDiffer : Node → Prop
  | print _ _ (some (parameters, _)) => parameters.Nodup
  | _ => True

/-- **A node that can be written** at a place: it stands where it may, its writing can be
read, no two texts in it stand side by side, and the same is true of the nodes in it,
however deep. -/
inductive Writable : Place → Node → Prop where
  | intro {place : Place} {node : Node} (admitted : place.Admits node)
      (spellable : node.Spellable) (apart : ∀ body ∈ node.bodies, TextsApart body)
      (children : ∀ child ∈ node.children, Writable .body child)
      (alternate : ∀ next ∈ node.alternate?, Writable node.alternatePlace next) :
      Writable place node

end Node

/-- **A document that can be written.** -/
structure Document.Writable (document : Document) : Prop where
  nodes : ∀ node ∈ document.nodes, node.Writable .body
  apart : Node.TextsApart document.nodes

end ViewTemplate
