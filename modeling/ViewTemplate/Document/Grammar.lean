import ViewTemplate.Document.Basic
import ViewTemplate.Document.Reader

/-!
# The grammar of documents

A template is read by recursive descent. Every block ends with a closing block tag, and what starts
no structure is literal text.

## Main Definitions

* `blockBody` — the nodes of a block up to its closing tag
* `alternate` — the branch that follows a block, if one does
* `anyAttribute`, `element` — markup
* `nodeWith` — a node, given how to read the nodes inside it
* `node` — a node with others nested in it up to a given depth
* `parse` — the document of a source

## Design Notes

The productions take the reader of nested nodes as an argument, so that only `node` is recursive
across them. Its depth and the turns of every loop are bounded by the length of the source, of which
each turn and each nesting takes at least one character.
-/

namespace ViewTemplate.Document

open Template

/-! ### Bodies of blocks -/

/-- Nodes up to the next token of a kind, which is not taken. -/
def nodesBefore (nested : Reader Node) (kind : TokenKind) : (turns : Nat) → Reader (List Node)
  | 0 => failHere .exhausted
  | turns + 1 => do
    if ← sees kind then
      return []
    else
      let node ← nested
      return node :: (← nodesBefore nested kind turns)

/-- The end of an opening tag. -/
def tagEnd : Reader Unit := do
  skipSpace
  let _ ← expect .rightAngleBrace

/-- The end of a tag that closes itself. -/
def selfClosingEnd : Reader Unit := do
  skipSpace
  let _ ← expect .forwardSlash
  let _ ← expect .rightAngleBrace

/-- The nodes of a block, and its closing tag. -/
def blockBody (nested : Reader Node) : Reader (List Node) := do
  let children ← nodesBefore nested .blockClosingStart (← budget)
  let _ ← expect .blockClosingStart
  tagEnd
  return children

/-- The end of a block's opening tag, its nodes, and its closing tag. -/
def blockRest (nested : Reader Node) : Reader (List Node) := do
  tagEnd
  blockBody nested

/-- A block opener of a kind, its condition, and its nodes. -/
def branch (nested : Reader Node) (opener : TokenKind) : Reader (Branch Node) := do
  let token ← expect opener
  let condition ← blockExpression
  let children ← blockRest nested
  return ⟨token.position, condition, children⟩

/-- An embedded comment. -/
def commentSpan : Reader Node := do
  let token ← expect .commentExpressionStart
  return .commentSpan token.position (← textUpTo .expressionEnd)

/-! ### Blocks -/

/-- A block without a keyword. -/
def scopeBlock (nested : Reader Node) : Reader Node := do
  let token ← expect .scope
  return .scope token.position (← blockRest nested)

/-- The parameters of a print block behind the opening quote, up to the closing one; `names` are
those read so far. -/
def blockParameters (quote : TokenKind) : (turns : Nat) → List String → Reader (List String)
  | 0, _ => failHere .exhausted
  | turns + 1, names => do
    skipSpace
    if ← eat quote then
      return names
    else
      if !names.isEmpty then
        let _ ← expect .comma
        skipSpace
      let position ← here
      let name ← variableName
      if names.contains name then
        failAt position (.duplicateArgument name)
      else
        blockParameters quote turns (names ++ [name])

/-- The list of parameters of a print block, at least one. -/
def parameterList : Reader (List String) := do
  let _ ← expect .blockAttribute
  skipSpace
  let _ ← expect .equals
  skipSpace
  let quote ← expectQuote
  let names ← blockParameters quote (← budget) []
  if names.isEmpty then
    failHere .noArguments
  else
    skipSpace
    return names

/-- A printed expression, with a block unless the tag closes itself. -/
def printBlock (nested : Reader Node) : Reader Node := do
  let token ← expect .print
  let expression ← blockExpression
  skipSpace
  if ← sees .blockAttribute then
    let parameters ← parameterList
    let _ ← expect .rightAngleBrace
    return .print token.position expression (some (parameters, ← blockBody nested))
  else if ← eat .forwardSlash then
    let _ ← expect .rightAngleBrace
    return .print token.position expression none
  else
    let _ ← expect .rightAngleBrace
    return .print token.position expression (some ([], ← blockBody nested))

/-- The branch that follows a block, if one does. White space and embedded comments before it are
dropped, and also if no branch follows. -/
def alternate (nested : Reader Node) (admitsElseIf : Bool) : (turns : Nat) → Reader (Option Node)
  | 0 => failHere .exhausted
  | turns + 1 => do
    match ← peekKind with
    | some .whitespace =>
      let _ ← take
      alternate nested admitsElseIf turns
    | some .commentExpressionStart =>
      let _ ← commentSpan
      alternate nested admitsElseIf turns
    | some .elseIf =>
      if admitsElseIf then
        let ⟨position, condition, children⟩ ← branch nested .elseIf
        return some (.elseIf position condition children (← alternate nested true turns))
      else
        return none
    | some .elseBlock =>
      let token ← expect .elseBlock
      return some (.otherwise token.position (← blockRest nested))
    | _ => return none

/-- A conditional block with the branches that follow it. -/
def conditionalBlock (nested : Reader Node) : Reader Node := do
  let ⟨position, condition, children⟩ ← branch nested .ifBlock
  return .conditional position condition children (← alternate nested true (← budget))

/-- The cases of a choice, in order, and its default case. -/
structure Cases where
  /-- The cases. -/
  cases : List (Branch Node) := []
  /-- Where the default case starts, and its nodes. -/
  fallback : Option (Position × List Node) := none

/-- The cases of a choice up to its closing tag, which is not taken. -/
def switchCases (nested : Reader Node) : (turns : Nat) → Cases → Reader Cases
  | 0, _ => failHere .exhausted
  | turns + 1, found => do
    match ← peekKind with
    | none => failHere .endOfSource
    | some .blockClosingStart => return found
    | some .whitespace =>
      let _ ← take
      switchCases nested turns found
    | some .commentExpressionStart =>
      let _ ← commentSpan
      switchCases nested turns found
    | some .case =>
      let case ← branch nested .case
      switchCases nested turns { found with cases := found.cases ++ [case] }
    | some .defaultCase =>
      if found.fallback.isSome then
        failHere .secondDefault
      else
        let token ← expect .defaultCase
        let children ← blockRest nested
        switchCases nested turns { found with fallback := some (token.position, children) }
    | some _ => failUnexpected

/-- A choice by value. -/
def switchBlock (nested : Reader Node) : Reader Node := do
  let token ← expect .switch
  let expression ← blockExpression
  tagEnd
  let found ← switchCases nested (← budget) {}
  let _ ← expect .blockClosingStart
  tagEnd
  return .switch token.position expression found.cases found.fallback

/-- The names of a loop, at most two, up to a token that is no comma; `names` are those read so
far. -/
def loopNames : (turns : Nat) → List String → Reader (List String)
  | 0, _ => failHere .exhausted
  | turns + 1, names => do
    if !names.isEmpty then
      let _ ← expect .comma
    skipSpace
    let position ← here
    let name ← variableName
    if names.contains name then
      failAt position (.duplicateIdentifier name)
    else if names.length = 2 then
      failAt position .tooManyIdentifiers
    else
      skipSpace
      if ← sees .comma then
        loopNames turns (names ++ [name])
      else
        return names ++ [name]

/-- The word between the names and the collection of a loop. -/
def loopWord : Reader Unit := do
  let token ← take
  if token.kind = .inKeyword ∨ token.kind = .ofKeyword then
    return ()
  else
    failAt token.position (.expectedLoopWord (describe token))

/-- A loop over a collection. -/
def foreachBlock (nested : Reader Node) : Reader Node := do
  let token ← expect .foreach
  skipSpace
  let _ ← expect .equals
  skipSpace
  let quote ← expectQuote
  let names ← loopNames (← budget) []
  loopWord
  skipSpace
  let position ← here
  let text ← textUpTo quote
  let collection ← captured (captureExpression (Text.trim text) position)
  let children ← blockRest nested
  return .foreach token.position names collection children
    (← alternate nested false (← budget))

/-- A loop under a condition. -/
def loopBlock (nested : Reader Node) : Reader Node := do
  let ⟨position, condition, children⟩ ← branch nested .whileBlock
  return .loop position condition children

/-- Another view. -/
def renderBlock : Reader Node := do
  let token ← expect .render
  let path ← blockName "view path"
  skipSpace
  if ← eat .contextAttribute then
    let context ← blockExpression
    selfClosingEnd
    return .render token.position path (some context)
  else
    selfClosingEnd
    return .render token.position path none

/-- Captured content. -/
def renderContentBlock : Reader Node := do
  let token ← expect .renderContent
  skipSpace
  let slot ← if ← sees .equals then some <$> blockName "slot name" else pure none
  selfClosingEnd
  return .renderContent token.position slot

/-- Content that is captured for a slot. -/
def contentForBlock (nested : Reader Node) : Reader Node := do
  let token ← expect .contentFor
  let slot ← blockName "slot name"
  return .contentFor token.position slot (← blockRest nested)

/-- The declaration of a layout. -/
def layoutBlock : Reader Node := do
  let token ← expect .layout
  let path ← blockName "layout path"
  selfClosingEnd
  return .layout token.position path

/-! ### Embedded snippets -/

/-- A statement that is run. -/
def actionSpan : Reader Node := do
  let token ← expect .expressionStart
  let (text, position) ← spanText
  return .action token.position (← captured (captureAction text position))

/-- A statement whose value is printed, which cannot be a declaration. -/
def printSpan : Reader Node := do
  let token ← expect .printExpressionStart
  let (text, position) ← spanText
  let action ← captured (captureAction text position)
  if action.body.isDeclaration then
    failAt position .printedDeclaration
  else
    return .printAction token.position action

/-! ### Markup -/

/-- A comment. -/
def commentMarkup : Reader Node := do
  let token ← expect .commentStart
  return .comment token.position (← textUpTo .commentEnd)

/-- A section of character data. -/
def cdataMarkup : Reader Node := do
  let token ← expect .cdataStart
  return .cdata token.position (← textUpTo .cdataEnd)

/-- A document type, which has to be that of HTML. -/
def doctypeMarkup : Reader Node := do
  let token ← expect .doctype
  let _ ← expect .whitespace
  let word ← expect .letters
  if word.text = "html" then
    tagEnd
    return .doctype token.position
  else
    failAt word.position (.expectedHtml word.text)

/-- Whether a kind of token ends the name of an attribute. -/
def endsAttributeName : TokenKind → Bool
  | .whitespace | .equals | .dot | .rightSquareBrace | .forwardSlash | .rightAngleBrace
  | .doubleQuote | .singleQuote => true
  | _ => false

/-- Whether a kind of token is a delimiter of embedded snippets. -/
def isDelimiter : TokenKind → Bool
  | .expressionStart | .expressionEnd | .printExpressionStart | .commentExpressionStart => true
  | _ => false

/-- The name of an attribute. -/
def attributeName : Reader String := do
  let position ← here
  let name ← textWhile fun token => !endsAttributeName token.kind
  if name.isEmpty then
    match ← peekKind with
    | none => failHere .endOfSource
    | some _ => failAt position .expectedAttribute
  else
    return name

/-- The parts of an attribute's value up to its closing quote, which is not taken. -/
def attributeParts (quote : TokenKind) : (turns : Nat) → Reader (List AttributePart)
  | 0 => failHere .exhausted
  | turns + 1 => do
    match ← peekKind with
    | none => failHere .endOfSource
    | some kind =>
      if kind = quote then
        return []
      else if kind = .printExpressionStart then
        let _ ← take
        let (text, position) ← spanText
        let expression ← captured (captureExpression text position)
        return .expression expression :: (← attributeParts quote turns)
      else if kind = .commentExpressionStart then
        let _ ← commentSpan
        attributeParts quote turns
      else if kind = .expressionStart then
        failHere .statementInAttribute
      else if kind = .expressionEnd then
        failUnexpected
      else
        let text ← textWhile fun token => token.kind != quote && !isDelimiter token.kind
        return .literal text :: (← attributeParts quote turns)

/-- An attribute with a value in quotes, or with none. -/
def plainAttribute (position : Position) : Reader Attribute := do
  let name ← attributeName
  skipSpace
  if ← eat .equals then
    skipSpace
    let quote ← expectQuote
    let parts ← attributeParts quote (← budget)
    let _ ← expect quote
    return ⟨position, name, .plain (some (quoteChar quote, parts))⟩
  else
    return ⟨position, name, .plain none⟩

/-- The end of a name in brackets, and the expression in quotes behind it. -/
def boundValue : Reader (Char × Expression) := do
  let _ ← expect .rightSquareBrace
  let value ← quotedValue
  return (value.quote, ← captured (captureExpression value.text value.position))

/-- An attribute in brackets, behind the opening one. -/
def bracketAttribute (position : Position) : Reader Attribute := do
  if ← eat .questionMark then
    let name ← attributeName
    let (quote, condition) ← boundValue
    return ⟨position, name, .conditional quote condition⟩
  else
    let name ← attributeName
    if ← eat .dot then
      let suffixPosition ← here
      let suffix ← textWhile fun token => !endsAttributeName token.kind
      if suffix.isEmpty then
        failAt suffixPosition .expectedSuffix
      else
        let (quote, condition) ← boundValue
        return ⟨position, name, .append quote suffix condition⟩
    else
      let (quote, expression) ← boundValue
      return ⟨position, name, .bound quote expression⟩

/-- An attribute. -/
def anyAttribute : Reader Attribute := do
  let position ← here
  if ← eat .leftSquareBrace then
    bracketAttribute position
  else
    plainAttribute position

/-- The attributes of a tag up to its end, which is not taken. -/
def attributeList : (turns : Nat) → Reader (List Attribute)
  | 0 => failHere .exhausted
  | turns + 1 => do
    if (← sees .forwardSlash) || (← sees .rightAngleBrace) then
      return []
    else
      let first ← anyAttribute
      skipSpace
      return first :: (← attributeList turns)

/-- The elements whose content is raw text. -/
def rawTextElements : List String := ["script", "style"]

/-- Everything up to the closing tag of an element, which is not taken. -/
def rawText (tagName : String) : Reader Node := do
  let position ← here
  let text ← textWhile fun token =>
    token.kind != .elementClosingStart || token.tagName != some tagName
  return .text position text

/-- The closing tag of an element. -/
def closingTag (tagName : String) : Reader Unit := do
  let token ← expect .elementClosingStart
  tagEnd
  let found := token.tagName.getD ""
  if found = tagName then
    return ()
  else
    failAt token.position (.mismatchedClosing tagName found)

/-- The nodes inside an element. -/
def elementContent (nested : Reader Node) (tagName : String) : Reader (List Node) := do
  if rawTextElements.contains tagName then
    return [← rawText tagName]
  else
    nodesBefore nested .elementClosingStart (← budget)

/-- An element. -/
def element (nested : Reader Node) : Reader Node := do
  let token ← expect .elementStart
  let tagName := token.tagName.getD ""
  let isVoid := isVoidElement tagName
  skipSpace
  let attributes ← attributeList (← budget)
  let isSelfClosing ← eat .forwardSlash
  let _ ← expect .rightAngleBrace
  let tag : Tag := ⟨tagName, isVoid, isSelfClosing, attributes⟩
  if isVoid || isSelfClosing then
    return .element token.position tag []
  else
    let children ← elementContent nested tagName
    closingTag tagName
    return .element token.position tag children

/-! ### Text -/

/-- Whether a kind of token ends a run of literal text. -/
def endsText : TokenKind → Bool
  | .scope | .print | .ifBlock | .elseIf | .elseBlock | .switch | .case | .defaultCase
  | .foreach | .whileBlock | .render | .renderContent | .contentFor | .layout
  | .blockClosingStart | .expressionStart | .expressionEnd | .printExpressionStart
  | .commentExpressionStart | .commentStart | .cdataStart | .doctype
  | .elementStart | .elementClosingStart => true
  | _ => false

/-- Literal text. -/
def textRun : Reader Node := do
  let position ← here
  return .text position (← textWhile fun token => !endsText token.kind)

/-- White space before anything else. -/
def spaceRun : Reader Node := do
  let token ← take
  return .whitespace token.position token.text

/-- Whether a token opens the block tag with a keyword that is none. -/
def isUnknownBlock (lexicon : Lexicon) (token : Token) : Bool :=
  token.kind = .unknown && token.text.toList.contains '@'
    && Text.startsWith (Text.toLower token.text).toList ('<' :: lexicon.blockTag.toList)

/-- Literal text, unless it starts with an unknown block. -/
def textOrUnknown : Reader Node := do
  let lexicon ← read
  match ← peek with
  | some token =>
    if isUnknownBlock lexicon token then
      failAt token.position (.unknownBlock token.text)
    else
      textRun
  | none => textRun

/-! ### Nodes and documents -/

/-- A node, given how to read the nodes inside it. -/
def nodeWith (nested : Reader Node) : Reader Node := do
  match ← peekKind with
  | none => failHere .endOfSource
  | some kind =>
    match kind with
    | .scope => scopeBlock nested
    | .print => printBlock nested
    | .ifBlock => conditionalBlock nested
    | .switch => switchBlock nested
    | .foreach => foreachBlock nested
    | .whileBlock => loopBlock nested
    | .render => renderBlock
    | .renderContent => renderContentBlock
    | .contentFor => contentForBlock nested
    | .layout => failHere .misplacedLayout
    | .expressionStart => actionSpan
    | .printExpressionStart => printSpan
    | .commentExpressionStart => commentSpan
    | .commentStart => commentMarkup
    | .cdataStart => cdataMarkup
    | .doctype => doctypeMarkup
    | .elementStart => element nested
    | .whitespace => spaceRun
    | .elseIf | .elseBlock | .case | .defaultCase | .blockClosingStart | .expressionEnd
    | .elementClosingStart => failUnexpected
    | _ => textOrUnknown

/-- A node in which fewer than `depth` others are nested. -/
def node : (depth : Nat) → Reader Node
  | 0 => failHere .exhausted
  | depth + 1 => nodeWith (node depth)

/-- Nodes up to the end of the source. -/
def nodesToEnd (nested : Reader Node) : (turns : Nat) → Reader (List Node)
  | 0 => failHere .exhausted
  | turns + 1 => do
    if (← peekKind).isNone then
      return []
    else
      let node ← nested
      return node :: (← nodesToEnd nested turns)

/-- A whole document. Only its first token can declare a layout. -/
def document : Reader Document := do
  let layout ← if ← sees .layout then pure [← layoutBlock] else pure []
  let nodes ← nodesToEnd (node (← budget)) (← budget)
  return ⟨layout ++ nodes⟩

end Document

/-- The document of a source. -/
def Document.parse (options : Template.LexicalOptions) (source : String) :
    Except ParseError Document :=
  match options.validate with
  | .error fault => .error ⟨.options fault, .start⟩
  | .ok _ =>
    ((Document.document.run options.lexicon).run (.ofSource source)).map (·.1)

end ViewTemplate
