import ViewTemplate.Program.Basic
import ViewTemplate.Text.Quoted
import ViewTemplate.Value.Text

/-!
# Program listings

A program in readable form, a line for each step, the bodies of a step indented under it.

## Main Definitions

* `AttributeStep.listing` — an attribute in the line of its tag
* `Step.lines` — the lines of a step
* `Program.listing` — the lines of a program
-/

namespace ViewTemplate

open Text

/-- A part of an attribute's value: literals as they are, expressions in braces. -/
def AttributePart.listing : AttributePart → String
  | literal text => text
  | expression inner => "\x7b" ++ inner.trimmed ++ "\x7d"

/-- An attribute in the line of its tag. -/
def AttributeStep.listing : AttributeStep → String
  | plain name none => name
  | plain name (some (quote, parts)) =>
    name ++ "=" ++ quote.toString ++ String.join (parts.map AttributePart.listing)
      ++ quote.toString
  | bound name _ expression => "[" ++ name ++ "]=" ++ expression.trimmed
  | conditional name condition => "[?" ++ name ++ "]=" ++ condition.trimmed
  | append name _ suffix condition =>
    "[" ++ name ++ "." ++ suffix ++ "]=" ++ condition.trimmed

/-- A line at some depth. -/
def listingLine (depth : Nat) (text : String) : String :=
  String.join (List.replicate depth "  ") ++ text

namespace Step

/-- The lines of a step at some depth. -/
def lines (depth : Nat) : Step → List String
  | text content => [listingLine depth ("text " ++ quoted content)]
  | comment content => [listingLine depth ("comment " ++ quoted content)]
  | cdata content => [listingLine depth ("cdata " ++ quoted content)]
  | doctype => [listingLine depth "doctype"]
  | openTag name attributes =>
    [listingLine depth ("open <" ++ name ++ ">"
      ++ String.join (attributes.map fun written => " " ++ written.listing))]
  | closeTag name => [listingLine depth ("close </" ++ name ++ ">")]
  | block body => listingLine depth "block" :: linesOf (depth + 1) body
  | branch condition consequent alternate =>
    listingLine depth ("if " ++ condition.trimmed) :: linesOf (depth + 1) consequent
      ++ linesUnder depth "else" alternate
  | switch expression cases fallback =>
    listingLine depth ("switch " ++ expression.trimmed) :: linesOfCases (depth + 1) cases
      ++ linesUnder (depth + 1) "default" fallback
  | foreach identifiers collection body empty =>
    listingLine depth ("foreach " ++ Value.joinTexts ", " identifiers ++ " in "
      ++ collection.trimmed) :: linesOf (depth + 1) body
      ++ linesUnder depth "else" empty
  | loop condition body =>
    listingLine depth ("while " ++ condition.trimmed) :: linesOf (depth + 1) body
  | renderPartial path (some context) _ =>
    [listingLine depth ("render " ++ quoted path ++ " with " ++ context.trimmed)]
  | renderPartial path none _ => [listingLine depth ("render " ++ quoted path)]
  | renderContent none => [listingLine depth "render-content"]
  | renderContent (some slot) => [listingLine depth ("render-content " ++ quoted slot)]
  | saveTarget => [listingLine depth "save-target"]
  | mergeTarget slot => [listingLine depth ("merge-target " ++ quoted slot)]
  | renderValue expression => [listingLine depth ("print " ++ expression.trimmed)]
  | renderAction action => [listingLine depth ("print " ++ action.trimmed)]
  | printBlock expression parameters body =>
    listingLine depth ("print " ++ expression.trimmed ++ " with block("
      ++ Value.joinTexts ", " parameters ++ ")") :: linesOf (depth + 1) body
  | execute action => [listingLine depth ("execute " ++ action.trimmed)]
  | setLayout path => [listingLine depth ("layout " ++ quoted path)]
where
  /-- The lines of steps, in order. -/
  linesOf (depth : Nat) : List Step → List String
    | [] => []
    | step :: rest => lines depth step ++ linesOf depth rest
  /-- The lines of an optional body under a title. -/
  linesUnder (depth : Nat) (title : String) : Option (List Step) → List String
    | none => []
    | some body => listingLine depth title :: linesOf (depth + 1) body
  /-- The lines of the cases of a choice by value. -/
  linesOfCases (depth : Nat) : List (Expression × List Step) → List String
    | [] => []
    | (expression, body) :: rest =>
      listingLine depth ("case " ++ expression.trimmed) :: linesOf (depth + 1) body
        ++ linesOfCases depth rest

end Step

/-- The lines of a program, each ended by a line feed. -/
def Program.listing (program : Program) : String :=
  String.join ((Step.lines.linesOf 0 program.steps).map (· ++ "\n"))

end ViewTemplate
