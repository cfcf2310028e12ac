import ViewTemplate.Main
import ViewTemplate.Template.Lexer
import ViewTemplate.Proofs.Effect
import ViewTemplate.Proofs.Snippet.EvaluationEffect
import ViewTemplate.Proofs.Render.Calls
import ViewTemplate.Proofs.Program.Nesting
import ViewTemplate.Proofs.Render.StepEffect
import ViewTemplate.Proofs.Program.Balance
import ViewTemplate.Proofs.Render.Restoration
import ViewTemplate.Proofs.Render.TargetStack
import ViewTemplate.Proofs.Template.Coverage
import ViewTemplate.Proofs.Document.Compilation
import ViewTemplate.Proofs.Document.Reading
import ViewTemplate.Proofs.Views.Programs
import ViewTemplate.Proofs.Render.Declarations
import ViewTemplate.Proofs.Render.LayoutChain
import ViewTemplate.Proofs.Render.DeclaredLayouts
import ViewTemplate.Proofs.Render.Captures
import ViewTemplate.Proofs.Render.StageTargets
import ViewTemplate.Proofs.Table
import ViewTemplate.Proofs.Coupling
import ViewTemplate.Proofs.Snippet.EvaluationCoupling
import ViewTemplate.Proofs.Render.StepCoupling
import ViewTemplate.Proofs.Render.Termination
import ViewTemplate.Proofs.Document.Placement
import ViewTemplate.Proofs.Document.Positions
import ViewTemplate.Proofs.Snippet.Soundness
import ViewTemplate.Proofs.Snippet.Completeness
import ViewTemplate.Proofs.Render.Watch
import ViewTemplate.Proofs.Render.Nesting
import ViewTemplate.Proofs.Render.Sessions
import ViewTemplate.Proofs.Snippet.Lexemes
import ViewTemplate.Proofs.Snippet.Splitting
import ViewTemplate.Proofs.Snippet.Ending
import ViewTemplate.Proofs.Document.Productions
import ViewTemplate.Proofs.Document.RoundTrip
import ViewTemplate.Proofs.Render.VariableNames
import ViewTemplate.Proofs.Render.Isolation
import ViewTemplate.Proofs.Render.Interpretation
import ViewTemplate.Proofs.Render.Refinement
import ViewTemplate.Proofs.Views.Compilations
import ViewTemplate.Proofs.Render.ViewHistory
import ViewTemplate.Proofs.Program.Identity
import ViewTemplate.Proofs.Value.Likeness
import ViewTemplate.Proofs.Snippet.OperationLikeness
import ViewTemplate.Proofs.Render.Moments
import ViewTemplate.Proofs.Render.Recording
import ViewTemplate.Proofs.Render.Correspondence
import ViewTemplate.Proofs.Render.EvaluationLikeness
import ViewTemplate.Proofs.Render.ExecutionLikeness
import ViewTemplate.Proofs.Render.CallLikeness
import ViewTemplate.Proofs.Render.Account
import ViewTemplate.Proofs.Render.Failures
import ViewTemplate.Proofs.Render.KnownBlocks
import ViewTemplate.Proofs.Render.BlockScope
import ViewTemplate.Proofs.Render.Copies
import ViewTemplate.Proofs.Render.Caching
import ViewTemplate.Proofs.Render.EarlierOutput
import ViewTemplate.Proofs.Document.Regions
import ViewTemplate.Proofs.Document.RawRegions
import ViewTemplate.Proofs.Document.DelimitedTexts
import ViewTemplate.Proofs.Render.LayoutContent
import ViewTemplate.Proofs.Views.Confinement
import ViewTemplate.Proofs.Render.LiteralDocuments
import ViewTemplate.Proofs.Repetition
import ViewTemplate.Proofs.Snippet.Progress
import ViewTemplate.Proofs.Document.Faults
import ViewTemplate.Proofs.Document.Progress
import ViewTemplate.Proofs.Document.ErrorPlaces
import ViewTemplate.Proofs.Document.WellPlaced
import ViewTemplate.Proofs.Template.Lookahead
import ViewTemplate.Proofs.Render.PartialRenders
import ViewTemplate.Proofs.Render.VariableLikeness
import ViewTemplate.Proofs.Snippet.EvaluationRelation
import ViewTemplate.Proofs.Render.StepRelation
import ViewTemplate.Proofs.Program.Origins
import ViewTemplate.Proofs.Render.PrintedInPlace
import ViewTemplate.Proofs.Snippet.MemberCalls
import ViewTemplate.Proofs.Snippet.Assignments
import ViewTemplate.Proofs.Annotation
import ViewTemplate.Proofs.Snippet.EvaluationAnnotation
import ViewTemplate.Proofs.Render.Interruptions
import ViewTemplate.Proofs.Render.OpenCaptures
import ViewTemplate.Proofs.Template.Openers
import ViewTemplate.Proofs.Render.AttributeCalls
import ViewTemplate.Proofs.Snippet.Blanks
import ViewTemplate.Proofs.Document.LoopHeaders
import ViewTemplate.Proofs.Document.UnknownBlocks
import ViewTemplate.Proofs.Value.Equality
import ViewTemplate.Proofs.Snippet.PropertyNames
import ViewTemplate.Proofs.Views.IdleSteps
import ViewTemplate.Proofs.Render.OneKey
