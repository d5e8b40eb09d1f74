import ClassUsage.Attribute.Bound
import ClassUsage.Attribute.Jsx
import ClassUsage.Attribute.Locator
import ClassUsage.Attribute.Payload
import ClassUsage.Attribute.Plain
import ClassUsage.Attribute.Svelte
import ClassUsage.ClassUse
import ClassUsage.Command.Argument
import ClassUsage.Command.Flag
import ClassUsage.Command.Request
import ClassUsage.Command.Run
import ClassUsage.Command.Usage
import ClassUsage.Document.Encoding
import ClassUsage.Document.Extract
import ClassUsage.Document.Report
import ClassUsage.Expression.Condition
import ClassUsage.Expression.Literal
import ClassUsage.Expression.Object
import ClassUsage.Expression.Operand
import ClassUsage.Expression.Parser
import ClassUsage.Expression.Session
import ClassUsage.Expression.Shape
import ClassUsage.Expression.Template
import ClassUsage.Expression.Ternary
import ClassUsage.Extraction
import ClassUsage.Json.Basic
import ClassUsage.Json.Bytes
import ClassUsage.Json.Emptiness
import ClassUsage.Json.Printer
import ClassUsage.Json.Reader
import ClassUsage.Json.Token
import ClassUsage.Log.Level
import ClassUsage.Main
import ClassUsage.Proofs.AttributeForms
import ClassUsage.Proofs.AttributeLineEnds
import ClassUsage.Proofs.AttributeReading
import ClassUsage.Proofs.BlankCharacters
import ClassUsage.Proofs.BoundForms
import ClassUsage.Proofs.BraceForms
import ClassUsage.Proofs.BracedAttribute
import ClassUsage.Proofs.BracketContent
import ClassUsage.Proofs.BranchChain
import ClassUsage.Proofs.BranchPairing
import ClassUsage.Proofs.ClassExpression
import ClassUsage.Proofs.ClassExpressionReading
import ClassUsage.Proofs.ClassNames
import ClassUsage.Proofs.ClassTables
import ClassUsage.Proofs.CleanScan
import ClassUsage.Proofs.ClosingMarks
import ClassUsage.Proofs.CombinedClasses
import ClassUsage.Proofs.Composition
import ClassUsage.Proofs.ConditionLineEnds
import ClassUsage.Proofs.ConditionTexts
import ClassUsage.Proofs.ConditionalMarks
import ClassUsage.Proofs.DepthLimit
import ClassUsage.Proofs.DialectAgreement
import ClassUsage.Proofs.DirectoryTree
import ClassUsage.Proofs.DocumentExtraction
import ClassUsage.Proofs.DocumentLineEnds
import ClassUsage.Proofs.DocumentPrefix
import ClassUsage.Proofs.EnclosingBrackets
import ClassUsage.Proofs.EscapedMarks
import ClassUsage.Proofs.ExpressionLineEnds
import ClassUsage.Proofs.ExpressionProvenance
import ClassUsage.Proofs.ExtractionGuarantees
import ClassUsage.Proofs.FormRecognition
import ClassUsage.Proofs.Formula
import ClassUsage.Proofs.FormulaReading
import ClassUsage.Proofs.GreedySelection
import ClassUsage.Proofs.LineEnds
import ClassUsage.Proofs.LiteralEnds
import ClassUsage.Proofs.LiteralProvenance
import ClassUsage.Proofs.LocatorOrder
import ClassUsage.Proofs.NestedText
import ClassUsage.Proofs.NestingDepth
import ClassUsage.Proofs.ObjectEntries
import ClassUsage.Proofs.OverlapRemoval
import ClassUsage.Proofs.PayloadProvenance
import ClassUsage.Proofs.PhraseReading
import ClassUsage.Proofs.Phrases
import ClassUsage.Proofs.Placement
import ClassUsage.Proofs.PlainAttributes
import ClassUsage.Proofs.PositionLookup
import ClassUsage.Proofs.ReadingSimulation
import ClassUsage.Proofs.RedundantBrackets
import ClassUsage.Proofs.RememberedUses
import ClassUsage.Proofs.RenderedConditions
import ClassUsage.Proofs.RequestAnswers
import ClassUsage.Proofs.ScanLineEnds
import ClassUsage.Proofs.ScriptExpression
import ClassUsage.Proofs.ScriptLooseOperators
import ClassUsage.Proofs.ScriptNesting
import ClassUsage.Proofs.ScriptReader
import ClassUsage.Proofs.ScriptSimpleOperand
import ClassUsage.Proofs.SourceAgreement
import ClassUsage.Proofs.SourceRun
import ClassUsage.Proofs.SummaryConsistency
import ClassUsage.Proofs.TemplateAgreement
import ClassUsage.Proofs.TemplateReading
import ClassUsage.Proofs.TopLevelSearch
import ClassUsage.Proofs.TopLevelSegments
import ClassUsage.Proofs.Trimming
import ClassUsage.Proofs.VisibleSources
import ClassUsage.Scan.Basic
import ClassUsage.Scan.Bracket
import ClassUsage.Scan.TopLevel
import ClassUsage.Source.Content
import ClassUsage.Source.Dialect
import ClassUsage.Source.Listing
import ClassUsage.Source.Path
import ClassUsage.Source.Resolve
import ClassUsage.Source.Tree
import ClassUsage.Source.Volume
import ClassUsage.Text.Basic
import ClassUsage.Text.Capitals
import ClassUsage.Text.CodeRange
import ClassUsage.Text.DigitChar
import ClassUsage.Text.Lemmas
import ClassUsage.Text.Lines
import ClassUsage.Text.LowerCase
import ClassUsage.Text.Marked
import ClassUsage.Text.Printable
import ClassUsage.Text.Quoted
import ClassUsage.Text.Utf16
import ClassUsage.Text.Utf8
import ClassUsage.Text.WordChar
import ClassUsage.Web.Host
import ClassUsage.Web.Loopback
import ClassUsage.Web.Respond
