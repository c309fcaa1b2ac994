import PackageAudit.Breakdown
import PackageAudit.CommandLine.Arguments
import PackageAudit.CommandLine.Command
import PackageAudit.CommandLine.Run
import PackageAudit.CommandLine.Session
import PackageAudit.CommandLine.Views
import PackageAudit.Decimal.Format
import PackageAudit.Decimal.Shortest
import PackageAudit.Display.Emoji
import PackageAudit.Display.EmojiTable
import PackageAudit.Display.Frame
import PackageAudit.Display.Grid
import PackageAudit.Display.Markup
import PackageAudit.Display.Outline
import PackageAudit.Display.Width
import PackageAudit.Display.WidthTable
import PackageAudit.Display.Wrap
import PackageAudit.File.Encoding
import PackageAudit.File.Path
import PackageAudit.File.Source
import PackageAudit.File.Tree
import PackageAudit.Glob.Pattern
import PackageAudit.Ignore.Excluder
import PackageAudit.Ignore.Rule
import PackageAudit.Json.Access
import PackageAudit.Json.Document
import PackageAudit.Json.Parser
import PackageAudit.Json.Printer
import PackageAudit.Json.Value
import PackageAudit.Main
import PackageAudit.Package.Identifier
import PackageAudit.Package.Specifier
import PackageAudit.Project.Discovery
import PackageAudit.Project.Layout
import PackageAudit.Project.Manifest
import PackageAudit.Project.Settings
import PackageAudit.Proofs.CommandLine.Endings
import PackageAudit.Proofs.CommandLine.FailedRuns
import PackageAudit.Proofs.Decimal.Digits
import PackageAudit.Proofs.Decimal.Double
import PackageAudit.Proofs.Decimal.Rounding
import PackageAudit.Proofs.Display.Emoji
import PackageAudit.Proofs.Display.Labels
import PackageAudit.Proofs.Display.Markup
import PackageAudit.Proofs.Display.Outline
import PackageAudit.Proofs.Distinct
import PackageAudit.Proofs.File.Encoding
import PackageAudit.Proofs.File.Tree
import PackageAudit.Proofs.File.Written
import PackageAudit.Proofs.Glob.Matching
import PackageAudit.Proofs.Ignore.Defaults
import PackageAudit.Proofs.Ignore.Exclusion
import PackageAudit.Proofs.Ignore.Fitting
import PackageAudit.Proofs.Ignore.Lines
import PackageAudit.Proofs.Json.Grammar
import PackageAudit.Proofs.Json.Numerals
import PackageAudit.Proofs.Json.Objects
import PackageAudit.Proofs.Json.Readers
import PackageAudit.Proofs.Json.Recognition
import PackageAudit.Proofs.Json.RoundTrip
import PackageAudit.Proofs.Json.Spelling
import PackageAudit.Proofs.Json.Strings
import PackageAudit.Proofs.Keyed
import PackageAudit.Proofs.Lists
import PackageAudit.Proofs.Package.Identifier
import PackageAudit.Proofs.Package.Likeness
import PackageAudit.Proofs.Package.Specifier
import PackageAudit.Proofs.Project.Dependencies
import PackageAudit.Proofs.Project.Discovery
import PackageAudit.Proofs.Project.Layout
import PackageAudit.Proofs.Project.Loading
import PackageAudit.Proofs.Project.Manifest
import PackageAudit.Proofs.Project.Patterns
import PackageAudit.Proofs.Project.Rating
import PackageAudit.Proofs.Project.Settings
import PackageAudit.Proofs.Results.Agreement
import PackageAudit.Proofs.Results.Literal
import PackageAudit.Proofs.Results.RoundTrip
import PackageAudit.Proofs.Results.Shortening
import PackageAudit.Proofs.Risk.Double
import PackageAudit.Proofs.Risk.Exact
import PackageAudit.Proofs.Risk.Overflow
import PackageAudit.Proofs.Scan.Coverage
import PackageAudit.Proofs.Scan.Growth
import PackageAudit.Proofs.Scan.Layouts
import PackageAudit.Proofs.Scan.Methods
import PackageAudit.Proofs.Scan.Report
import PackageAudit.Proofs.Script.Operand
import PackageAudit.Proofs.Script.Reader
import PackageAudit.Proofs.Script.Rejection
import PackageAudit.Proofs.Script.Repair
import PackageAudit.Proofs.Script.Statement
import PackageAudit.Proofs.Syntax.Comments
import PackageAudit.Proofs.Syntax.Faults
import PackageAudit.Proofs.Syntax.Preorder
import PackageAudit.Proofs.Syntax.Pruning
import PackageAudit.Proofs.Syntax.Spans
import PackageAudit.Proofs.Text.Blank
import PackageAudit.Proofs.Text.Case
import PackageAudit.Proofs.Text.CodePoint
import PackageAudit.Proofs.Text.Phrase
import PackageAudit.Proofs.Text.Words
import PackageAudit.Proofs.Usage.Accounting
import PackageAudit.Proofs.Usage.CoUsage
import PackageAudit.Proofs.Usage.Comments
import PackageAudit.Proofs.Usage.Composition
import PackageAudit.Proofs.Usage.DeclarationOrder
import PackageAudit.Proofs.Usage.Extension
import PackageAudit.Proofs.Usage.Growth
import PackageAudit.Proofs.Usage.Ledger
import PackageAudit.Proofs.Usage.LocalBindings
import PackageAudit.Proofs.Usage.Locations
import PackageAudit.Proofs.Usage.Reading
import PackageAudit.Proofs.Usage.Rejections
import PackageAudit.Proofs.Usage.Reordering
import PackageAudit.Proofs.Usage.Report
import PackageAudit.Proofs.Usage.Sites
import PackageAudit.Proofs.Usage.Uncommented
import PackageAudit.Results.Document
import PackageAudit.Results.Overview
import PackageAudit.Results.UsageOutline
import PackageAudit.Risk.Level
import PackageAudit.Risk.Score
import PackageAudit.Scan.Document
import PackageAudit.Scan.Overview
import PackageAudit.Scan.Phrases
import PackageAudit.Scan.Report
import PackageAudit.Script.Ascription
import PackageAudit.Script.Dialect
import PackageAudit.Script.Element
import PackageAudit.Script.Function
import PackageAudit.Script.Linkage
import PackageAudit.Script.Literal
import PackageAudit.Script.Name
import PackageAudit.Script.Operand
import PackageAudit.Script.Operation
import PackageAudit.Script.Pattern
import PackageAudit.Script.Program
import PackageAudit.Script.Reader
import PackageAudit.Script.Rejection
import PackageAudit.Script.Repair.Attempt
import PackageAudit.Script.Repair.Contest
import PackageAudit.Script.Repair.Draft
import PackageAudit.Script.Repair.Lexeme
import PackageAudit.Script.Repair.Remedy
import PackageAudit.Script.Semicolon
import PackageAudit.Script.Statement
import PackageAudit.Script.TypeExpr
import PackageAudit.Syntax.Fault
import PackageAudit.Syntax.Node
import PackageAudit.Syntax.Walk
import PackageAudit.Text.Blank
import PackageAudit.Text.Case
import PackageAudit.Text.CodePoint
import PackageAudit.Text.Keyed
import PackageAudit.Text.Phrase
import PackageAudit.Text.PropertyTable
import PackageAudit.Text.Quoted
import PackageAudit.Usage.Document
import PackageAudit.Usage.Evidence
import PackageAudit.Usage.Extraction
import PackageAudit.Usage.Import
import PackageAudit.Usage.Ledger
import PackageAudit.Usage.Record
import PackageAudit.Usage.Report
