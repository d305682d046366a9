import CauseLint.Table
import CauseLint.Total
import CauseLint.Text.Utf8
import CauseLint.Text.Ranges
import CauseLint.Text.Blank
import CauseLint.Text.Word
import CauseLint.Text.Digit
import CauseLint.Text.Printable
import CauseLint.Text.LowerCase
import CauseLint.Text.Quoted
import CauseLint.Text.Lines
import CauseLint.Text.Glob
import CauseLint.Text.Diff
import CauseLint.Text.Base64
import CauseLint.Text.Repeated
import CauseLint.Decimal.Binary
import CauseLint.Decimal.Shortest
import CauseLint.Decimal.Written
import CauseLint.Decimal.Amount
import CauseLint.Json.Basic
import CauseLint.Json.Printer
import CauseLint.Json.Reader
import CauseLint.Json.Shown
import CauseLint.Position
import CauseLint.Error
import CauseLint.Log
import CauseLint.Edit
import CauseLint.Syntax.Tree
import CauseLint.Syntax.Cursor
import CauseLint.Syntax.Unit
import CauseLint.Syntax.Call
import CauseLint.Syntax.Supplied
import CauseLint.Hierarchy.Basic
import CauseLint.Hierarchy.Builtin
import CauseLint.Types.Basic
import CauseLint.Types.Resolve
import CauseLint.Types.Index
import CauseLint.Types.Typing
import CauseLint.Oracle
import CauseLint.Matcher
import CauseLint.Rule
import CauseLint.Diagnostic
import CauseLint.Suppression
import CauseLint.Files.Path
import CauseLint.Abort
import CauseLint.Files.FileSystem
import CauseLint.Files.Collect
import CauseLint.Files.Source
import CauseLint.Run.Results
import CauseLint.Run.Checker
import CauseLint.Run.Runner
import CauseLint.Report.Sources
import CauseLint.Report.Entry
import CauseLint.Report.Tally
import CauseLint.Report.Terminal
import CauseLint.Report.Sarif
import CauseLint.Report.Html
import CauseLint.Report.Delivery
import CauseLint.Command.Options
import CauseLint.Command.Usage
import CauseLint.Command.Reader
import CauseLint.Command.Run
import CauseLint.Main
import CauseLint.Proofs.Effects
import CauseLint.Proofs.Text.Validity
import CauseLint.Proofs.Syntax.Traversal
import CauseLint.Proofs.Syntax.Order
import CauseLint.Proofs.Syntax.Receivers
import CauseLint.Proofs.Edit.Splice
import CauseLint.Proofs.Syntax.Slots
import CauseLint.Proofs.Rule.Verdict
import CauseLint.Proofs.Rule.Fixes
import CauseLint.Proofs.Rule.Mirror
import CauseLint.Proofs.Syntax.Patch
import CauseLint.Proofs.Rule.Fixed
import CauseLint.Proofs.Rule.Idempotence
import CauseLint.Proofs.Types.Circular
import CauseLint.Proofs.Run.Tally
import CauseLint.Proofs.Run.Completion
import CauseLint.Proofs.Rule.Doubts
import CauseLint.Proofs.Types.Members
import CauseLint.Proofs.Types.Asking
import CauseLint.Proofs.Types.Memory
import CauseLint.Proofs.Rule.History
import CauseLint.Proofs.Files.Places
import CauseLint.Proofs.Run.Findings
import CauseLint.Proofs.Command.Steps
import CauseLint.Proofs.Command.Mending
import CauseLint.Proofs.Command.Outcome
import CauseLint.Proofs.Command.Spellings
import CauseLint.Proofs.Run.Merging
import CauseLint.Proofs.Suppression.Agreement
import CauseLint.Proofs.Run.Apart
import CauseLint.Proofs.Json.Strings
import CauseLint.Proofs.Json.Lines
import CauseLint.Proofs.Json.Findings
import CauseLint.Proofs.Text.Records
import CauseLint.Proofs.Command.Listings
import CauseLint.Proofs.Report.Elements
import CauseLint.Proofs.Report.Groups
import CauseLint.Proofs.Report.Pages
import CauseLint.Proofs.Report.Placement
import CauseLint.Proofs.Edit.Simultaneous
import CauseLint.Proofs.Hierarchy.Descent
import CauseLint.Proofs.Hierarchy.Distance
import CauseLint.Proofs.Hierarchy.Nearest
import CauseLint.Proofs.Types.Joins
import CauseLint.Proofs.Rule.Joined
import CauseLint.Proofs.Types.Bounds
import CauseLint.Proofs.Types.Queries
import CauseLint.Proofs.Types.Termination
import CauseLint.Proofs.Types.Passes
import CauseLint.Proofs.Types.Thrown
import CauseLint.Proofs.Types.Names
import CauseLint.Proofs.Types.Supertypes
import CauseLint.Proofs.Rule.Chains
import CauseLint.Proofs.Rule.Fluent
import CauseLint.Proofs.Rule.NullConstant
import CauseLint.Proofs.Types.Fields
import CauseLint.Proofs.Types.Shadowing
import CauseLint.Proofs.Suppression.Markers
import CauseLint.Proofs.Suppression.Meaning
import CauseLint.Proofs.Suppression.Listed
import CauseLint.Proofs.Types.Choices
import CauseLint.Proofs.Types.Learning
import CauseLint.Proofs.Text.Rows
import CauseLint.Proofs.Types.Scope
import CauseLint.Proofs.Run.Reporting
import CauseLint.Proofs.Report.Tags
import CauseLint.Proofs.Report.Markup
import CauseLint.Proofs.Report.Escaping
import CauseLint.Proofs.Report.PatchedLine
import CauseLint.Proofs.Files.Collecting
import CauseLint.Proofs.Run.Turns
import CauseLint.Proofs.Run.Partition
import CauseLint.Proofs.Syntax.Rounds
