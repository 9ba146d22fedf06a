import NotifyScope.Edit
import NotifyScope.Report.Summary
import NotifyScope.Report.Document
import NotifyScope.Diff.Unified
import NotifyScope.Glob.Filter
import NotifyScope.Host.Memory
import NotifyScope.Ignore.Pattern
import NotifyScope.Main
import NotifyScope.Proofs.Block.Depth
import NotifyScope.Proofs.Document.Counts
import NotifyScope.Proofs.Document.Detail
import NotifyScope.Proofs.Document.LineEndings
import NotifyScope.Proofs.Document.Outcome
import NotifyScope.Proofs.Host.Agree
import NotifyScope.Proofs.Host.Files
import NotifyScope.Proofs.Host.Keeps
import NotifyScope.Proofs.Host.Printing
import NotifyScope.Proofs.Identifier.Cut
import NotifyScope.Proofs.Identifier.Numeral
import NotifyScope.Proofs.Identifier.Occurrence
import NotifyScope.Proofs.Identifier.Renaming
import NotifyScope.Proofs.Identifier.Tokens
import NotifyScope.Proofs.Identifier.Words
import NotifyScope.Proofs.Lines.Aligned
import NotifyScope.Proofs.Lines.Filled
import NotifyScope.Proofs.Lines.Position
import NotifyScope.Proofs.Lines.Window
import NotifyScope.Proofs.Method.Canonical
import NotifyScope.Proofs.Method.Context
import NotifyScope.Proofs.Method.Frame
import NotifyScope.Proofs.Method.Listing
import NotifyScope.Proofs.Method.Location
import NotifyScope.Proofs.Method.Relocated
import NotifyScope.Proofs.Method.Renamed
import NotifyScope.Proofs.Method.Stable
import NotifyScope.Proofs.Method.State
import NotifyScope.Proofs.Options.Given
import NotifyScope.Proofs.Options.Readable
import NotifyScope.Proofs.Report.Json
import NotifyScope.Proofs.Rewrite.Characters
import NotifyScope.Proofs.Rewrite.Conservation
import NotifyScope.Proofs.Rewrite.Convergence
import NotifyScope.Proofs.Rewrite.Covered
import NotifyScope.Proofs.Rewrite.Idempotence
import NotifyScope.Proofs.Rewrite.Layout
import NotifyScope.Proofs.Rewrite.Locality
import NotifyScope.Proofs.Rewrite.Marker
import NotifyScope.Proofs.Rewrite.References
import NotifyScope.Proofs.Rewrite.Settled
import NotifyScope.Proofs.Rewrite.Turns
import NotifyScope.Proofs.Rewrite.Unchanged
import NotifyScope.Proofs.Rewrite.UserLines
import NotifyScope.Proofs.Rule.Declaration
import NotifyScope.Proofs.Rule.Grammar
import NotifyScope.Proofs.Rule.Pattern
import NotifyScope.Proofs.Rule.Renamed
import NotifyScope.Proofs.Rule.Standard
import NotifyScope.Proofs.Rule.Targets
import NotifyScope.Proofs.Rule.Template
import NotifyScope.Proofs.Run.AnyOrder
import NotifyScope.Proofs.Run.Batch
import NotifyScope.Proofs.Run.Documents
import NotifyScope.Proofs.Run.Filter
import NotifyScope.Proofs.Run.Looking
import NotifyScope.Proofs.Run.OnlyJson
import NotifyScope.Proofs.Run.Preview
import NotifyScope.Proofs.Run.Quiet
import NotifyScope.Proofs.Run.Reading
import NotifyScope.Proofs.Run.Running
import NotifyScope.Proofs.Run.Showing
import NotifyScope.Proofs.Run.Watched
import NotifyScope.Proofs.Settings.Merged
import NotifyScope.Proofs.Settings.Precedence
import NotifyScope.Proofs.Source.Lines
import NotifyScope.Proofs.Text.Trim
import NotifyScope.Proofs.Text.Utf8
import NotifyScope.Proofs.Wrapper.Collapse
import NotifyScope.Proofs.Wrapper.Indentation
import NotifyScope.Proofs.Wrapper.Layers
import NotifyScope.Proofs.Wrapper.Nest
import NotifyScope.Proofs.Wrapper.Stack
import NotifyScope.Proofs.Wrapper.Steps
import NotifyScope.Proofs.Wrapper.Surplus
import NotifyScope.Proofs.Wrapper.Tower
import NotifyScope.Proofs.Source.RoundTrip
import NotifyScope.Proofs.Rewrite.Breaks
import NotifyScope.Proofs.Document.Written
import NotifyScope.Proofs.Host.Copies
import NotifyScope.Proofs.Host.Tree
import NotifyScope.Proofs.Run.Backup
import NotifyScope.Proofs.Settings.Search
import NotifyScope.Proofs.Diff.Compact
import NotifyScope.Proofs.Diff.Format
import NotifyScope.Proofs.Diff.Furthest
import NotifyScope.Proofs.Diff.Hunks
import NotifyScope.Proofs.Diff.Meeting
import NotifyScope.Proofs.Diff.Patch
import NotifyScope.Proofs.Diff.Printed
import NotifyScope.Proofs.Diff.Ranges
import NotifyScope.Proofs.Diff.Script
import NotifyScope.Proofs.Run.Patched
