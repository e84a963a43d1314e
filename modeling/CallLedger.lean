import CallLedger.Binary64.Basic
import CallLedger.Binary64.Printing
import CallLedger.Binary64.Reading
import CallLedger.Block
import CallLedger.CallGraph
import CallLedger.CommandLine
import CallLedger.CommandLine.Draft
import CallLedger.CommandLine.Help
import CallLedger.CommandLine.Vocabulary
import CallLedger.Count
import CallLedger.Csv
import CallLedger.Decimal
import CallLedger.Failure
import CallLedger.FileSystem
import CallLedger.Folded.Ingest
import CallLedger.Folded.Line
import CallLedger.Folded.Load
import CallLedger.Input
import CallLedger.Invocation
import CallLedger.Job
import CallLedger.Json
import CallLedger.Listing
import CallLedger.Log
import CallLedger.Main
import CallLedger.Profile
import CallLedger.Program
import CallLedger.Proofs.Binary64.Hundredths
import CallLedger.Proofs.Binary64.Percentage
import CallLedger.Proofs.Binary64.Rounding
import CallLedger.Proofs.Binary64.WholeShare
import CallLedger.Proofs.Csv.Reading
import CallLedger.Proofs.Decimal.Grouping
import CallLedger.Proofs.Decimal.Reading
import CallLedger.Proofs.Decimal.Rounding
import CallLedger.Proofs.Encoding
import CallLedger.Proofs.FirstSeen
import CallLedger.Proofs.Folded.Balance
import CallLedger.Proofs.Folded.Course
import CallLedger.Proofs.Folded.Decision
import CallLedger.Proofs.Folded.Grammar
import CallLedger.Proofs.Folded.Ingestion
import CallLedger.Proofs.Folded.LineEnds
import CallLedger.Proofs.Folded.LineOrder
import CallLedger.Proofs.Folded.Lines
import CallLedger.Proofs.Folded.Meaning
import CallLedger.Proofs.Folded.Naming
import CallLedger.Proofs.Folded.Outcome
import CallLedger.Proofs.Folded.Pieces
import CallLedger.Proofs.Folded.Recount
import CallLedger.Proofs.Folded.Replay
import CallLedger.Proofs.Folded.RoundTrip
import CallLedger.Proofs.Folded.Samples
import CallLedger.Proofs.Folded.Statistics
import CallLedger.Proofs.Graph.Aggregation
import CallLedger.Proofs.Graph.Callers
import CallLedger.Proofs.Graph.EdgeMap
import CallLedger.Proofs.Graph.Numbering
import CallLedger.Proofs.Graph.Reordering
import CallLedger.Proofs.Graph.Totals
import CallLedger.Proofs.Json.Numbers
import CallLedger.Proofs.Json.Reader
import CallLedger.Proofs.Json.RoundTrip
import CallLedger.Proofs.Json.Texts
import CallLedger.Proofs.Listing.Document
import CallLedger.Proofs.Listing.Records
import CallLedger.Proofs.Listing.Shares
import CallLedger.Proofs.Program.Delivery
import CallLedger.Proofs.Program.ExitCode
import CallLedger.Proofs.Program.Files
import CallLedger.Proofs.Program.Limits
import CallLedger.Proofs.Ranking.Order
import CallLedger.Proofs.Ranking.Selection
import CallLedger.Proofs.Ranking.WholeRun
import CallLedger.Proofs.Registry.Interning
import CallLedger.Proofs.Registry.Labels
import CallLedger.Proofs.Report.Labels
import CallLedger.Proofs.Report.LineFeeds
import CallLedger.Proofs.Report.Lines
import CallLedger.Proofs.Report.Sections
import CallLedger.Proofs.Report.Truncation
import CallLedger.Proofs.Run.Accounting
import CallLedger.Proofs.Run.Bounds
import CallLedger.Proofs.Run.Bracket
import CallLedger.Proofs.Run.Conservation
import CallLedger.Proofs.Run.Renumbering
import CallLedger.Proofs.Run.Schedule
import CallLedger.Proofs.Run.Script
import CallLedger.Proofs.Run.SelfTime
import CallLedger.Proofs.Run.Steps
import CallLedger.Proofs.Run.Totals
import CallLedger.Proofs.Session.Contract
import CallLedger.Proofs.Session.Registrations
import CallLedger.Proofs.Thread.Activity
import CallLedger.Proofs.Thread.Bracket
import CallLedger.Proofs.Thread.Course
import CallLedger.Proofs.Thread.History
import CallLedger.Proofs.Thread.Obligations
import CallLedger.Proofs.Thread.Path
import CallLedger.Proofs.Thread.Range
import CallLedger.Proofs.Thread.Reachable
import CallLedger.Proofs.Thread.Straight
import CallLedger.Proofs.Thread.Table
import CallLedger.Proofs.Thread.TailCalls
import CallLedger.Ranking
import CallLedger.Registry
import CallLedger.Report
import CallLedger.Session
import CallLedger.Surroundings
import CallLedger.Symbol
import CallLedger.Symbol.Legacy
import CallLedger.Symbol.Limit
import CallLedger.Symbol.Punycode
import CallLedger.Symbol.V0.Cursor
import CallLedger.Symbol.V0.Printer
import CallLedger.Text.Character
import CallLedger.Text.Cluster
import CallLedger.Text.ClusterTable
import CallLedger.Text.Emoji
import CallLedger.Text.EmojiTable
import CallLedger.Text.EscapeTable
import CallLedger.Text.Ligature
import CallLedger.Text.Table
import CallLedger.Text.Width
import CallLedger.Text.WidthTable
import CallLedger.Text.Wrap
import CallLedger.Thread
import CallLedger.Violation
