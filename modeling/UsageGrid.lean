import UsageGrid.Text.Blank
import UsageGrid.Text.Letters
import UsageGrid.Text.Quoted
import UsageGrid.Decimal.Layout
import UsageGrid.Decimal.Reader
import UsageGrid.Json.Reader
import UsageGrid.Json.Typed
import UsageGrid.Grid.Walk
import UsageGrid.Grid.Preview
import UsageGrid.Grid.Load
import UsageGrid.Csv.Writer
import UsageGrid.Extraction.Number
import UsageGrid.Pattern.Basic
import UsageGrid.Extraction.Period
import UsageGrid.Rules.Definition
import UsageGrid.RowCheck
import UsageGrid.Proposal.Draft
import UsageGrid.Dataflow.Payload
import UsageGrid.Rules.Grammar
import UsageGrid.Rules.Example
import UsageGrid.Log
import UsageGrid.Directory.Basic
import UsageGrid.Host.Held
import UsageGrid.Proposal.Search
import UsageGrid.Dataflow.Error
import UsageGrid.Dataflow.Session
import UsageGrid.Json.Span
import UsageGrid.Library.Basic
import UsageGrid.Report.Workers
import UsageGrid.Report.Make
import UsageGrid.Proposal.Remote
import UsageGrid.Settings.Basic
import UsageGrid.Command.Basic
import UsageGrid.Command.Perform
import UsageGrid.Main
import UsageGrid.Proofs.Outcome
import UsageGrid.Proofs.Text.Letters
import UsageGrid.Proofs.Grid.Load
import UsageGrid.Proofs.Rules.WellFormed
import UsageGrid.Proofs.Rules.Codec
import UsageGrid.Proofs.Rules.Source
import UsageGrid.Proofs.Rules.Extractor
import UsageGrid.Proofs.Rules.Area
import UsageGrid.Proofs.Rules.Aliases
import UsageGrid.Proofs.Rules.Definition
import UsageGrid.Proofs.Grid.Walk
import UsageGrid.Proofs.Extraction.Cleaning
import UsageGrid.Proofs.Extraction.Reference
import UsageGrid.Proofs.Extraction.Shape
import UsageGrid.Proofs.Extraction.Fields
import UsageGrid.Proofs.Extraction.Area
import UsageGrid.Proofs.Grid.Transpose
import UsageGrid.Proofs.Rules.Transpose
import UsageGrid.Proofs.Extraction.Transpose
import UsageGrid.Proofs.Host.Surroundings
import UsageGrid.Proofs.Library.Stable
import UsageGrid.Proofs.Dataflow.Run
import UsageGrid.Proofs.Proposal.Search
import UsageGrid.Proofs.Report.Making
import UsageGrid.Proofs.Report.Make
import UsageGrid.Proofs.Dataflow.Commit
import UsageGrid.Proofs.Proposal.Conversation
import UsageGrid.Proofs.Json.Canonical
import UsageGrid.Proofs.Decimal.Whole
import UsageGrid.Proofs.Decimal.Digits
import UsageGrid.Proofs.Decimal.Rounding
import UsageGrid.Proofs.Extraction.Execute
import UsageGrid.Proofs.Extraction.Period
import UsageGrid.Proofs.Extraction.Dates
import UsageGrid.Proofs.Table.Lossless
import UsageGrid.Proofs.Dataflow.Tidy
import UsageGrid.Proofs.Directory.Places
import UsageGrid.Proofs.Json.Parsed
import UsageGrid.Proofs.Json.Reading
import UsageGrid.Proofs.Json.RoundTrip
import UsageGrid.Proofs.Library.Call
import UsageGrid.Proofs.Library.Durable
import UsageGrid.Proofs.Report.Alone
import UsageGrid.Proofs.Report.Stored
import UsageGrid.Proofs.Report.Reuse
import UsageGrid.Proofs.Table.Checked
import UsageGrid.Proofs.Dataflow.Sessions
import UsageGrid.Proofs.Proposal.Replies
import UsageGrid.Proofs.Report.Blame
import UsageGrid.Proofs.Rules.Actions
import UsageGrid.Proofs.Extraction.Actions
import UsageGrid.Proofs.Extraction.Filter
import UsageGrid.Proofs.Rules.Places
import UsageGrid.Proofs.Rules.Faults
import UsageGrid.Proofs.Dataflow.Again
import UsageGrid.Proofs.Report.Again
import UsageGrid.Proofs.Extraction.Fallback
import UsageGrid.Proofs.Calendar.Fields
import UsageGrid.Proofs.Calendar.Reader
import UsageGrid.Proofs.Calendar.Written
import UsageGrid.Proofs.Calendar.Layout
import UsageGrid.Proofs.Extraction.Completed
import UsageGrid.Proofs.Extraction.Placeholder
import UsageGrid.Proofs.Extraction.ReadBack
import UsageGrid.Proofs.Extraction.Century
import UsageGrid.Proofs.Text.Parts
import UsageGrid.Proofs.Extraction.Number
import UsageGrid.Proofs.Csv.Reader
import UsageGrid.Proofs.Csv.Writer
import UsageGrid.Proofs.Csv.Lines
import UsageGrid.Proofs.Grid.Records
import UsageGrid.Proofs.Grid.Lines
import UsageGrid.Proofs.Table.ReadBack
import UsageGrid.Proofs.Rules.Shapes
import UsageGrid.Proofs.Rules.Nulls
import UsageGrid.Proofs.Csv.Append
import UsageGrid.Proofs.Grid.Trailing
import UsageGrid.Proofs.Grid.Preview
import UsageGrid.Proofs.Table.Names
import UsageGrid.Proofs.Proposal.Remote
import UsageGrid.Proofs.Grid.Loop
import UsageGrid.Proofs.Rules.Written
import UsageGrid.Proofs.Proposal.Bare
import UsageGrid.Proofs.Command.Run
import UsageGrid.Proofs.Command.Validate
