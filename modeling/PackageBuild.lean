import PackageBuild.Build
import PackageBuild.Catalogue
import PackageBuild.Graph.NewNode
import PackageBuild.Lock.Run
import PackageBuild.Lock.Scenario
import PackageBuild.LogFormat.Handler
import PackageBuild.Number.Reader
import PackageBuild.Proofs.Attempt
import PackageBuild.Proofs.Blocking
import PackageBuild.Proofs.Blocking.Coverage
import PackageBuild.Proofs.Blocking.References
import PackageBuild.Proofs.Blocking.Resolution
import PackageBuild.Proofs.Blocking.Splitting
import PackageBuild.Proofs.Blocking.Tokens
import PackageBuild.Proofs.Build.Growth
import PackageBuild.Proofs.Build.Keeping
import PackageBuild.Proofs.Build.Refusals
import PackageBuild.Proofs.Build.Representation
import PackageBuild.Proofs.Build.Soundness
import PackageBuild.Proofs.Classification.Gaps
import PackageBuild.Proofs.Classification.History
import PackageBuild.Proofs.Classification.Likeness
import PackageBuild.Proofs.Classification.Members
import PackageBuild.Proofs.Classification.Order
import PackageBuild.Proofs.Classification.Partition
import PackageBuild.Proofs.Classification.Sameness
import PackageBuild.Proofs.Classification.Tally
import PackageBuild.Proofs.Classification.Units
import PackageBuild.Proofs.FileSystem
import PackageBuild.Proofs.Graph.Locating
import PackageBuild.Proofs.Graph.Numbering
import PackageBuild.Proofs.Json.Integers
import PackageBuild.Proofs.Json.Printable
import PackageBuild.Proofs.Json.Spelling
import PackageBuild.Proofs.Json.Strings
import PackageBuild.Proofs.Lock.Counts
import PackageBuild.Proofs.Lock.Holders
import PackageBuild.Proofs.Lock.Moves
import PackageBuild.Proofs.Lock.Orderly
import PackageBuild.Proofs.Lock.Preference
import PackageBuild.Proofs.Lock.Wakeup
import PackageBuild.Proofs.Lock.Withdrawal
import PackageBuild.Proofs.LogFormat.History
import PackageBuild.Proofs.LogFormat.Identifiers
import PackageBuild.Proofs.LogFormat.Tracing
import PackageBuild.Proofs.OrderedMap
import PackageBuild.Proofs.Path.Name
import PackageBuild.Proofs.Progress.History
import PackageBuild.Proofs.Progress.Rearrangement
import PackageBuild.Proofs.Record.Decoding
import PackageBuild.Proofs.Record.RoundTrip
import PackageBuild.Proofs.Record.Sameness
import PackageBuild.Proofs.Record.Shape
import PackageBuild.Proofs.Report.Agreement
import PackageBuild.Proofs.Report.Answer
import PackageBuild.Proofs.Report.Counts
import PackageBuild.Proofs.Report.Delivery
import PackageBuild.Proofs.Report.GivingBack
import PackageBuild.Proofs.Report.Rearrangement
import PackageBuild.Proofs.Report.Snapshot
import PackageBuild.Proofs.Report.Survey
import PackageBuild.Proofs.Report.Table
import PackageBuild.Proofs.Sorting.Kinship
import PackageBuild.Proofs.Sorting.Merge
import PackageBuild.Proofs.Sorting.Search
import PackageBuild.Proofs.Summary.Contents
import PackageBuild.Proofs.Summary.Csv
import PackageBuild.Proofs.Summary.Effects
import PackageBuild.Proofs.Summary.Export
import PackageBuild.Proofs.Summary.Reading
import PackageBuild.Proofs.Summary.Refusal
import PackageBuild.Proofs.Summary.ResultLog
import PackageBuild.Proofs.Summary.Rows
import PackageBuild.Proofs.Summary.Severity
import PackageBuild.Proofs.Summary.Survey
import PackageBuild.Proofs.Summary.Items
import PackageBuild.Proofs.Summary.Unresolved
import PackageBuild.Proofs.Telemetry.Activity
import PackageBuild.Proofs.Telemetry.Brackets
import PackageBuild.Proofs.Telemetry.Emission
import PackageBuild.Proofs.Telemetry.Limit
import PackageBuild.Proofs.Telemetry.Logging
import PackageBuild.Proofs.Telemetry.Normalising
import PackageBuild.Proofs.Telemetry.Refusing
import PackageBuild.Proofs.Telemetry.Script
import PackageBuild.Proofs.Telemetry.Settling
import PackageBuild.Proofs.Telemetry.Stage
import PackageBuild.Proofs.Telemetry.Truthfulness
import PackageBuild.Proofs.Template.Named
import PackageBuild.Proofs.Text.Numeral
import PackageBuild.Proofs.Text.Order
import PackageBuild.Proofs.Text.Pieces
import PackageBuild.Proofs.Value.Canonical
import PackageBuild.Proofs.Value.Maps
import PackageBuild.Proofs.Value.PlainForm
import PackageBuild.Proofs.Value.Stability
import PackageBuild.Proofs.Value.Writable
import PackageBuild.Proofs.Workshop.Holders
import PackageBuild.Proofs.Workshop.Snapshot
import PackageBuild.Record.Decode
import PackageBuild.Record.Typed
import PackageBuild.Report.Shown
import PackageBuild.Summary.Csv.Reader
import PackageBuild.Summary.Line.Reader
import PackageBuild.Summary.ResultLog
import PackageBuild.Telemetry.Script
import PackageBuild.Value.Convert
import PackageBuild.Value.Json
import PackageBuild.Workshop
