import QualityGate.CommandLine.Arguments
import QualityGate.CommandLine.Display
import QualityGate.CommandLine.Execute
import QualityGate.CommandLine.Number
import QualityGate.Context
import QualityGate.Decimal
import QualityGate.Decoder
import QualityGate.Detector
import QualityGate.Detector.Documentation
import QualityGate.Detector.Duplication
import QualityGate.Detector.HiddenTodo.Rule
import QualityGate.Detector.HiddenTodo.Scan
import QualityGate.Detector.HiddenTodo.Score
import QualityGate.Detector.HiddenTodo.Template
import QualityGate.Detector.Naming.Declaration
import QualityGate.Detector.Naming.Scan
import QualityGate.Detector.Naming.Segment
import QualityGate.Detector.Placeholder.Declaration
import QualityGate.Detector.Placeholder.Scan
import QualityGate.Detector.Size.Baseline
import QualityGate.Detector.Size.Scan
import QualityGate.Dictionary
import QualityGate.Digest
import QualityGate.Effect
import QualityGate.Failure
import QualityGate.FileSet
import QualityGate.Finding
import QualityGate.Gate
import QualityGate.Glob
import QualityGate.Instant.Basic
import QualityGate.Instant.Reader
import QualityGate.Json.Basic
import QualityGate.Json.Fault
import QualityGate.Json.Printer
import QualityGate.Json.Reader
import QualityGate.Language.Basic
import QualityGate.Language.Comment
import QualityGate.Language.Profile
import QualityGate.Location
import QualityGate.Lock.Basic
import QualityGate.Lock.File
import QualityGate.Lock.Marker
import QualityGate.Main
import QualityGate.Pattern
import QualityGate.Policy.Basic
import QualityGate.Policy.Classification
import QualityGate.Policy.Exception
import QualityGate.Report.Basic
import QualityGate.Report.Summary
import QualityGate.Run.Gates
import QualityGate.Run.Perform
import QualityGate.Run.Verdict
import QualityGate.Scope.Exclusion
import QualityGate.Scope.Git
import QualityGate.Scope.Ignore
import QualityGate.Scope.Resolve
import QualityGate.Scope.Walk
import QualityGate.Settings
import QualityGate.Settings.Load
import QualityGate.Text.Basic
import QualityGate.Text.Bytes
import QualityGate.Text.CodePoints
import QualityGate.Text.Letter
import QualityGate.Text.Quoted
import QualityGate.Text.Table
import QualityGate.Toml.Basic
import QualityGate.Toml.Draft
import QualityGate.Toml.Reader
import QualityGate.Toml.Scalar
import QualityGate.Tree
import QualityGate.Word
import QualityGate.Proofs.Policy.Classification
import QualityGate.Proofs.Report.Order
import QualityGate.Proofs.Run.Conservation
import QualityGate.Proofs.HiddenTodo.GroupFinding
import QualityGate.Proofs.HiddenTodo.Runs
import QualityGate.Proofs.HiddenTodo.Grouping
import QualityGate.Proofs.Text.Decimal
import QualityGate.Proofs.Instant.RoundTrip
import QualityGate.Proofs.Json.Reads
import QualityGate.Proofs.Json.Record
import QualityGate.Proofs.Lock.Marker
import QualityGate.Proofs.Effect
import QualityGate.Proofs.Tree
import QualityGate.Proofs.Lock.File
import QualityGate.Proofs.Lock.Exclusion
import QualityGate.Proofs.Number.Order
import QualityGate.Proofs.HiddenTodo.Threshold
import QualityGate.Proofs.Placeholder.Findings
import QualityGate.Proofs.Placeholder.Omission
import QualityGate.Proofs.Lock.Ownership
import QualityGate.Proofs.Duplication.Window
import QualityGate.Proofs.Duplication.Regions
import QualityGate.Proofs.Policy.Strictness
import QualityGate.Proofs.StateDirectory
import QualityGate.Proofs.Lock.Recovery
import QualityGate.Proofs.Run.Release
import QualityGate.Proofs.Location
import QualityGate.Proofs.Scope.Exclusion
import QualityGate.Proofs.Scope.Walk
import QualityGate.Proofs.Run.Alike
import QualityGate.Proofs.Run.Repeat
import QualityGate.Proofs.Report.Stability
import QualityGate.Proofs.Run.GateOrder
import QualityGate.Proofs.Comment.Pieces
import QualityGate.Proofs.Comment.Factorization
import QualityGate.Proofs.FileSet
import QualityGate.Proofs.Scope.Resolve
import QualityGate.Proofs.Location.Spelling
import QualityGate.Proofs.Detector.Places
import QualityGate.Proofs.Detector.Locality
import QualityGate.Proofs.Text.Ends
import QualityGate.Proofs.Gate
import QualityGate.Proofs.Settings
import QualityGate.Proofs.Run.Notices
import QualityGate.Proofs.CommandLine.ExitCodes
import QualityGate.Proofs.Size.FreshBaseline
import QualityGate.Proofs.Lock.AnyContent
import QualityGate.Proofs.Comment.CharacterLiteral
import QualityGate.Proofs.Policy.UnknownGate
import QualityGate.Proofs.Placeholder.Artifact
import QualityGate.Proofs.Placeholder.Promise
import QualityGate.Proofs.Text.Blanks
import QualityGate.Proofs.Comment.Scan
import QualityGate.Proofs.Comment.TextLiteral
import QualityGate.Proofs.Comment.Relayout
import QualityGate.Proofs.Duplication.Relayout
import QualityGate.Proofs.Duplication.Framing
import QualityGate.Proofs.Json.Lookahead
import QualityGate.Proofs.Json.Skipping
import QualityGate.Proofs.Json.Bracketed
import QualityGate.Proofs.Json.Agreement
import QualityGate.Proofs.Placeholder.Insertion
import QualityGate.Proofs.Placeholder.Padding
import QualityGate.Proofs.Duplication.Similarity
import QualityGate.Proofs.Size.Tier
import QualityGate.Proofs.Json.Indented
import QualityGate.Proofs.Size.RoundTrip
import QualityGate.Proofs.Lock.Recognition
import QualityGate.Proofs.Scope.Changes
import QualityGate.Proofs.Scope.Rules
import QualityGate.Proofs.Text.Split
import QualityGate.Proofs.Text.Words
import QualityGate.Proofs.Location.Rename
import QualityGate.Proofs.Naming.Words
import QualityGate.Proofs.Naming.Verdict
import QualityGate.Proofs.Naming.Style
import QualityGate.Proofs.Naming.Proposal
import QualityGate.Proofs.Text.Lines
import QualityGate.Proofs.Text.SingleLine
import QualityGate.Proofs.Documentation.Fence
import QualityGate.Proofs.Report.Summary
import QualityGate.Proofs.Detector.SingleLine
import QualityGate.Proofs.Json.PlainFault
import QualityGate.Proofs.Json.PlainDecoder
import QualityGate.Proofs.Placeholder.SingleLine
import QualityGate.Proofs.Run.Summary
import QualityGate.Proofs.HiddenTodo.Signals
import QualityGate.Proofs.HiddenTodo.RuleOrder
import QualityGate.Proofs.Placeholder.Window
