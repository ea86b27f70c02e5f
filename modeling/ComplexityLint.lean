import ComplexityLint.Report.Body
import ComplexityLint.Diagnostic.Batch
import ComplexityLint.Registry
import ComplexityLint.Project
import ComplexityLint.Output.Console
import ComplexityLint.Output.Listing
import ComplexityLint.Output.Sarif
import ComplexityLint.Output.Table
import ComplexityLint.CommandLine.Choice
import ComplexityLint.CommandLine.Request
import ComplexityLint.CommandLine.Run
import ComplexityLint.Toml.Document
import ComplexityLint.Linter.Basic
import ComplexityLint.Linter.Memory
import ComplexityLint.Disk.Process
import ComplexityLint.Config.Load
import ComplexityLint.Editor.Envelope
import ComplexityLint.Shell.Command
import ComplexityLint.Shell.Run
import ComplexityLint.Main
import ComplexityLint.Json.Reader
import ComplexityLint.Proofs.Text.Classes
import ComplexityLint.Proofs.Text.Pieces
import ComplexityLint.Proofs.Text.Pattern
import ComplexityLint.Proofs.Text.Utf8
import ComplexityLint.Proofs.Text.Ascii
import ComplexityLint.Proofs.Report.Row
import ComplexityLint.Proofs.Report.RowPattern
import ComplexityLint.Proofs.Report.Scan
import ComplexityLint.Proofs.Report.RoundTrip
import ComplexityLint.Proofs.Path
import ComplexityLint.Proofs.Path.Join
import ComplexityLint.Proofs.Project.LogFile
import ComplexityLint.Proofs.Project.Roots
import ComplexityLint.Proofs.Keyed
import ComplexityLint.Proofs.Diagnostic.Batch
import ComplexityLint.Proofs.Diagnostic.Blocks
import ComplexityLint.Proofs.Diagnostic.Lines
import ComplexityLint.Proofs.Registry.Table
import ComplexityLint.Proofs.Registry.History
import ComplexityLint.Proofs.Registry.Coherence
import ComplexityLint.Proofs.Linter.Service
import ComplexityLint.Proofs.Linter.Acts
import ComplexityLint.Proofs.Linter.Refusal
import ComplexityLint.Proofs.Linter.History
import ComplexityLint.Proofs.Linter.Sink
import ComplexityLint.Proofs.Linter.Logs
import ComplexityLint.Proofs.Linter.Attribution
import ComplexityLint.Proofs.Linter.Freshness
import ComplexityLint.Proofs.CommandLine.Parse
import ComplexityLint.Proofs.Disk.Walk
import ComplexityLint.Proofs.Disk.Output
import ComplexityLint.Proofs.Disk.Directories
import ComplexityLint.Proofs.Disk.Writes
import ComplexityLint.Proofs.Linter.Memory
import ComplexityLint.Proofs.Linter.OldLog
import ComplexityLint.Proofs.Linter.Frame
import ComplexityLint.Proofs.Editor.Turn
import ComplexityLint.Proofs.Editor.Session
import ComplexityLint.Proofs.Diagnostic.Merged
import ComplexityLint.Proofs.Linter.LogParts
import ComplexityLint.Proofs.Report.Reading
import ComplexityLint.Proofs.Linter.Marks
import ComplexityLint.Proofs.Diagnostic.Limits
import ComplexityLint.Proofs.Linter.Roots
import ComplexityLint.Proofs.Json.Grammar
import ComplexityLint.Proofs.Json.Reading
import ComplexityLint.Proofs.Output.Listing
import ComplexityLint.Proofs.Output.Sarif
import ComplexityLint.Proofs.Output.Layout
import ComplexityLint.Proofs.Output.Order
import ComplexityLint.Proofs.Output.Colour
import ComplexityLint.Proofs.CommandLine.Summary
import ComplexityLint.Proofs.CommandLine.Check
import ComplexityLint.Proofs.Toml.Keys
import ComplexityLint.Proofs.Config.Limits
import ComplexityLint.Proofs.Uri.Segments
import ComplexityLint.Proofs.Editor.Saving
import ComplexityLint.Proofs.Diagnostic.Identity
import ComplexityLint.Proofs.Output.Width
import ComplexityLint.Proofs.Linter.Lines
