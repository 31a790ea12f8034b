import BuildWatch.Board
import BuildWatch.Board.Shared
import BuildWatch.Check
import BuildWatch.Child
import BuildWatch.CommandLine
import BuildWatch.Console
import BuildWatch.Diagnostic
import BuildWatch.Diagnostic.Dialect
import BuildWatch.Failure
import BuildWatch.FileTree
import BuildWatch.Frame
import BuildWatch.Frame.Decode
import BuildWatch.Json.Basic
import BuildWatch.Json.Double
import BuildWatch.Json.Fault
import BuildWatch.Json.Printer
import BuildWatch.Json.Reader
import BuildWatch.Link
import BuildWatch.Log
import BuildWatch.Machine.Accounts
import BuildWatch.Machine.Answer
import BuildWatch.Machine.Image
import BuildWatch.Machine.Program
import BuildWatch.Machine.Schedule
import BuildWatch.Machine.Signal
import BuildWatch.Machine.World
import BuildWatch.Main
import BuildWatch.Observers
import BuildWatch.Path
import BuildWatch.Rehearsal.Agent
import BuildWatch.Rehearsal.Bench
import BuildWatch.Rehearsal.Care
import BuildWatch.Rehearsal.Part
import BuildWatch.Rehearsal.Session
import BuildWatch.Rehearsal.Turn
import BuildWatch.Settings
import BuildWatch.Shell.Arithmetic
import BuildWatch.Shell.Builtin
import BuildWatch.Shell.Command
import BuildWatch.Shell.Condition
import BuildWatch.Shell.Evaluator
import BuildWatch.Shell.Expansion
import BuildWatch.Shell.Field
import BuildWatch.Shell.Format
import BuildWatch.Shell.Invocation
import BuildWatch.Shell.Lookup
import BuildWatch.Shell.Opening
import BuildWatch.Shell.Pattern
import BuildWatch.Shell.Reader
import BuildWatch.Shell.Source
import BuildWatch.Shell.State
import BuildWatch.Target
import BuildWatch.Terminal
import BuildWatch.Text.Ascii
import BuildWatch.Text.ByteText
import BuildWatch.Text.Class
import BuildWatch.Text.Figure
import BuildWatch.Text.Invisible
import BuildWatch.Text.Layout
import BuildWatch.Text.Lines
import BuildWatch.Text.Quoted
import BuildWatch.Text.Regex
import BuildWatch.Text.Regex.Reader
import BuildWatch.Text.Stream
import BuildWatch.Text.Utf8
import BuildWatch.Tool.Command
import BuildWatch.Tool.Problem
import BuildWatch.Tool.Transcript
import BuildWatch.Toolbox
import BuildWatch.Toolbox.Asking
import BuildWatch.Toolbox.Awk
import BuildWatch.Toolbox.Awk.Evaluator
import BuildWatch.Toolbox.Awk.Memory
import BuildWatch.Toolbox.Awk.Reader
import BuildWatch.Toolbox.Awk.Script
import BuildWatch.Toolbox.Awk.Statements
import BuildWatch.Toolbox.Awk.Table
import BuildWatch.Toolbox.Awk.Token
import BuildWatch.Toolbox.Awk.Value
import BuildWatch.Toolbox.Basic
import BuildWatch.Toolbox.Batches
import BuildWatch.Toolbox.Blocks
import BuildWatch.Toolbox.Calendar
import BuildWatch.Toolbox.Characters
import BuildWatch.Toolbox.Comparing
import BuildWatch.Toolbox.Counting
import BuildWatch.Toolbox.Digests
import BuildWatch.Toolbox.Dumping
import BuildWatch.Toolbox.Editing
import BuildWatch.Toolbox.Editing.Reader
import BuildWatch.Toolbox.Editing.Script
import BuildWatch.Toolbox.Feed
import BuildWatch.Toolbox.Fields
import BuildWatch.Toolbox.Files
import BuildWatch.Toolbox.Finding
import BuildWatch.Toolbox.Launching
import BuildWatch.Toolbox.Options
import BuildWatch.Toolbox.Passing
import BuildWatch.Toolbox.Paths
import BuildWatch.Toolbox.Reckoning
import BuildWatch.Toolbox.Saying
import BuildWatch.Toolbox.Searching
import BuildWatch.Toolbox.Sorting
import BuildWatch.Watch
import BuildWatch.Worker
import BuildWatch.Proofs.WatchMoves
import BuildWatch.Proofs.WatchSessions
import BuildWatch.Proofs.BoardGroups
import BuildWatch.Proofs.WatchDiagnostics
import BuildWatch.Proofs.WatchFreshness
import BuildWatch.Proofs.DocumentBalance
import BuildWatch.Proofs.JsonTokens
import BuildWatch.Proofs.JsonValues
import BuildWatch.Proofs.TranscriptRuns
import BuildWatch.Proofs.TranscriptDocuments
import BuildWatch.Proofs.WatchTargets
import BuildWatch.Proofs.TranscriptSegments
import BuildWatch.Proofs.WorkerTurns
import BuildWatch.Proofs.WorkerProcesses
import BuildWatch.Proofs.Utf8RoundTrip
import BuildWatch.Proofs.StreamLines
import BuildWatch.Proofs.JsonTokenRoundTrip
import BuildWatch.Proofs.JsonRoundTrip
import BuildWatch.Proofs.FrameRoundTrip
import BuildWatch.Proofs.WatchStatus
import BuildWatch.Proofs.TranscriptTicks
import BuildWatch.Proofs.TranscriptCycles
import BuildWatch.Proofs.TranscriptInterleaving
import BuildWatch.Proofs.PathWalks
import BuildWatch.Proofs.ConfigurationLookup
import BuildWatch.Proofs.DialectLocations
import BuildWatch.Proofs.ProblemRendering
import BuildWatch.Proofs.TerminalOutput
import BuildWatch.Proofs.TerminalEcho
import BuildWatch.Proofs.TerminalWorkers
import BuildWatch.Proofs.ServiceRuns
import BuildWatch.Proofs.ChildRuns
import BuildWatch.Proofs.ChildShutdown
import BuildWatch.Proofs.WatchProcesses
import BuildWatch.Proofs.DialectHeadlines
import BuildWatch.Proofs.DialectLines
import BuildWatch.Proofs.DialectWords
import BuildWatch.Proofs.PathResolution
import BuildWatch.Proofs.DiagnosticPositions
import BuildWatch.Proofs.SettingsAutostart
import BuildWatch.Proofs.WatchStarts
import BuildWatch.Proofs.BoardWrites
import BuildWatch.Proofs.BoardSharing
import BuildWatch.Proofs.ObserverCalls
import BuildWatch.Proofs.JsonReading
import BuildWatch.Proofs.JsonKeyOrder
import BuildWatch.Proofs.FrameDirections
import BuildWatch.Proofs.FrameFields
