import LineShell.Configuration.Basic
import LineShell.Configuration.Load
import LineShell.Configuration.Locations
import LineShell.Error.Errno
import LineShell.Error.IoError
import LineShell.Error.ShellError
import LineShell.Line.ArgVector
import LineShell.Line.Plan
import LineShell.Line.Shape
import LineShell.Log.Directive
import LineShell.Log.Filter
import LineShell.Log.Level
import LineShell.Log.Pattern
import LineShell.Log.Pattern.Bracket
import LineShell.Log.Pattern.Escape
import LineShell.Log.Pattern.Nesting
import LineShell.Log.Record
import LineShell.Machine.Context
import LineShell.Machine.Directories
import LineShell.Machine.Environment
import LineShell.Machine.Exec
import LineShell.Machine.FileTree
import LineShell.Machine.Interrupts
import LineShell.Machine.Path
import LineShell.Machine.Permissions
import LineShell.Machine.Process
import LineShell.Machine.Setup
import LineShell.Machine.Table
import LineShell.Machine.World
import LineShell.Main
import LineShell.Session.Basic
import LineShell.Session.CommandLine
import LineShell.Session.Run
import LineShell.Shell.Basic
import LineShell.Shell.Builtin
import LineShell.Shell.Exec
import LineShell.Shell.Execution
import LineShell.Shell.Prompt
import LineShell.Shell.Signals
import LineShell.Source.Basic
import LineShell.Source.History
import LineShell.Source.ScriptLines
import LineShell.Text.Alphabetic
import LineShell.Text.Alphanumeric
import LineShell.Text.Basic
import LineShell.Text.Blank
import LineShell.Text.Quoted
import LineShell.Text.Ranges
import LineShell.Text.RawLines
import LineShell.Text.Unprintable
import LineShell.Text.Utf8
import LineShell.Toml.Complaint
import LineShell.Toml.Decimal
import LineShell.Toml.Document
import LineShell.Toml.Fault
import LineShell.Toml.Grammar
import LineShell.Toml.Scalar
import LineShell.Toml.Value
import LineShell.Userland.Arithmetic
import LineShell.Userland.Attributes
import LineShell.Userland.Basic
import LineShell.Userland.Condition
import LineShell.Userland.Copies
import LineShell.Userland.Copying
import LineShell.Userland.Counts
import LineShell.Userland.Directories
import LineShell.Userland.Editing
import LineShell.Userland.Editing.Command
import LineShell.Userland.Editing.Reader
import LineShell.Userland.Editing.Replacement
import LineShell.Userland.Editing.Run
import LineShell.Userland.Ends
import LineShell.Userland.Expression.Basic
import LineShell.Userland.Expression.Reader
import LineShell.Userland.Format
import LineShell.Userland.Interpreter
import LineShell.Userland.Interpreter.Builtin
import LineShell.Userland.Interpreter.Child
import LineShell.Userland.Interpreter.Expansion
import LineShell.Userland.Interpreter.Flag
import LineShell.Userland.Interpreter.Redirection
import LineShell.Userland.Interpreter.Run
import LineShell.Userland.Interpreter.Signal
import LineShell.Userland.Interpreter.State
import LineShell.Userland.Interpreter.Variables
import LineShell.Userland.LineSearch
import LineShell.Userland.Links
import LineShell.Userland.Listing
import LineShell.Userland.Modes
import LineShell.Userland.Pattern
import LineShell.Userland.Programs
import LineShell.Userland.Quoting
import LineShell.Userland.Records
import LineShell.Userland.Removal
import LineShell.Userland.Script.Reader
import LineShell.Userland.Script.Syntax
import LineShell.Userland.Script.Token
import LineShell.Userland.Selection
import LineShell.Userland.Sorting
import LineShell.Userland.Sorting.Key
import LineShell.Userland.Sorting.Order
import LineShell.Userland.Tree
import LineShell.Userland.Words
import LineShell.Proofs.Runs
import LineShell.Proofs.Children
import LineShell.Proofs.Lines
import LineShell.Proofs.Calls
import LineShell.Proofs.Accounting
import LineShell.Proofs.SignalDiscipline
import LineShell.Proofs.FailedLines
import LineShell.Proofs.Decoding
import LineShell.Proofs.TrailingBlanks
import LineShell.Proofs.ScriptReading
import LineShell.Proofs.SessionLines
import LineShell.Proofs.BatchRuns
import LineShell.Proofs.LineGrammar
import LineShell.Proofs.Planning
import LineShell.Proofs.WrittenLines
import LineShell.Proofs.Topology
import LineShell.Proofs.FailureReports
import LineShell.Proofs.Answers
import LineShell.Proofs.Shadowing
import LineShell.Proofs.Staying
import LineShell.Proofs.WorkingDirectory
import LineShell.Proofs.SignalHistories
import LineShell.Proofs.VariableValues
import LineShell.Proofs.Walks
import LineShell.Proofs.Targets
import LineShell.Proofs.TargetContents
import LineShell.Proofs.AlikeMachines
import LineShell.Proofs.AlikeCalls
import LineShell.Proofs.AlikeWorlds
import LineShell.Proofs.ToleratedFailures
import LineShell.Proofs.FailedMoves
import LineShell.Proofs.Tokenizing
import LineShell.Proofs.SamePrograms
import LineShell.Proofs.InvalidParts
import LineShell.Proofs.LineSplitting
import LineShell.Proofs.NestedGuards
import LineShell.Proofs.InheritedChildren
import LineShell.Proofs.ReadyWorlds
import LineShell.Proofs.LineGaps
import LineShell.Proofs.LineLayout
import LineShell.Proofs.Settings
import LineShell.Proofs.ConfigurationLoading
