import ExampleSuite.Config
import ExampleSuite.Corpus
import ExampleSuite.Diagnostic
import ExampleSuite.Disk
import ExampleSuite.Errno
import ExampleSuite.Exclusion
import ExampleSuite.Execution
import ExampleSuite.Failure
import ExampleSuite.Harness
import ExampleSuite.Interpreter
import ExampleSuite.Log
import ExampleSuite.Log.Expression
import ExampleSuite.Log.Filter
import ExampleSuite.Machine.Base
import ExampleSuite.Machine.Builtin
import ExampleSuite.Machine.Exec
import ExampleSuite.Machine.Signal
import ExampleSuite.Machine.State
import ExampleSuite.Machine.Step
import ExampleSuite.Machine.System
import ExampleSuite.Machine.Text
import ExampleSuite.Machine.Tool
import ExampleSuite.Machine.Wrapper
import ExampleSuite.Main
import ExampleSuite.Options
import ExampleSuite.Options.Help
import ExampleSuite.Options.Problem
import ExampleSuite.Options.Reader
import ExampleSuite.Outcome
import ExampleSuite.Path
import ExampleSuite.Program
import ExampleSuite.Proofs.Abort
import ExampleSuite.Proofs.Additions
import ExampleSuite.Proofs.Aliases
import ExampleSuite.Proofs.Answer
import ExampleSuite.Proofs.Arguments
import ExampleSuite.Proofs.Calls
import ExampleSuite.Proofs.Changes
import ExampleSuite.Proofs.Checking
import ExampleSuite.Proofs.Closing
import ExampleSuite.Proofs.Colours
import ExampleSuite.Proofs.CommandLine
import ExampleSuite.Proofs.Completion
import ExampleSuite.Proofs.Counting
import ExampleSuite.Proofs.Decoding
import ExampleSuite.Proofs.Discovery
import ExampleSuite.Proofs.Encoding
import ExampleSuite.Proofs.Entries
import ExampleSuite.Proofs.Examples
import ExampleSuite.Proofs.Filling
import ExampleSuite.Proofs.Finishing
import ExampleSuite.Proofs.Growth
import ExampleSuite.Proofs.Interrupts
import ExampleSuite.Proofs.Lines
import ExampleSuite.Proofs.Listing
import ExampleSuite.Proofs.Naming
import ExampleSuite.Proofs.Nodes
import ExampleSuite.Proofs.Paths
import ExampleSuite.Proofs.Printing
import ExampleSuite.Proofs.Quoting
import ExampleSuite.Proofs.Readback
import ExampleSuite.Proofs.Reaping
import ExampleSuite.Proofs.Reporting
import ExampleSuite.Proofs.Resolution
import ExampleSuite.Proofs.Rules
import ExampleSuite.Proofs.Runs
import ExampleSuite.Proofs.Scalars
import ExampleSuite.Proofs.Scanning
import ExampleSuite.Proofs.Script
import ExampleSuite.Proofs.Settings
import ExampleSuite.Proofs.Simulation
import ExampleSuite.Proofs.Spellings
import ExampleSuite.Proofs.Statuses
import ExampleSuite.Proofs.Tally
import ExampleSuite.Proofs.Telling
import ExampleSuite.Proofs.Turns
import ExampleSuite.Proofs.Verdict
import ExampleSuite.Proofs.Walking
import ExampleSuite.Proofs.Watching
import ExampleSuite.Proofs.Yields
import ExampleSuite.Report
import ExampleSuite.RuleFile
import ExampleSuite.RuleFile.Load
import ExampleSuite.Session
import ExampleSuite.Shell.Expand
import ExampleSuite.Shell.Pattern
import ExampleSuite.Shell.Reader
import ExampleSuite.Shell.Sum
import ExampleSuite.Shell.Syntax
import ExampleSuite.Sink
import ExampleSuite.Text.Blank
import ExampleSuite.Text.Double
import ExampleSuite.Text.Hidden
import ExampleSuite.Text.Letters
import ExampleSuite.Text.Likeness
import ExampleSuite.Text.LineBreak
import ExampleSuite.Text.LineClass
import ExampleSuite.Text.Lines
import ExampleSuite.Text.Quoted
import ExampleSuite.Text.Ranges
import ExampleSuite.Text.Screen
import ExampleSuite.Text.Utf8
import ExampleSuite.Text.Width
import ExampleSuite.Text.Wrap
import ExampleSuite.Tree
import ExampleSuite.Yaml.Cursor
import ExampleSuite.Yaml.Node
import ExampleSuite.Yaml.Scalar
import ExampleSuite.Yaml.Tag
import ExampleSuite.Yaml.Token
import ExampleSuite.Yaml.Value
