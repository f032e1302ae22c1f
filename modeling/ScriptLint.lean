import ScriptLint.CommandLine.Arguments
import ScriptLint.CommandLine.Program
import ScriptLint.Config.Basic
import ScriptLint.Config.Error
import ScriptLint.Config.Load
import ScriptLint.Config.Merge
import ScriptLint.Config.OptionToken
import ScriptLint.Datum.Basic
import ScriptLint.Datum.Checks
import ScriptLint.Datum.Marshal
import ScriptLint.Diagnostic.Basic
import ScriptLint.Diagnostic.Record
import ScriptLint.Failure
import ScriptLint.Files.Error
import ScriptLint.Files.Path
import ScriptLint.Files.Tree
import ScriptLint.Files.Workspace
import ScriptLint.Flaw
import ScriptLint.Interpreter.Basic
import ScriptLint.Interpreter.Engine
import ScriptLint.Interpreter.Names
import ScriptLint.Interpreter.Scripted
import ScriptLint.Json.Basic
import ScriptLint.Json.Printer
import ScriptLint.Json.Reader
import ScriptLint.Linter.Basic
import ScriptLint.Linter.Globals
import ScriptLint.Linter.Marker
import ScriptLint.Linter.Options
import ScriptLint.Linter.Scripts
import ScriptLint.Log
import ScriptLint.Main
import ScriptLint.Number.Binary64
import ScriptLint.Number.Decimal
import ScriptLint.Number.Layout
import ScriptLint.Number.Lenient
import ScriptLint.Number.Shortest
import ScriptLint.Number.Written
import ScriptLint.OrderedMap
import ScriptLint.Proofs.Action
import ScriptLint.Proofs.CommandLine.ExitCode
import ScriptLint.Proofs.CommandLine.Options
import ScriptLint.Proofs.CommandLine.Output
import ScriptLint.Proofs.CommandLine.Sequences
import ScriptLint.Proofs.CommandLine.Stages
import ScriptLint.Proofs.CommandLine.Switches
import ScriptLint.Proofs.Config.Document
import ScriptLint.Proofs.Config.Failures
import ScriptLint.Proofs.Config.Fields
import ScriptLint.Proofs.Config.Loading
import ScriptLint.Proofs.Config.Merge
import ScriptLint.Proofs.Config.MergeAction
import ScriptLint.Proofs.Config.OptionToken
import ScriptLint.Proofs.Config.Overrides
import ScriptLint.Proofs.Config.Section
import ScriptLint.Proofs.Diagnostic.Record
import ScriptLint.Proofs.Files.Reading
import ScriptLint.Proofs.Files.Resolving
import ScriptLint.Proofs.Files.Walking
import ScriptLint.Proofs.Files.Writing
import ScriptLint.Proofs.Interpreter.Engine
import ScriptLint.Proofs.Interpreter.Marshal
import ScriptLint.Proofs.Json.Ascii
import ScriptLint.Proofs.Json.Integers
import ScriptLint.Proofs.Json.Reading
import ScriptLint.Proofs.Json.RoundTrip
import ScriptLint.Proofs.Json.Strings
import ScriptLint.Proofs.Json.Writable
import ScriptLint.Proofs.OrderedMap
import ScriptLint.Proofs.Report.Adding
import ScriptLint.Proofs.Report.Lines
import ScriptLint.Proofs.Report.RoundTrip
import ScriptLint.Proofs.Report.Written
import ScriptLint.Proofs.Run.Account
import ScriptLint.Proofs.Run.Bindings
import ScriptLint.Proofs.Run.Escapes
import ScriptLint.Proofs.Run.Failures
import ScriptLint.Proofs.Run.Plan
import ScriptLint.Proofs.Run.SourceText
import ScriptLint.Proofs.Run.Steps
import ScriptLint.Proofs.Run.Store
import ScriptLint.Proofs.Run.Trace
import ScriptLint.Proofs.Script.Loading
import ScriptLint.Proofs.Script.Searching
import ScriptLint.Proofs.Session.CurrentFile
import ScriptLint.Proofs.Session.History
import ScriptLint.Proofs.Session.Resets
import ScriptLint.Proofs.Session.Steps
import ScriptLint.Proofs.Text.Case
import ScriptLint.Proofs.Text.Lines
import ScriptLint.Proofs.Text.Pieces
import ScriptLint.Proofs.Text.Trim
import ScriptLint.Proofs.Text.Utf8
import ScriptLint.Proofs.Toml.Distinct
import ScriptLint.Proofs.Xml.Escape
import ScriptLint.Proofs.Xml.Reader
import ScriptLint.Proofs.Xml.Reading
import ScriptLint.Proofs.Xml.RoundTrip
import ScriptLint.Report.Basic
import ScriptLint.Report.Document
import ScriptLint.Report.Format
import ScriptLint.Report.Plain
import ScriptLint.Report.Xml
import ScriptLint.Run
import ScriptLint.Script.Basic
import ScriptLint.Script.Bundled
import ScriptLint.Script.Location
import ScriptLint.Session
import ScriptLint.Terminal.Console
import ScriptLint.Terminal.Message
import ScriptLint.Text.Basic
import ScriptLint.Text.Blank
import ScriptLint.Text.Case
import ScriptLint.Text.Lines
import ScriptLint.Text.Printed
import ScriptLint.Text.Quoted
import ScriptLint.Text.Utf8
import ScriptLint.Text.Width
import ScriptLint.Toml.Numbers
import ScriptLint.Toml.Reader
import ScriptLint.Toml.Strings
import ScriptLint.Toml.Value
