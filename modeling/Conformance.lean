import Conformance.Artifact
import Conformance.Artifact.Kind
import Conformance.Artifact.Sniff
import Conformance.Case
import Conformance.Cause
import Conformance.Check
import Conformance.Check.Verdict
import Conformance.CommandLine.Console
import Conformance.CommandLine.Execution
import Conformance.CommandLine.Grammar
import Conformance.CommandLine.Request
import Conformance.Data
import Conformance.Data.JsonReader
import Conformance.Data.JsonText
import Conformance.Decimal
import Conformance.Digest
import Conformance.Duration
import Conformance.Environment
import Conformance.FileStore
import Conformance.FileView
import Conformance.HarnessError
import Conformance.Host
import Conformance.Host.Image
import Conformance.Host.Launch
import Conformance.Host.Octets
import Conformance.Host.Program
import Conformance.Host.Shell.Arithmetic
import Conformance.Host.Shell.Builtin
import Conformance.Host.Shell.Commands
import Conformance.Host.Shell.Control
import Conformance.Host.Shell.Fields
import Conformance.Host.Shell.Format
import Conformance.Host.Shell.Integer
import Conformance.Host.Shell.Machine
import Conformance.Host.Shell.Parser
import Conformance.Host.Shell.Pattern
import Conformance.Host.Shell.Regular
import Conformance.Host.Shell.Run
import Conformance.Host.Shell.Script
import Conformance.Host.Shell.Signal
import Conformance.Host.Shell.Source
import Conformance.Host.Shell.Utility
import Conformance.Host.Shell.Utility.Edit
import Conformance.Host.Shell.Utility.Files
import Conformance.Host.Shell.Utility.Lines
import Conformance.Host.Shell.Utility.Test
import Conformance.Host.Shell.Utility.Text
import Conformance.Host.Standard
import Conformance.Inspection
import Conformance.Main
import Conformance.Outcome
import Conformance.Path
import Conformance.Plan
import Conformance.Plan.Naming
import Conformance.Platform
import Conformance.Proofs.Artifact.IrText
import Conformance.Proofs.Artifact.Magic
import Conformance.Proofs.Artifact.Window
import Conformance.Proofs.Check.Keys
import Conformance.Proofs.Check.Local
import Conformance.Proofs.Check.Written
import Conformance.Proofs.CommandLine.Faults
import Conformance.Proofs.Data.Forms
import Conformance.Proofs.Data.JsonParts
import Conformance.Proofs.Data.Restated
import Conformance.Proofs.Data.RoundTrip
import Conformance.Proofs.Files.Change
import Conformance.Proofs.Files.Directories
import Conformance.Proofs.Files.Reached
import Conformance.Proofs.Files.Tree
import Conformance.Proofs.Files.Walk
import Conformance.Proofs.Host.Launch
import Conformance.Proofs.Host.Search
import Conformance.Proofs.Host.Shell.Builtin
import Conformance.Proofs.Host.Shell.Effect
import Conformance.Proofs.Host.Shell.Run
import Conformance.Proofs.Host.Shell.Time
import Conformance.Proofs.Host.Shell.Utility
import Conformance.Proofs.Path.Join
import Conformance.Proofs.Path.Name
import Conformance.Proofs.Path.Single
import Conformance.Proofs.Plan.FlagValue
import Conformance.Proofs.Plan.OutputForms
import Conformance.Proofs.Plan.OutputName
import Conformance.Proofs.Plan.PassThrough
import Conformance.Proofs.Pool.Accounts
import Conformance.Proofs.Pool.Interleaving
import Conformance.Proofs.Pool.Turns
import Conformance.Proofs.Report.RoundTrip
import Conformance.Proofs.Report.Sheet
import Conformance.Proofs.Report.Views
import Conformance.Proofs.Scenario.Keys
import Conformance.Proofs.Scenario.Listing
import Conformance.Proofs.Scenario.Written
import Conformance.Proofs.Suite.Availability
import Conformance.Proofs.Suite.Course
import Conformance.Proofs.Suite.Parallel
import Conformance.Proofs.Suite.Preflight
import Conformance.Proofs.Suite.Recorded
import Conformance.Proofs.Suite.Reports
import Conformance.Proofs.Suite.Schedule
import Conformance.Proofs.Suite.Stage
import Conformance.Proofs.Text.Cut
import Conformance.Proofs.Text.Numeral
import Conformance.Proofs.Text.Utf8
import Conformance.Proofs.Workspace.Apart
import Conformance.Proofs.Workspace.Fixtures
import Conformance.Proofs.Workspace.Isolation
import Conformance.Proofs.Workspace.Lifetime
import Conformance.Proofs.Workspace.Scratch
import Conformance.Proofs.Yaml.Keyless
import Conformance.Proofs.Yaml.Keys
import Conformance.Proofs.Yaml.Numeral
import Conformance.Proofs.Yaml.Written
import Conformance.Report
import Conformance.Report.Console
import Conformance.Report.Document
import Conformance.Report.Reporter
import Conformance.Report.Styled
import Conformance.Run
import Conformance.Runner
import Conformance.Scenario
import Conformance.Scenario.Discovery
import Conformance.Scenario.Listing
import Conformance.Scenario.Reader
import Conformance.Suite
import Conformance.Suite.Pool
import Conformance.Suite.Preflight
import Conformance.Suite.Run
import Conformance.Text.CaseTable
import Conformance.Text.HiddenTable
import Conformance.Text.Lowercase
import Conformance.Text.Quoted
import Conformance.Text.Space
import Conformance.Text.Utf8
import Conformance.Workspace
import Conformance.Yaml.Cursor
import Conformance.Yaml.Node
import Conformance.Yaml.Scalar
import Conformance.Yaml.ScalarText
import Conformance.Yaml.Token
import Conformance.Yaml.Token.Lexer
import Conformance.Yaml.Tree
import Conformance.Yaml.Value
import Conformance.Proofs.Check.Output
import Conformance.Proofs.Artifact.Native
import Conformance.Proofs.Suite.Filter
import Conformance.Proofs.Check.Argv
import Conformance.Proofs.Run.Ending
import Conformance.Proofs.Path.Order
import Conformance.Proofs.Files.Sound
import Conformance.Proofs.Scenario.Visit
import Conformance.Proofs.Scenario.Discovery
