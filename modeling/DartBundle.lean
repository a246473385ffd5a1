import DartBundle.Ascending
import DartBundle.Asset.Directories
import DartBundle.Asset.Id
import DartBundle.Asset.Json
import DartBundle.Asset.Memory
import DartBundle.Asset.Reader
import DartBundle.Build.Event
import DartBundle.Build.Publish
import DartBundle.Build.Step
import DartBundle.Build.Workspace
import DartBundle.CommandLine.Arguments
import DartBundle.CommandLine.Report
import DartBundle.CommandLine.Run
import DartBundle.Compiler.Completion
import DartBundle.Compiler.Config
import DartBundle.Compiler.Invocation
import DartBundle.Compiler.Machine
import DartBundle.Compiler.Preamble
import DartBundle.Compiler.Sdk
import DartBundle.Decimal.Shortest
import DartBundle.Digest.Sha256
import DartBundle.Error
import DartBundle.FileTree.Basic
import DartBundle.FileTree.Fault
import DartBundle.FileTree.Operations
import DartBundle.Json.Decode
import DartBundle.Json.Layout
import DartBundle.Json.Number
import DartBundle.Json.Place
import DartBundle.Json.Token
import DartBundle.Json.Value
import DartBundle.Main
import DartBundle.Module.Basic
import DartBundle.Module.Closure
import DartBundle.Module.Graph
import DartBundle.Module.Index
import DartBundle.Module.Manifest
import DartBundle.Module.Search
import DartBundle.Path
import DartBundle.Proofs.Asset.Containment
import DartBundle.Proofs.Asset.Grammar
import DartBundle.Proofs.Asset.Outputs
import DartBundle.Proofs.Asset.StagedPaths
import DartBundle.Proofs.Asset.Store
import DartBundle.Proofs.Build.Alarms
import DartBundle.Proofs.Build.Failure
import DartBundle.Proofs.Build.History
import DartBundle.Proofs.Build.Locations
import DartBundle.Proofs.Build.Preamble
import DartBundle.Proofs.Build.Sources
import DartBundle.Proofs.CommandLine.DryRun
import DartBundle.Proofs.CommandLine.Refusal
import DartBundle.Proofs.Compiler.Bundles
import DartBundle.Proofs.FileTree.Lexical
import DartBundle.Proofs.Module.Extension
import DartBundle.Proofs.Module.Index
import DartBundle.Proofs.Module.Manifest
import DartBundle.Proofs.Module.Nearest
import DartBundle.Proofs.Module.Ownership
import DartBundle.Proofs.Module.Reachability
import DartBundle.Proofs.Module.Rearrangement
import DartBundle.Proofs.Module.Search
import DartBundle.Proofs.Module.Sources
import DartBundle.Proofs.Module.Verdict
import DartBundle.Proofs.Staging.Addresses
import DartBundle.Proofs.Staging.ConfigNames
import DartBundle.Proofs.Staging.Faithful
import DartBundle.Proofs.Staging.Order
import DartBundle.Script.Arithmetic
import DartBundle.Script.Command
import DartBundle.Script.Command.Directory
import DartBundle.Script.Command.Naming
import DartBundle.Script.Command.Options
import DartBundle.Script.Command.Signal
import DartBundle.Script.Command.Variable
import DartBundle.Script.Condition
import DartBundle.Script.Evaluate
import DartBundle.Script.Executable
import DartBundle.Script.Expand
import DartBundle.Script.Field
import DartBundle.Script.Floating
import DartBundle.Script.Machine
import DartBundle.Script.Octets
import DartBundle.Script.Parse
import DartBundle.Script.Pattern
import DartBundle.Script.Print
import DartBundle.Script.Program
import DartBundle.Script.Redirect
import DartBundle.Script.Shell
import DartBundle.Script.Source
import DartBundle.Script.Tilde
import DartBundle.Script.Tool
import DartBundle.Script.Tool.Basic
import DartBundle.Script.Tool.Creation
import DartBundle.Script.Tool.Edit
import DartBundle.Script.Tool.Expression
import DartBundle.Script.Tool.Lines
import DartBundle.Script.Tool.Listing
import DartBundle.Script.Tool.Mode
import DartBundle.Script.Tool.Naming
import DartBundle.Script.Tool.Options
import DartBundle.Script.Tool.Quoted
import DartBundle.Script.Tool.Record
import DartBundle.Script.Tool.Removal
import DartBundle.Script.Tool.Transfer
import DartBundle.Script.Tool.Translate
import DartBundle.Staging.Area
import DartBundle.Staging.PackageConfig
import DartBundle.Table
import DartBundle.Text.Basic
import DartBundle.Text.Blank
import DartBundle.Text.Escaped
import DartBundle.Text.Quoted
import DartBundle.Text.Utf8
