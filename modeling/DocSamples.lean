import DocSamples.Attempt
import DocSamples.Binary
import DocSamples.CommandLine
import DocSamples.CommandLine.Choice
import DocSamples.CommandLine.Ending
import DocSamples.CommandLine.Init
import DocSamples.CommandLine.Request
import DocSamples.CommandLine.Run
import DocSamples.CommandLine.Sessions
import DocSamples.CommandLine.Verify
import DocSamples.Compiler
import DocSamples.Compiler.Checker
import DocSamples.Compiler.Command
import DocSamples.Compiler.Fault
import DocSamples.Compiler.OutputLine
import DocSamples.Compiler.Program
import DocSamples.Compiler.Service
import DocSamples.Compiler.TempFile
import DocSamples.Console
import DocSamples.Diagnostic
import DocSamples.Discovery
import DocSamples.Document
import DocSamples.Event
import DocSamples.Fence
import DocSamples.FileFault
import DocSamples.Fragment
import DocSamples.Fragment.Linkage
import DocSamples.Include
import DocSamples.Json
import DocSamples.Main
import DocSamples.Markup
import DocSamples.Options
import DocSamples.OrderedMap
import DocSamples.Path
import DocSamples.Pool
import DocSamples.Proofs.Attempt
import DocSamples.Proofs.Document
import DocSamples.Proofs.Fence
import DocSamples.Proofs.Include
import DocSamples.Proofs.Isolation
import DocSamples.Proofs.Linkage
import DocSamples.Proofs.Lists
import DocSamples.Proofs.OrderedMap
import DocSamples.Proofs.Path
import DocSamples.Proofs.Pool
import DocSamples.Proofs.Reason
import DocSamples.Proofs.Region
import DocSamples.Proofs.Report
import DocSamples.Proofs.Run.Document
import DocSamples.Proofs.Run.ExitCode
import DocSamples.Proofs.Run.Parallel
import DocSamples.Proofs.Session
import DocSamples.Proofs.Source
import DocSamples.Proofs.Source.Assembly
import DocSamples.Proofs.Source.Includes
import DocSamples.Proofs.Source.Samples
import DocSamples.Proofs.Text.Lines
import DocSamples.Proofs.Tree
import DocSamples.Proofs.Verdict
import DocSamples.Region
import DocSamples.Report
import DocSamples.Report.Summary
import DocSamples.Run
import DocSamples.Script
import DocSamples.Script.Alias
import DocSamples.Script.Builtin
import DocSamples.Script.Column
import DocSamples.Script.Command
import DocSamples.Script.Compare
import DocSamples.Script.Dump
import DocSamples.Script.Edit
import DocSamples.Script.Edit.Editor
import DocSamples.Script.Edit.Files
import DocSamples.Script.Edit.Read
import DocSamples.Script.Expression
import DocSamples.Script.Field
import DocSamples.Script.Files
import DocSamples.Script.Filter
import DocSamples.Script.Find
import DocSamples.Script.Format
import DocSamples.Script.Grammar
import DocSamples.Script.Input
import DocSamples.Script.Job
import DocSamples.Script.Listing
import DocSamples.Script.Machine
import DocSamples.Script.Order
import DocSamples.Script.Pattern
import DocSamples.Script.Pattern.Grammar
import DocSamples.Script.Permission
import DocSamples.Script.Record
import DocSamples.Script.Record.Engine
import DocSamples.Script.Record.Files
import DocSamples.Script.Record.Grammar
import DocSamples.Script.Record.Run
import DocSamples.Script.Record.Token
import DocSamples.Script.Record.Value
import DocSamples.Script.Run
import DocSamples.Script.Search
import DocSamples.Script.Signal
import DocSamples.Script.Start
import DocSamples.Script.Stream
import DocSamples.Script.Sum
import DocSamples.Script.Test
import DocSamples.Script.Token
import DocSamples.Script.Variable
import DocSamples.Session
import DocSamples.Settings
import DocSamples.Settings.Choice
import DocSamples.Settings.Complaint
import DocSamples.Settings.Fault
import DocSamples.Settings.Fields
import DocSamples.Settings.Load
import DocSamples.Settings.Write
import DocSamples.Source
import DocSamples.Source.Assembly
import DocSamples.Text.Blank
import DocSamples.Text.Casefold
import DocSamples.Text.CharRange
import DocSamples.Text.Intake
import DocSamples.Text.Integer
import DocSamples.Text.Letter
import DocSamples.Text.Lines
import DocSamples.Text.Quoted
import DocSamples.Text.ShellWords
import DocSamples.Text.Unprintable
import DocSamples.Text.Utf8
import DocSamples.Tree
import DocSamples.Tree.Change
import DocSamples.Tree.Listing
import DocSamples.Tree.Resolve
import DocSamples.Verdict
import DocSamples.Wildcard
import DocSamples.Workspace
import DocSamples.Workspace.Build
import DocSamples.Yaml.Block
import DocSamples.Yaml.Cursor
import DocSamples.Yaml.Fault
import DocSamples.Yaml.Load
import DocSamples.Yaml.Node
import DocSamples.Yaml.Print
import DocSamples.Yaml.Property
import DocSamples.Yaml.Scalar
import DocSamples.Yaml.Scan
import DocSamples.Yaml.Source
import DocSamples.Yaml.Token
import DocSamples.Yaml.Value
import DocSamples.Proofs.Classification
import DocSamples.Proofs.Run.Submission
import DocSamples.Proofs.Breakdown
import DocSamples.Proofs.Options
import DocSamples.Proofs.Region.Parts
import DocSamples.Proofs.Source.Injection
import DocSamples.Proofs.Source.Merging
import DocSamples.Proofs.Source.Restoration
import DocSamples.Proofs.Region.Filling
import DocSamples.Proofs.Source.Order
import DocSamples.Proofs.Source.Locality
import DocSamples.Proofs.Source.BlankRegion
import DocSamples.Proofs.Text.Ends
import DocSamples.Proofs.Region.Surroundings
import DocSamples.Proofs.Region.Laws
import DocSamples.Proofs.Document.Excerpt
import DocSamples.Proofs.Source.Numbered
import DocSamples.Proofs.Source.Touched
import DocSamples.Proofs.Options.Grammar
import DocSamples.Proofs.Options.Quoting
import DocSamples.Proofs.Document.Linked
import DocSamples.Proofs.OutputLine
import DocSamples.Proofs.Include.Snapshot
import DocSamples.Proofs.Source.Heads
import DocSamples.Proofs.Handover
import DocSamples.Proofs.Report.Story
import DocSamples.Proofs.Settings
import DocSamples.Proofs.Tree.WellFormed
import DocSamples.Proofs.Tree.Detour
import DocSamples.Proofs.Settings.Default
import DocSamples.Proofs.Wildcard
import DocSamples.Proofs.Discovery.Order
import DocSamples.Proofs.Discovery.Search
import DocSamples.Proofs.Discovery
import DocSamples.Proofs.Text.Blank
import DocSamples.Proofs.Region.Marker
import DocSamples.Proofs.Region.Matching
import DocSamples.Proofs.Settings.Override
import DocSamples.Proofs.Settings.Runnable
