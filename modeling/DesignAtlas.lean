import DesignAtlas.CommandLine.Arguments
import DesignAtlas.CommandLine.Completion
import DesignAtlas.CommandLine.Invocation
import DesignAtlas.CommandLine.Outcome
import DesignAtlas.CommandLine.Report
import DesignAtlas.Design.Arena
import DesignAtlas.Design.CompileSet
import DesignAtlas.Design.Hierarchy
import DesignAtlas.Design.Linking
import DesignAtlas.Design.Registry
import DesignAtlas.Failure
import DesignAtlas.Json.Value
import DesignAtlas.Json.Writer
import DesignAtlas.Main
import DesignAtlas.Number.Binary
import DesignAtlas.Number.Digest
import DesignAtlas.Number.Total
import DesignAtlas.Path
import DesignAtlas.Regex.Basic
import DesignAtlas.Regex.Reader
import DesignAtlas.Report.Document
import DesignAtlas.Report.Outline
import DesignAtlas.Shell.Arithmetic
import DesignAtlas.Shell.Braces
import DesignAtlas.Shell.Builtin.Basic
import DesignAtlas.Shell.Builtin.Declarations
import DesignAtlas.Shell.Builtin.Directories
import DesignAtlas.Shell.Builtin.State
import DesignAtlas.Shell.Builtin.Variables
import DesignAtlas.Shell.Builtins
import DesignAtlas.Shell.ByteText
import DesignAtlas.Shell.Calculation
import DesignAtlas.Shell.Calling
import DesignAtlas.Shell.Compound
import DesignAtlas.Shell.Ending
import DesignAtlas.Shell.Escape
import DesignAtlas.Shell.Evaluation
import DesignAtlas.Shell.Executor
import DesignAtlas.Shell.Expansion
import DesignAtlas.Shell.Expression
import DesignAtlas.Shell.Field
import DesignAtlas.Shell.Format
import DesignAtlas.Shell.Glob
import DesignAtlas.Shell.Jobs
import DesignAtlas.Shell.Lookup
import DesignAtlas.Shell.Numeral
import DesignAtlas.Shell.Parameter
import DesignAtlas.Shell.Pattern
import DesignAtlas.Shell.Programs
import DesignAtlas.Shell.Quoting
import DesignAtlas.Shell.Reading.Commands
import DesignAtlas.Shell.Reading.Source
import DesignAtlas.Shell.Reading.Tokens
import DesignAtlas.Shell.Reading.Words
import DesignAtlas.Shell.Records.Evaluation
import DesignAtlas.Shell.Records.Form
import DesignAtlas.Shell.Records.Machine
import DesignAtlas.Shell.Records.Reading
import DesignAtlas.Shell.Records.Script
import DesignAtlas.Shell.Records.Table
import DesignAtlas.Shell.Records.Value
import DesignAtlas.Shell.Redirection
import DesignAtlas.Shell.Session
import DesignAtlas.Shell.Step
import DesignAtlas.Shell.Stream
import DesignAtlas.Shell.Syntax
import DesignAtlas.Shell.Test
import DesignAtlas.Shell.Tool.Alteration
import DesignAtlas.Shell.Tool.Arrange
import DesignAtlas.Shell.Tool.Basic
import DesignAtlas.Shell.Tool.Calendar
import DesignAtlas.Shell.Tool.Characters
import DesignAtlas.Shell.Tool.Checksums
import DesignAtlas.Shell.Tool.Columns
import DesignAtlas.Shell.Tool.Compare
import DesignAtlas.Shell.Tool.Difference
import DesignAtlas.Shell.Tool.Edit
import DesignAtlas.Shell.Tool.EditScript
import DesignAtlas.Shell.Tool.Facts
import DesignAtlas.Shell.Tool.Files
import DesignAtlas.Shell.Tool.Find
import DesignAtlas.Shell.Tool.FindQuery
import DesignAtlas.Shell.Tool.Install
import DesignAtlas.Shell.Tool.Lines
import DesignAtlas.Shell.Tool.Listing
import DesignAtlas.Shell.Tool.Numbers
import DesignAtlas.Shell.Tool.Order
import DesignAtlas.Shell.Tool.Place
import DesignAtlas.Shell.Tool.Portions
import DesignAtlas.Shell.Tool.Records
import DesignAtlas.Shell.Tool.Running
import DesignAtlas.Shell.Tool.Search
import DesignAtlas.Shell.Tool.Show
import DesignAtlas.Shell.Tool.Table
import DesignAtlas.Shell.Variable
import DesignAtlas.Simulation.Command
import DesignAtlas.Simulation.Settings
import DesignAtlas.Simulation.SettingsFile
import DesignAtlas.Source.Definition
import DesignAtlas.Source.Include
import DesignAtlas.Source.Instance
import DesignAtlas.Source.Lexeme
import DesignAtlas.Source.Offset
import DesignAtlas.Storage.Basic
import DesignAtlas.Storage.Disk
import DesignAtlas.Storage.Fault
import DesignAtlas.Storage.Node
import DesignAtlas.Text.Blank
import DesignAtlas.Text.Cursor
import DesignAtlas.Text.Reader
import DesignAtlas.Text.Search
import DesignAtlas.Text.Utf8
import DesignAtlas.Text.WordChar
import DesignAtlas.Toml.Document
import DesignAtlas.Toml.Entries
import DesignAtlas.Toml.Lexeme
import DesignAtlas.Toml.Number
import DesignAtlas.Toml.Value
import DesignAtlas.Workspace.Analysis
import DesignAtlas.Workspace.Basic
import DesignAtlas.Workspace.Classification
import DesignAtlas.Workspace.FileCategory
import DesignAtlas.Workspace.Folder
import DesignAtlas.Workspace.FolderNode
import DesignAtlas.Workspace.Listing
import DesignAtlas.Workspace.Notice
import DesignAtlas.Workspace.Project
import DesignAtlas.Proofs.Source.Pieces
import DesignAtlas.Proofs.Source.Layout
import DesignAtlas.Proofs.Source.PlainScan
import DesignAtlas.Proofs.Source.InstanceOffsets
import DesignAtlas.Proofs.Design.FileClosure
import DesignAtlas.Proofs.Design.Links
import DesignAtlas.Proofs.Design.Nesting
import DesignAtlas.Proofs.Design.Reachability
import DesignAtlas.Proofs.Text.Utf8
import DesignAtlas.Proofs.Written.Text
import DesignAtlas.Proofs.Written.Instances
import DesignAtlas.Proofs.Written.Definitions
import DesignAtlas.Proofs.Written.RoundTrip
import DesignAtlas.Proofs.Design.Walk
import DesignAtlas.Proofs.Design.Arrangement
import DesignAtlas.Proofs.Design.HierarchyShape
import DesignAtlas.Proofs.Design.Cycles
import DesignAtlas.Proofs.Workspace.Requests
import DesignAtlas.Proofs.Workspace.UnreadableSources
import DesignAtlas.Proofs.Workspace.Coherence
import DesignAtlas.Proofs.Report.ModuleLines
import DesignAtlas.Proofs.Report.References
import DesignAtlas.Proofs.Design.LinkOrder
import DesignAtlas.Proofs.Design.Registering
import DesignAtlas.Proofs.Design.CallHistory
import DesignAtlas.Proofs.Workspace.Listed
import DesignAtlas.Proofs.Workspace.ReadOrder
import DesignAtlas.Proofs.Workspace.Reads
import DesignAtlas.Proofs.Workspace.DefinedModules
import DesignAtlas.Proofs.Workspace.Epochs
import DesignAtlas.Proofs.Written.Drafts
import DesignAtlas.Proofs.Text.ByteOrder
import DesignAtlas.Proofs.Source.HeaderExtent
import DesignAtlas.Proofs.Workspace.Queries
import DesignAtlas.Proofs.Design.RegistrationOrder
import DesignAtlas.Proofs.Design.EditedBodies
import DesignAtlas.Proofs.Source.IncludeOffsets
import DesignAtlas.Proofs.Workspace.SortedEntries
import DesignAtlas.Proofs.Workspace.IncludedFiles
import DesignAtlas.Proofs.Workspace.FolderPlaces
import DesignAtlas.Proofs.Workspace.Expansions
import DesignAtlas.Proofs.CommandLine.DirectoryListing
import DesignAtlas.Proofs.Text.Offsets
import DesignAtlas.Proofs.Design.LinkPlaces
import DesignAtlas.Proofs.Source.CheckedScan
import DesignAtlas.Proofs.Text.ByteChars
import DesignAtlas.Proofs.Source.ScanBytes
import DesignAtlas.Proofs.Source.ScanPieces
import DesignAtlas.Proofs.Source.ScanSafety
import DesignAtlas.Proofs.Shell.WrittenWords
import DesignAtlas.Proofs.Shell.WrittenTokens
import DesignAtlas.Proofs.Shell.WrittenCommands
import DesignAtlas.Proofs.Shell.LiteralWords
import DesignAtlas.Proofs.Simulation.RunLine
import DesignAtlas.Proofs.Text.Readers
import DesignAtlas.Proofs.Json.Reader
import DesignAtlas.Proofs.Json.Tokens
import DesignAtlas.Proofs.Json.RoundTrip
import DesignAtlas.Proofs.Report.DocumentText
import DesignAtlas.Proofs.Source.WordOffsets
import DesignAtlas.Proofs.Source.LeftmostHits
import DesignAtlas.Proofs.Source.BlockDepth
import DesignAtlas.Proofs.Source.ListOffsets
import DesignAtlas.Proofs.Source.IncludeMatches
import DesignAtlas.Proofs.Design.Arenas
import DesignAtlas.Proofs.Workspace.FolderNodes
import DesignAtlas.Proofs.Workspace.Refinement
import DesignAtlas.Proofs.Workspace.Sessions
import DesignAtlas.Proofs.Storage.DiskTrees
