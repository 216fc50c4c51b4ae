import BenchSweep.Binary64
import BenchSweep.Calendar
import BenchSweep.Campaign
import BenchSweep.Catalog
import BenchSweep.Collection
import BenchSweep.CommandLine.Console
import BenchSweep.CommandLine.Json
import BenchSweep.CommandLine.Options
import BenchSweep.CommandLine.Perform
import BenchSweep.CommandLine.Request
import BenchSweep.Compatibility
import BenchSweep.Configuration
import BenchSweep.Csv.Mark
import BenchSweep.Csv.Reader
import BenchSweep.Csv.Writer
import BenchSweep.Decimal.Notation
import BenchSweep.Decimal.Reading
import BenchSweep.Decimal.Shortest
import BenchSweep.Definition
import BenchSweep.Execution
import BenchSweep.Failure
import BenchSweep.Files
import BenchSweep.Lifecycle
import BenchSweep.Log
import BenchSweep.Main
import BenchSweep.OrderedMap
import BenchSweep.Output
import BenchSweep.Override
import BenchSweep.Path
import BenchSweep.Plan
import BenchSweep.Policy
import BenchSweep.Proofs.Agreement
import BenchSweep.Proofs.Answers
import BenchSweep.Proofs.Binary64
import BenchSweep.Proofs.Binary64.Rounding
import BenchSweep.Proofs.Calls
import BenchSweep.Proofs.Campaign
import BenchSweep.Proofs.Catalog
import BenchSweep.Proofs.Collection
import BenchSweep.Proofs.CollectionFaults
import BenchSweep.Proofs.ColumnUnion
import BenchSweep.Proofs.CommandLine.Collecting
import BenchSweep.Proofs.CommandLine.Console
import BenchSweep.Proofs.CommandLine.Prediction
import BenchSweep.Proofs.CommandLine.Request
import BenchSweep.Proofs.CommandShape
import BenchSweep.Proofs.Compatibility
import BenchSweep.Proofs.Completion
import BenchSweep.Proofs.Configuration
import BenchSweep.Proofs.Csv
import BenchSweep.Proofs.Csv.Readable
import BenchSweep.Proofs.Decimal
import BenchSweep.Proofs.Decimal.Integer
import BenchSweep.Proofs.Decimal.Literal
import BenchSweep.Proofs.Decimal.Magnitude
import BenchSweep.Proofs.Decimal.Shortest
import BenchSweep.Proofs.Directories
import BenchSweep.Proofs.EffectiveValues
import BenchSweep.Proofs.Elapsed
import BenchSweep.Proofs.Executable
import BenchSweep.Proofs.Execution
import BenchSweep.Proofs.Files
import BenchSweep.Proofs.Filling
import BenchSweep.Proofs.Firsts
import BenchSweep.Proofs.Gate
import BenchSweep.Proofs.Gathering
import BenchSweep.Proofs.Insertion
import BenchSweep.Proofs.Isolation
import BenchSweep.Proofs.Lifecycle
import BenchSweep.Proofs.Listing
import BenchSweep.Proofs.Lookup
import BenchSweep.Proofs.Manifest
import BenchSweep.Proofs.OrderedMap
import BenchSweep.Proofs.Output
import BenchSweep.Proofs.Override
import BenchSweep.Proofs.Path
import BenchSweep.Proofs.Plan
import BenchSweep.Proofs.Policy
import BenchSweep.Proofs.Recollection
import BenchSweep.Proofs.Refusal
import BenchSweep.Proofs.Report
import BenchSweep.Proofs.Resolution
import BenchSweep.Proofs.Results
import BenchSweep.Proofs.ResultsFile
import BenchSweep.Proofs.Run
import BenchSweep.Proofs.RunDirectories
import BenchSweep.Proofs.Sampling
import BenchSweep.Proofs.SharedDirectory
import BenchSweep.Proofs.Spacing
import BenchSweep.Proofs.Steps
import BenchSweep.Proofs.Substitution
import BenchSweep.Proofs.Summary
import BenchSweep.Proofs.SummaryRows
import BenchSweep.Proofs.Sweep
import BenchSweep.Proofs.SweepOrder
import BenchSweep.Proofs.SweepTable
import BenchSweep.Proofs.Text.Blank
import BenchSweep.Proofs.Text.Lossy
import BenchSweep.Proofs.Text.Pieces
import BenchSweep.Proofs.Text.Utf8
import BenchSweep.Proofs.Tidy
import BenchSweep.Proofs.Toml.Document
import BenchSweep.Proofs.Toml.Scalar
import BenchSweep.Proofs.Toml.Text
import BenchSweep.Proofs.Toml.Writer
import BenchSweep.Proofs.Uniformity
import BenchSweep.Proofs.Usage
import BenchSweep.Proofs.Value
import BenchSweep.Proofs.Walk
import BenchSweep.Regex.Alternation
import BenchSweep.Regex.ByteRanges
import BenchSweep.Regex.Class
import BenchSweep.Regex.Fault
import BenchSweep.Regex.Footprint
import BenchSweep.Regex.Parser
import BenchSweep.Regex.Program
import BenchSweep.Regex.Property
import BenchSweep.Regex.Search
import BenchSweep.Regex.Sketch
import BenchSweep.Regex.Syntax
import BenchSweep.Resolution
import BenchSweep.Results
import BenchSweep.SampleFormat
import BenchSweep.Sampling
import BenchSweep.Shell.Arithmetic
import BenchSweep.Shell.Builtin
import BenchSweep.Shell.Builtin.Basic
import BenchSweep.Shell.Builtin.Input
import BenchSweep.Shell.Builtin.Jobs
import BenchSweep.Shell.Builtin.Names
import BenchSweep.Shell.Builtin.Output
import BenchSweep.Shell.Builtin.Place
import BenchSweep.Shell.Builtin.Variables
import BenchSweep.Shell.Condition
import BenchSweep.Shell.Device
import BenchSweep.Shell.Expansion
import BenchSweep.Shell.Format
import BenchSweep.Shell.Interpreter
import BenchSweep.Shell.Launch
import BenchSweep.Shell.Parser
import BenchSweep.Shell.Parser.Basic
import BenchSweep.Shell.Parser.Tokens
import BenchSweep.Shell.Parser.Words
import BenchSweep.Shell.Pattern
import BenchSweep.Shell.Process
import BenchSweep.Shell.Quantity
import BenchSweep.Shell.Redirect
import BenchSweep.Shell.Search
import BenchSweep.Shell.Session
import BenchSweep.Shell.Signal
import BenchSweep.Shell.Start
import BenchSweep.Shell.Syntax
import BenchSweep.Shell.Token
import BenchSweep.Shell.Utilities
import BenchSweep.Shell.Utility.Basic
import BenchSweep.Shell.Utility.Characters
import BenchSweep.Shell.Utility.Edit
import BenchSweep.Shell.Utility.Lines
import BenchSweep.Shell.Utility.Matching
import BenchSweep.Shell.Utility.Names
import BenchSweep.Shell.Utility.Numbers
import BenchSweep.Shell.Utility.Order
import BenchSweep.Shell.Utility.Output
import BenchSweep.Shell.Utility.Quotation
import BenchSweep.Shell.Utility.Time
import BenchSweep.Shell.Utility.Tree
import BenchSweep.Stage
import BenchSweep.Summary
import BenchSweep.Text.Age
import BenchSweep.Text.BinaryProperty
import BenchSweep.Text.Blank
import BenchSweep.Text.Boundary
import BenchSweep.Text.CaseFold
import BenchSweep.Text.CodePoints
import BenchSweep.Text.GeneralCategory
import BenchSweep.Text.LaterCharacters
import BenchSweep.Text.NameCharacters
import BenchSweep.Text.Pieces
import BenchSweep.Text.Quoted
import BenchSweep.Text.Script
import BenchSweep.Text.Unprinted
import BenchSweep.Text.Utf8
import BenchSweep.Toml.Decode
import BenchSweep.Toml.Document
import BenchSweep.Toml.Lexeme
import BenchSweep.Toml.Value
import BenchSweep.Toml.Writer
import BenchSweep.Value
import BenchSweep.World
