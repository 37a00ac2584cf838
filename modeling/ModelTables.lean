import ModelTables.Value.Basic
import ModelTables.Value.Json
import ModelTables.Decimal.Shortest
import ModelTables.Decimal.Text
import ModelTables.Text.Quoted
import ModelTables.Text.Case
import ModelTables.Text.Units
import ModelTables.Calendar
import ModelTables.Calendar.Read
import ModelTables.Failure
import ModelTables.Log
import ModelTables.Shape.Basic
import ModelTables.Shape.Check
import ModelTables.Manifest.Basic
import ModelTables.Manifest.Read
import ModelTables.Schema.Basic
import ModelTables.Schema.Build
import ModelTables.Column.Rules
import ModelTables.Code.Literal
import ModelTables.Code.Imports
import ModelTables.Naming
import ModelTables.Report.Basic
import ModelTables.Report.Schema
import ModelTables.Catalog.Basic
import ModelTables.Catalog.Describe
import ModelTables.Report.Catalog
import ModelTables.Glob.Regex
import ModelTables.Glob.Braces
import ModelTables.Glob.Segment
import ModelTables.Glob.Pattern
import ModelTables.Keyed
import ModelTables.Config.Basic
import ModelTables.Config.Read
import ModelTables.Config.Target
import ModelTables.Report.Config
import ModelTables.Column.Builder
import ModelTables.Plan.Basic
import ModelTables.Plan.Fields
import ModelTables.Plan.Rounds
import ModelTables.Code.Model
import ModelTables.Session
import ModelTables.Report.Generate
import ModelTables.Table.Build
import ModelTables.Registry
import ModelTables.Report.Table
import ModelTables.Connection.Machine
import ModelTables.Connection.Gate
import ModelTables.Connection.Mutex
import ModelTables.Report.Gate
import ModelTables.Yaml.Node
import ModelTables.Yaml.Scalar
import ModelTables.Yaml.Schema
import ModelTables.Yaml.Flow
import ModelTables.Yaml.Block
import ModelTables.Yaml.Compose
import ModelTables.Value.Yaml
import ModelTables.WorkDir
import ModelTables.Manifest.Load
import ModelTables.Config.File
import ModelTables.Command.Generate
import ModelTables.Value.Pretty
import ModelTables.Command.Cli
import ModelTables.Main
import ModelTables.Proofs.Run
import ModelTables.Proofs.Rounds
import ModelTables.Proofs.Keyed
import ModelTables.Proofs.Fields
import ModelTables.Proofs.Parity
import ModelTables.Proofs.Naming
import ModelTables.Proofs.Schema
import ModelTables.Proofs.Stored
import ModelTables.Proofs.Plan
import ModelTables.Proofs.Tables
import ModelTables.Proofs.References
import ModelTables.Proofs.Registry
import ModelTables.Proofs.KeyTypes
import ModelTables.Proofs.Bindings
import ModelTables.Proofs.Lines
import ModelTables.Proofs.Declarations
import ModelTables.Proofs.Gate
import ModelTables.Proofs.GateLedger
import ModelTables.Proofs.SchemaShape
import ModelTables.Proofs.Defaults
import ModelTables.Proofs.Rendered
import ModelTables.Proofs.BuildErrors
import ModelTables.Proofs.GateRollback
import ModelTables.Proofs.ColumnReading
import ModelTables.Proofs.ColumnAgreement
import ModelTables.Proofs.Units
import ModelTables.Proofs.ImportLines
import ModelTables.Proofs.Warnings
import ModelTables.Proofs.JsonReading
import ModelTables.Proofs.Literals
import ModelTables.Proofs.Targets
import ModelTables.Proofs.Generate
import ModelTables.Proofs.Mutex
import ModelTables.Proofs.DeletionTags
