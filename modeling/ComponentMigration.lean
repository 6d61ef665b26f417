import ComponentMigration.Artifact.Bundle
import ComponentMigration.Assoc
import ComponentMigration.Sorting
import ComponentMigration.Command.Analyze
import ComponentMigration.Command.Arguments
import ComponentMigration.Command.Console
import ComponentMigration.Command.Markup.Style
import ComponentMigration.Command.Markup.Literal
import ComponentMigration.Command.Migrate
import ComponentMigration.Component.Basic
import ComponentMigration.Component.Discovery
import ComponentMigration.Dependency.Analyze
import ComponentMigration.Dependency.Basic
import ComponentMigration.Dependency.Cluster
import ComponentMigration.Dependency.Cycle
import ComponentMigration.Dependency.Graph
import ComponentMigration.Dependency.Usage
import ComponentMigration.Equivalence.Basic
import ComponentMigration.Equivalence.Compare
import ComponentMigration.Fault.Basic
import ComponentMigration.Fault.Explanation
import ComponentMigration.Fault.Recovery
import ComponentMigration.Fault.Strategy
import ComponentMigration.Fault.Wording
import ComponentMigration.Json.Display
import ComponentMigration.Json.Value
import ComponentMigration.Json.Misuse
import ComponentMigration.Json.Reader
import ComponentMigration.Main
import ComponentMigration.Manifest.Store
import ComponentMigration.Module.Transform
import ComponentMigration.Module.ClassParts
import ComponentMigration.Module.Draft
import ComponentMigration.Module.Logic
import ComponentMigration.Module.Outcome
import ComponentMigration.Module.Text
import ComponentMigration.Number.Arithmetic
import ComponentMigration.Number.Binary64
import ComponentMigration.Number.Decimal
import ComponentMigration.Number.Quantity
import ComponentMigration.Path
import ComponentMigration.Pipeline.Phases
import ComponentMigration.Pipeline.Orchestrator
import ComponentMigration.Pipeline.Run
import ComponentMigration.Project.Discovery
import ComponentMigration.Project.Files
import ComponentMigration.Readiness.Basic
import ComponentMigration.Readiness.Inventory
import ComponentMigration.Readiness.Score
import ComponentMigration.Record.Action
import ComponentMigration.Record.Outcome
import ComponentMigration.Record.Dependency
import ComponentMigration.Record.Disk
import ComponentMigration.Record.Outline
import ComponentMigration.Record.Review
import ComponentMigration.Record.Run
import ComponentMigration.Report.Markdown
import ComponentMigration.Run.Batch
import ComponentMigration.Run.Disk
import ComponentMigration.Run.Progress
import ComponentMigration.Run.State
import ComponentMigration.Run.Token
import ComponentMigration.Settings.Basic
import ComponentMigration.Settings.File
import ComponentMigration.Settings.Table
import ComponentMigration.Source.Binding
import ComponentMigration.Source.Visit
import ComponentMigration.Source.Document
import ComponentMigration.Source.FlatTree
import ComponentMigration.Source.Node
import ComponentMigration.Structure.Basic
import ComponentMigration.Structure.Parse
import ComponentMigration.Text.Basic
import ComponentMigration.Text.Casing
import ComponentMigration.Text.Cells
import ComponentMigration.Text.Glob
import ComponentMigration.Text.Letters
import ComponentMigration.Text.Numeral
import ComponentMigration.Text.Pattern
import ComponentMigration.Text.Picture
import ComponentMigration.Text.Quoted
import ComponentMigration.Text.Utf8
import ComponentMigration.Time.Instant
import ComponentMigration.Toml.Scalar
import ComponentMigration.Toml.Printer
import ComponentMigration.Toml.Reader
import ComponentMigration.Toml.Scan
import ComponentMigration.Toml.Value
import ComponentMigration.Trouble
import ComponentMigration.Proofs.Dependency.ClosedWalk
import ComponentMigration.Proofs.Dependency.CycleSearch
import ComponentMigration.Proofs.Run.Exec
import ComponentMigration.Proofs.Number.Binary64
import ComponentMigration.Proofs.Assoc
import ComponentMigration.Proofs.Fault.Recovery
import ComponentMigration.Proofs.Dependency.Graph
import ComponentMigration.Proofs.Dependency.Gathering
import ComponentMigration.Proofs.Dependency.Analyze
import ComponentMigration.Proofs.Sorting
import ComponentMigration.Proofs.Sorting.Stable
import ComponentMigration.Proofs.Run.Arrangement
import ComponentMigration.Proofs.Run.Stays
import ComponentMigration.Proofs.Run.Batch
import ComponentMigration.Proofs.Run.Engines
import ComponentMigration.Proofs.Pipeline.Work
import ComponentMigration.Proofs.Pipeline.Stages
import ComponentMigration.Proofs.Settings.Validation
import ComponentMigration.Proofs.Settings.Merging
import ComponentMigration.Proofs.Source.Sites
import ComponentMigration.Proofs.Pipeline.Orchestrator
import ComponentMigration.Proofs.Module.Drafting
import ComponentMigration.Proofs.Module.Marking
import ComponentMigration.Proofs.Module.Transform
import ComponentMigration.Proofs.Pipeline.UnitResults
import ComponentMigration.Proofs.Pipeline.Coverage
import ComponentMigration.Proofs.Json.ReadBack
import ComponentMigration.Proofs.Artifact.Module
import ComponentMigration.Proofs.Manifest.Basic
import ComponentMigration.Proofs.Manifest.Store
import ComponentMigration.Proofs.Manifest.Rollback
import ComponentMigration.Proofs.Manifest.Loading
import ComponentMigration.Proofs.Manifest.Clearing
import ComponentMigration.Proofs.Command.Target
import ComponentMigration.Proofs.Module.Keeping
import ComponentMigration.Proofs.Module.Logic
import ComponentMigration.Proofs.Module.Bindings
import ComponentMigration.Proofs.Command.Migrate
import ComponentMigration.Proofs.Command.Session
import ComponentMigration.Proofs.Dependency.Reordering
import ComponentMigration.Proofs.Dependency.Circular
import ComponentMigration.Proofs.Run.Determined
import ComponentMigration.Proofs.Run.Modes
import ComponentMigration.Proofs.Pipeline.Overall
import ComponentMigration.Proofs.Pipeline.Updates
import ComponentMigration.Proofs.Pipeline.Rising
import ComponentMigration.Proofs.Run.Ledger
import ComponentMigration.Proofs.Pipeline.Carried
import ComponentMigration.Proofs.Command.DryRun
import ComponentMigration.Proofs.Fault.Misuse
import ComponentMigration.Proofs.Run.Failing
import ComponentMigration.Proofs.Pipeline.Parsing
import ComponentMigration.Proofs.Pipeline.FailFast
import ComponentMigration.Proofs.Manifest.Status
import ComponentMigration.Proofs.Command.Noting
import ComponentMigration.Proofs.Dependency.Provenance
import ComponentMigration.Proofs.Dependency.Levels
import ComponentMigration.Proofs.Dependency.Distance
import ComponentMigration.Proofs.Dependency.Transitive
import ComponentMigration.Proofs.Dependency.Groups
import ComponentMigration.Proofs.Dependency.Clusters
import ComponentMigration.Proofs.Dependency.Registry
import ComponentMigration.Proofs.Dependency.Packages
import ComponentMigration.Proofs.Dependency.Users
import ComponentMigration.Proofs.Dependency.UsageNotes
import ComponentMigration.Proofs.Dependency.Attribution
import ComponentMigration.Proofs.Module.Placement
import ComponentMigration.Proofs.Text.Lines
import ComponentMigration.Proofs.Source.Visit
import ComponentMigration.Proofs.Module.Members
import ComponentMigration.Proofs.Module.HookNames
import ComponentMigration.Proofs.Module.Accounting
import ComponentMigration.Proofs.Module.Lookup
import ComponentMigration.Proofs.Module.Rewriting
import ComponentMigration.Proofs.Module.Literals
import ComponentMigration.Proofs.Module.LocalNames
import ComponentMigration.Proofs.Module.Documentation
import ComponentMigration.Proofs.Module.Wrapping
import ComponentMigration.Proofs.Source.Complexity
import ComponentMigration.Proofs.Equivalence.Verdict
import ComponentMigration.Proofs.Structure.Attempts
import ComponentMigration.Proofs.Readiness.Sections
import ComponentMigration.Proofs.Readiness.Roadmap
import ComponentMigration.Proofs.Path
import ComponentMigration.Proofs.Component.Units
import ComponentMigration.Proofs.Number.Rounding
import ComponentMigration.Proofs.Text.Pattern
import ComponentMigration.Proofs.Text.Splitting
import ComponentMigration.Proofs.Equivalence.Completeness
import ComponentMigration.Proofs.Source.Entry
import ComponentMigration.Proofs.Source.Clause
import ComponentMigration.Proofs.Source.Comments
import ComponentMigration.Proofs.Project.Files
import ComponentMigration.Proofs.Project.Discovery
import ComponentMigration.Proofs.Fault.Classification
import ComponentMigration.Proofs.Dependency.Resolution
import ComponentMigration.Proofs.Run.Unseen
import ComponentMigration.Proofs.Project.Reports
import ComponentMigration.Proofs.Project.Coverage
import ComponentMigration.Proofs.Number.Parts
import ComponentMigration.Proofs.Number.Significand
import ComponentMigration.Proofs.Number.Addition
import ComponentMigration.Proofs.Number.Product
import ComponentMigration.Proofs.Readiness.Score
import ComponentMigration.Proofs.Time.Millis
import ComponentMigration.Proofs.Fault.Code
