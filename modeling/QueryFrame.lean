import QueryFrame.DataFrame.Basic
import QueryFrame.DataFrame.Grouping
import QueryFrame.DataType
import QueryFrame.Diagnostic
import QueryFrame.Dialect.Basic
import QueryFrame.Dialect.Quoting
import QueryFrame.Error.Cause
import QueryFrame.Error.Wording
import QueryFrame.Expr.Basic
import QueryFrame.Expr.Render
import QueryFrame.Expr.Template
import QueryFrame.Json.Basic
import QueryFrame.Json.Fields
import QueryFrame.Json.Load
import QueryFrame.Json.Reader
import QueryFrame.Json.Types
import QueryFrame.Json.Writer
import QueryFrame.Keyed
import QueryFrame.Literal
import QueryFrame.Number.Decimal
import QueryFrame.Number.Float64
import QueryFrame.Number.Shortest
import QueryFrame.Partition.Basic
import QueryFrame.Partition.Grouping
import QueryFrame.Relation
import QueryFrame.Sample
import QueryFrame.Series.Aggregate
import QueryFrame.Series.Basic
import QueryFrame.Series.Column
import QueryFrame.Series.Comparison
import QueryFrame.Series.Windowed
import QueryFrame.Settings
import QueryFrame.Text
import QueryFrame.Window.Basic
import QueryFrame.Window.Frame
import QueryFrame.Window.Function
import QueryFrame.Window.Spec
import QueryFrame.Proofs.Leaves
import QueryFrame.Proofs.Outcome
import QueryFrame.Proofs.ReadBack
import QueryFrame.Proofs.Templates
import QueryFrame.Proofs.Columns
import QueryFrame.Proofs.Runs
import QueryFrame.Proofs.Kinds
import QueryFrame.Proofs.Operations
import QueryFrame.Proofs.Artifact
import QueryFrame.Proofs.Throughout
import QueryFrame.Proofs.Obtained
import QueryFrame.Proofs.Grouped
import QueryFrame.Proofs.Vocabulary
import QueryFrame.Proofs.Safe
import QueryFrame.Proofs.Injection
import QueryFrame.Proofs.Formed
import QueryFrame.Proofs.Rebinding
import QueryFrame.Proofs.Parts
import QueryFrame.Proofs.Guards
import QueryFrame.Proofs.Relations
import QueryFrame.Proofs.Nodes
import QueryFrame.Proofs.Nesting
import QueryFrame.Proofs.MovedAggregates
import QueryFrame.Proofs.Elements
import QueryFrame.Proofs.SelectList
import QueryFrame.Proofs.Comparands
import QueryFrame.Proofs.JsonText
import QueryFrame.Proofs.JsonRecords
import QueryFrame.Proofs.Windows
import QueryFrame.Proofs.GroupKeys
import QueryFrame.Proofs.LoadedSettings
import QueryFrame.Proofs.Projection
import QueryFrame.Proofs.OwnPartition
import QueryFrame.Proofs.FrameRules
import QueryFrame.Proofs.AcceptedFrames
import QueryFrame.Proofs.OpenFrames
import QueryFrame.Proofs.FrameClauses
import QueryFrame.Proofs.Fitting
import QueryFrame.Proofs.Rendering
import QueryFrame.Proofs.OverClauses
import QueryFrame.Proofs.FrameSupport
import QueryFrame.Proofs.GroupedColumns
import QueryFrame.Proofs.Surroundings
import QueryFrame.Proofs.MergedColumns
import QueryFrame.Proofs.GroupingClauses
import QueryFrame.Proofs.GroupingSets
import QueryFrame.Proofs.CompositeLevels
import QueryFrame.Proofs.GroupedComparisons
import QueryFrame.Proofs.OutputNames
import QueryFrame.Proofs.FirstFaults
import QueryFrame.Proofs.RollingFrames
import QueryFrame.Proofs.Sorting
import QueryFrame.Proofs.ExactEquality
import QueryFrame.Proofs.Slots
import QueryFrame.Proofs.Joins
import QueryFrame.Proofs.Paths
import QueryFrame.Proofs.Constants
