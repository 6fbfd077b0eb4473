import Criteria.Text.Numeral
import Criteria.Text.Blank
import Criteria.Number.Precision
import Criteria.Number.Double
import Criteria.Number.Reader
import Criteria.Number.Shortest
import Criteria.Number.Layout
import Criteria.Calendar.Date
import Criteria.Calendar.Time
import Criteria.Calendar.Offset
import Criteria.Calendar.Printer
import Criteria.Calendar.Reader
import Criteria.Value.Basic
import Criteria.Value.Order
import Criteria.Value.Coercion
import Criteria.Model.Schema
import Criteria.Model.Path
import Criteria.Filter.Operation
import Criteria.Filter.Tree
import Criteria.Contract
import Criteria.Rejection
import Criteria.Config
import Criteria.Predicate.Basic
import Criteria.Predicate.Rendering
import Criteria.Predicate.Like
import Criteria.Sorting.Insertion
import Criteria.Sorting.Merging
import Criteria.Sorting.Runs
import Criteria.Sorting.Partition
import Criteria.Sorting.Adaptive
import Criteria.Predicate.Evaluation
import Criteria.Backend
import Criteria.Registry
import Criteria.Builder
import Criteria.Compiler
import Criteria.Search
import Criteria.Text.Unprintable
import Criteria.Text.Description
import Criteria.Model.Description
import Criteria.Json.Basic
import Criteria.Json.Token
import Criteria.Json.Reader
import Criteria.Json.Writer
import Criteria.Interchange.Shape
import Criteria.Interchange.Request
import Criteria.Interchange.Outcome
import Criteria.Interchange.Writer
import Criteria.Config.Document
import Criteria.Telemetry.Event
import Criteria.Telemetry.Counters
import Criteria.Telemetry.Report
import Criteria.Telemetry.Session
import Criteria.School
import Criteria.Proofs.Filter.Tree
import Criteria.Proofs.Compiler.Outcome
import Criteria.Proofs.Model.Path
import Criteria.Proofs.Predicate.Like
import Criteria.Proofs.Filter.Meaning
import Criteria.Proofs.Predicate.Evaluation
import Criteria.Proofs.Compiler.Meaning
import Criteria.Proofs.Compiler.Faults
import Criteria.Proofs.Compiler.Agreement
import Criteria.Proofs.Compiler.Defaults
import Criteria.Proofs.Compiler.Image
import Criteria.Proofs.Sorting.Permutation
import Criteria.Proofs.Sorting.Stability
import Criteria.Proofs.Value.Order
import Criteria.Proofs.Predicate.Selection
import Criteria.Proofs.Value.Native
import Criteria.Proofs.Predicate.Tree
import Criteria.Proofs.Compiler.WellFormed
import Criteria.Proofs.Compiler.Loosening
import Criteria.Proofs.Compiler.Rearrangement
import Criteria.Proofs.Text.Reading
import Criteria.Proofs.Calendar.WallClock
import Criteria.Proofs.Calendar.Reading
import Criteria.Proofs.Value.Literal
import Criteria.Proofs.Predicate.Rendering
import Criteria.Proofs.Json.Scanning
import Criteria.Proofs.Json.Reading
import Criteria.Proofs.Interchange.Kinds
import Criteria.Proofs.Interchange.RoundTrip
import Criteria.Proofs.Json.Nesting
import Criteria.Proofs.Interchange.Nesting
import Criteria.Proofs.Value.Exchange
import Criteria.Proofs.Interchange.Exchange
import Criteria.Proofs.Compiler.Exchange
import Criteria.Proofs.Predicate.Cursor
import Criteria.Proofs.Compiler.Expansion
import Criteria.Proofs.Compiler.Counting
import Criteria.Proofs.Telemetry.Course
import Criteria.Proofs.Telemetry.Table
import Criteria.Proofs.Telemetry.History
import Criteria.Proofs.Telemetry.Ranking
import Criteria.Proofs.Number.Rounding
import Criteria.Proofs.Value.Transitivity
import Criteria.Proofs.Predicate.Consistency
import Criteria.Proofs.Model.Composition
import Criteria.Proofs.Compiler.Containment
import Criteria.Proofs.Text.Numeral
import Criteria.Proofs.Number.Layout
import Criteria.Proofs.Value.Integers
import Criteria.Proofs.Value.Temporal
import Criteria.Proofs.Calendar.Shifting
import Criteria.Proofs.Calendar.Offsets
import Criteria.Proofs.Calendar.Instants
import Criteria.Proofs.Calendar.Seconds
import Criteria.Proofs.Compiler.Building
import Criteria.Proofs.Compiler.Recording
import Criteria.Proofs.Registry.Assembly
