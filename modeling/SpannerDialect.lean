import SpannerDialect.Binary64.Basic
import SpannerDialect.Binary64.Shortest
import SpannerDialect.Binary64.Text
import SpannerDialect.Calendar.Date
import SpannerDialect.Calendar.Printer
import SpannerDialect.Calendar.Reader
import SpannerDialect.Calendar.Relaxed
import SpannerDialect.Calendar.Timestamp
import SpannerDialect.ColumnType
import SpannerDialect.Config
import SpannerDialect.Connection
import SpannerDialect.DefaultExpression
import SpannerDialect.Error
import SpannerDialect.Form.Basic
import SpannerDialect.Form.Options
import SpannerDialect.Form.Schema
import SpannerDialect.Form.Sql
import SpannerDialect.Form.Value
import SpannerDialect.Json.Basic
import SpannerDialect.Json.Fault
import SpannerDialect.Json.Numeral
import SpannerDialect.Json.Printer
import SpannerDialect.Json.Reader
import SpannerDialect.Mismatch
import SpannerDialect.Numeric
import SpannerDialect.Plan
import SpannerDialect.Schema.Batch
import SpannerDialect.Schema.Blueprint
import SpannerDialect.Schema.Column
import SpannerDialect.Schema.Ddl
import SpannerDialect.Schema.Diff
import SpannerDialect.Schema.Index
import SpannerDialect.Schema.Naming
import SpannerDialect.Schema.Table
import SpannerDialect.Schema.Tracker
import SpannerDialect.Sql.Basic
import SpannerDialect.Sql.Expression
import SpannerDialect.Sql.Fragment
import SpannerDialect.Sql.Render.Query
import SpannerDialect.Sql.Render.Write
import SpannerDialect.Sql.Rendered
import SpannerDialect.Sql.Statement
import SpannerDialect.Staleness
import SpannerDialect.Text.Base64
import SpannerDialect.Text.Blank
import SpannerDialect.Text.Bytes
import SpannerDialect.Text.CaseTable
import SpannerDialect.Text.Digits
import SpannerDialect.Text.Lowercase
import SpannerDialect.Text.Quoted
import SpannerDialect.Text.Scan
import SpannerDialect.TypedValue
import SpannerDialect.Value.Basic
import SpannerDialect.Value.Check
import SpannerDialect.Value.Coercion
import SpannerDialect.Value.Convert
import SpannerDialect.Value.Literal
import SpannerDialect.Value.Wire
import SpannerDialect.Proofs.Calendar.Count
import SpannerDialect.Proofs.Calendar.InstantText
import SpannerDialect.Proofs.Calendar.LeapSeconds
import SpannerDialect.Proofs.Calendar.Reader
import SpannerDialect.Proofs.Decimal
import SpannerDialect.Proofs.Decoding
import SpannerDialect.Proofs.Durations
import SpannerDialect.Proofs.Except
import SpannerDialect.Proofs.Json.Document
import SpannerDialect.Proofs.Json.Scalar
import SpannerDialect.Proofs.Lookup
import SpannerDialect.Proofs.Numeric
import SpannerDialect.Proofs.Planning
import SpannerDialect.Proofs.Schema.Changes
import SpannerDialect.Proofs.Schema.Differences
import SpannerDialect.Proofs.Schema.Groups
import SpannerDialect.Proofs.Schema.IndexColumns
import SpannerDialect.Proofs.Schema.IndexDifferences
import SpannerDialect.Proofs.Schema.IndexNames
import SpannerDialect.Proofs.Schema.IndexOrder
import SpannerDialect.Proofs.Schema.KeyColumns
import SpannerDialect.Proofs.Schema.Knowledge
import SpannerDialect.Proofs.Schema.LivePolicy
import SpannerDialect.Proofs.Schema.NameRequests
import SpannerDialect.Proofs.Schema.Names
import SpannerDialect.Proofs.Schema.Reordering
import SpannerDialect.Proofs.Schema.Retirements
import SpannerDialect.Proofs.Schema.Runs
import SpannerDialect.Proofs.Schema.Soundness
import SpannerDialect.Proofs.Sessions
import SpannerDialect.Proofs.Sql.Admissible
import SpannerDialect.Proofs.Sql.Grammar
import SpannerDialect.Proofs.Sql.Grouping
import SpannerDialect.Proofs.Sql.Inlined
import SpannerDialect.Proofs.Sql.Negation
import SpannerDialect.Proofs.Sql.Placeholders
import SpannerDialect.Proofs.Sql.RawSql
import SpannerDialect.Proofs.Sql.Reading
import SpannerDialect.Proofs.Sql.ReadModifiers
import SpannerDialect.Proofs.Sql.Simulation.Basic
import SpannerDialect.Proofs.Sql.Simulation.Query
import SpannerDialect.Proofs.Sql.Simulation.Write
import SpannerDialect.Proofs.Sql.Symbols
import SpannerDialect.Proofs.Sql.Unmodified
import SpannerDialect.Proofs.Text.Base64
import SpannerDialect.Proofs.Text.Fill
import SpannerDialect.Proofs.Text.Literals
import SpannerDialect.Proofs.Text.Names
import SpannerDialect.Proofs.Text.Plain
import SpannerDialect.Proofs.Value.Fits
import SpannerDialect.Proofs.Value.Literal
import SpannerDialect.Proofs.Value.Resending
import SpannerDialect.Proofs.Value.RoundTrip
import SpannerDialect.Proofs.Value.Timezones
import SpannerDialect.Proofs.DecimalOrder
import SpannerDialect.Proofs.Sql.Realignment
import SpannerDialect.Proofs.Sql.Shapes
import SpannerDialect.Proofs.Value.Coercion
import SpannerDialect.Proofs.Schema.Creation
import SpannerDialect.Proofs.Text.Enclosed
import SpannerDialect.Proofs.Text.Separation
import SpannerDialect.Proofs.Value.Inference
import SpannerDialect.Proofs.Schema.Admissible
import SpannerDialect.Proofs.Schema.Clauses
import SpannerDialect.Proofs.Schema.ClosedStatements
import SpannerDialect.Proofs.Schema.UniqueReading
