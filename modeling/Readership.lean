import Readership.Archive.Aggregation
import Readership.Archive.Entity
import Readership.Archive.Tables
import Readership.Calendar.Bucket
import Readership.Calendar.Date
import Readership.Calendar.Instant
import Readership.Calendar.Reader
import Readership.Command.Answering
import Readership.Command.Arguments
import Readership.Command.Failure
import Readership.Command.Program
import Readership.Command.Request
import Readership.Fault
import Readership.Filter.Condition
import Readership.Filter.Document
import Readership.Filter.Operator
import Readership.Filter.Predicate
import Readership.Filter.Selection
import Readership.Json.Basic
import Readership.Json.NumberLexeme
import Readership.Json.Printer
import Readership.Json.Reader
import Readership.Json.Record
import Readership.Json.Token
import Readership.Json.Written
import Readership.Main
import Readership.Metric.Bounds
import Readership.Metric.Grouped
import Readership.Metric.Growth
import Readership.Metric.Parameter
import Readership.Metric.Ranking
import Readership.Metric.Row
import Readership.Metric.Selector
import Readership.Number.FloatText
import Readership.Number.Numeral
import Readership.Number.Shortest
import Readership.Plan.Basic
import Readership.Plan.Row
import Readership.Plan.Store
import Readership.Proofs.Archive.Answer
import Readership.Proofs.Archive.Coarsening
import Readership.Proofs.Archive.EarlyWeeks
import Readership.Proofs.Archive.Grouping
import Readership.Proofs.Archive.Integrity
import Readership.Proofs.Archive.Loading
import Readership.Proofs.Archive.Reordering
import Readership.Proofs.Calendar.BareDate
import Readership.Proofs.Calendar.Bucket
import Readership.Proofs.Calendar.Label
import Readership.Proofs.Calendar.Nesting
import Readership.Proofs.Calendar.Number
import Readership.Proofs.Calendar.Order
import Readership.Proofs.Calendar.Range
import Readership.Proofs.Calendar.Reading
import Readership.Proofs.Calendar.Timestamp
import Readership.Proofs.Calendar.Week
import Readership.Proofs.Calendar.Written
import Readership.Proofs.Filter.Compilation
import Readership.Proofs.Filter.Constructors
import Readership.Proofs.Filter.Containment
import Readership.Proofs.Filter.Depth
import Readership.Proofs.Filter.Grammar
import Readership.Proofs.Filter.Leaves
import Readership.Proofs.Filter.Meaning
import Readership.Proofs.Filter.Naming
import Readership.Proofs.Filter.NormalForm
import Readership.Proofs.Filter.Operators
import Readership.Proofs.Filter.Truth
import Readership.Proofs.Json.Keys
import Readership.Proofs.Metric.Bounds
import Readership.Proofs.Metric.Dimension
import Readership.Proofs.Metric.Ends
import Readership.Proofs.Metric.Growth
import Readership.Proofs.Metric.Owner
import Readership.Proofs.Metric.Ranking
import Readership.Proofs.Metric.Totals
import Readership.Proofs.Metric.WithinCalendar
import Readership.Proofs.Number.Numeral
import Readership.Proofs.Outcome
import Readership.Proofs.Plan.Arrangement
import Readership.Proofs.Plan.Order
import Readership.Proofs.Report.Separated
import Readership.Proofs.Server.Cell
import Readership.Proofs.Server.Document
import Readership.Proofs.Server.Message
import Readership.Proofs.Server.Sending
import Readership.Proofs.Server.Table
import Readership.Proofs.Server.Wrapper
import Readership.Proofs.Settings.Acceptance
import Readership.Proofs.Sql.Admission
import Readership.Proofs.Sql.Agreement
import Readership.Proofs.Sql.Expression
import Readership.Proofs.Sql.Fragment
import Readership.Proofs.Sql.Functions
import Readership.Proofs.Sql.Guard
import Readership.Proofs.Sql.Identifier
import Readership.Proofs.Sql.Lexis
import Readership.Proofs.Sql.Literals
import Readership.Proofs.Sql.Reading
import Readership.Proofs.Sql.Rendering
import Readership.Proofs.Sql.Rewording
import Readership.Proofs.Sql.Scope
import Readership.Proofs.Sql.Token
import Readership.Proofs.Sql.Words
import Readership.Proofs.Text.Case
import Readership.Proofs.Text.Reader
import Readership.Proofs.Text.Search
import Readership.Proofs.Text.SmallLetters
import Readership.Proofs.View.Conformance
import Readership.Proofs.View.RoundTrip
import Readership.Report.Columns
import Readership.Report.Format
import Readership.Report.Inspection
import Readership.Report.Metrics
import Readership.Report.Separated
import Readership.Server.Answer
import Readership.Server.Column
import Readership.Server.Exchange
import Readership.Server.Fault
import Readership.Server.Rows
import Readership.Settings.Document
import Readership.Settings.Logging
import Readership.Settings.Source
import Readership.Sql.Guard
import Readership.Sql.Select
import Readership.Sql.Selection
import Readership.Sql.Spelling
import Readership.Sql.Statement
import Readership.Text.Base64
import Readership.Text.Blank
import Readership.Text.Case
import Readership.Text.CaseTable
import Readership.Text.Diagnostic
import Readership.Text.Reader
import Readership.Text.Search
import Readership.Text.Unseen
import Readership.Toml.Document
import Readership.Toml.Line
import Readership.Toml.Quoted
import Readership.Toml.Scalar
import Readership.Toml.Tree
import Readership.Toml.Value
import Readership.Url.Address
import Readership.Url.Domain
import Readership.Url.DomainTable
import Readership.Url.Host
import Readership.Url.Punycode
import Readership.View.Field
import Readership.View.Literal
import Readership.View.Value
