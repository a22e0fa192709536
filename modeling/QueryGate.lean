import QueryGate.Audit.Directory
import QueryGate.Audit.Reader
import QueryGate.Audit.Record
import QueryGate.Audit.Trail
import QueryGate.Catalog
import QueryGate.Catalog.Document
import QueryGate.Check.Issue
import QueryGate.Check.Scalar
import QueryGate.Denylist
import QueryGate.Draft.Clean
import QueryGate.Draft.Drafter
import QueryGate.Draft.Prompt
import QueryGate.Error
import QueryGate.Event
import QueryGate.Json.Basic
import QueryGate.Json.Limits
import QueryGate.Json.Parser
import QueryGate.Json.Printer
import QueryGate.Logging
import QueryGate.Logging.Call
import QueryGate.Logging.Console
import QueryGate.Metrics.Registry
import QueryGate.Metrics.Sample
import QueryGate.Number.Basic
import QueryGate.Number.Binary64
import QueryGate.Number.Decimal
import QueryGate.Number.Extended
import QueryGate.OrderedMap
import QueryGate.Pattern
import QueryGate.Pipeline.Run
import QueryGate.Pipeline.Service
import QueryGate.Pipeline.Session
import QueryGate.Pipeline.World
import QueryGate.Projection.Quantifier
import QueryGate.Projection.Reference
import QueryGate.Projection.Split
import QueryGate.Proofs.Audit.Chronology
import QueryGate.Proofs.Audit.Content
import QueryGate.Proofs.Audit.Damaged
import QueryGate.Proofs.Audit.LineEnds
import QueryGate.Proofs.Audit.Lines
import QueryGate.Proofs.Audit.OpenLine
import QueryGate.Proofs.Audit.Partitions
import QueryGate.Proofs.Audit.Reading
import QueryGate.Proofs.Audit.Recall
import QueryGate.Proofs.Audit.Recording
import QueryGate.Proofs.Audit.RoundTrip
import QueryGate.Proofs.Catalog.Lookups
import QueryGate.Proofs.Catalog.Normal
import QueryGate.Proofs.Catalog.Reading
import QueryGate.Proofs.Draft.NormalForm
import QueryGate.Proofs.Draft.Question
import QueryGate.Proofs.Json.Fitting
import QueryGate.Proofs.Json.Joined
import QueryGate.Proofs.Json.Members
import QueryGate.Proofs.Json.Numbers
import QueryGate.Proofs.Json.Strings
import QueryGate.Proofs.Json.Values
import QueryGate.Proofs.Metrics.Counts
import QueryGate.Proofs.Number.Rounding
import QueryGate.Proofs.Number.Shortest
import QueryGate.Proofs.OrderedMap
import QueryGate.Proofs.Pattern.Occurrence
import QueryGate.Proofs.Pattern.Patched
import QueryGate.Proofs.Pattern.Reading
import QueryGate.Proofs.Pattern.Search
import QueryGate.Proofs.Pattern.Spelling
import QueryGate.Proofs.Pipeline.Agreement
import QueryGate.Proofs.Pipeline.Audited
import QueryGate.Proofs.Pipeline.Dispatch
import QueryGate.Proofs.Pipeline.Indifference
import QueryGate.Proofs.Pipeline.Kept
import QueryGate.Proofs.Pipeline.Recorded
import QueryGate.Proofs.Pipeline.Records
import QueryGate.Proofs.Pipeline.Reported
import QueryGate.Proofs.Pipeline.Stages
import QueryGate.Proofs.Projection.Grammar
import QueryGate.Proofs.Projection.Leading
import QueryGate.Proofs.Projection.Lossless
import QueryGate.Proofs.Projection.Pieces
import QueryGate.Proofs.Projection.Quantifiers
import QueryGate.Proofs.Projection.Reading
import QueryGate.Proofs.Projection.Reduction
import QueryGate.Proofs.Sanitizer.Again
import QueryGate.Proofs.Sanitizer.Changed
import QueryGate.Proofs.Sanitizer.Columns
import QueryGate.Proofs.Sanitizer.Denied
import QueryGate.Proofs.Sanitizer.Described
import QueryGate.Proofs.Sanitizer.Examined
import QueryGate.Proofs.Sanitizer.Inert
import QueryGate.Proofs.Sanitizer.Items
import QueryGate.Proofs.Sanitizer.Kept
import QueryGate.Proofs.Sanitizer.Outcome
import QueryGate.Proofs.Sanitizer.ReadOnly
import QueryGate.Proofs.Sanitizer.Reread
import QueryGate.Proofs.Sanitizer.Rewrite
import QueryGate.Proofs.Sanitizer.WholeRow
import QueryGate.Proofs.Schema.Blocks
import QueryGate.Proofs.Schema.Described
import QueryGate.Proofs.Schema.RoundTrip
import QueryGate.Proofs.Source.Labels
import QueryGate.Proofs.Source.Tokens
import QueryGate.Proofs.Statement.Accepted
import QueryGate.Proofs.Statement.Replaced
import QueryGate.Proofs.Statement.Span
import QueryGate.Proofs.Statement.Spelling
import QueryGate.Proofs.Statement.Whole
import QueryGate.Proofs.Text.Blanks
import QueryGate.Proofs.Text.Capitals
import QueryGate.Proofs.Text.Digits
import QueryGate.Proofs.Text.LowerCase
import QueryGate.Proofs.Text.Lowering
import QueryGate.Proofs.Text.Occurrence
import QueryGate.Proofs.Text.Spelling
import QueryGate.Proofs.Text.Utf8
import QueryGate.Proofs.Text.Words
import QueryGate.Proofs.Time.Calendar
import QueryGate.Proofs.Time.Reading
import QueryGate.Proofs.Web.Accounts
import QueryGate.Proofs.Web.Correlation
import QueryGate.Proofs.Web.History
import QueryGate.Proofs.Web.Responses
import QueryGate.Proofs.Web.Serving
import QueryGate.Proofs.Web.Traffic
import QueryGate.Sanitizer
import QueryGate.Schema
import QueryGate.Settings
import QueryGate.Source.Affinity
import QueryGate.Source.Basic
import QueryGate.Source.Database
import QueryGate.Source.Numeral
import QueryGate.Source.Query
import QueryGate.Source.Selection
import QueryGate.Source.Table
import QueryGate.Source.Token
import QueryGate.Statement.Span
import QueryGate.Statement.Verdict
import QueryGate.Text.Basic
import QueryGate.Text.Blank
import QueryGate.Text.Encoding
import QueryGate.Text.LetterCase
import QueryGate.Text.Quotation
import QueryGate.Text.Utf8
import QueryGate.Text.WordClass
import QueryGate.Time.Date
import QueryGate.Time.Reader
import QueryGate.Time.Timestamp
import QueryGate.Web.Answer
import QueryGate.Web.App
import QueryGate.Web.Endpoint
import QueryGate.Web.Exchange
import QueryGate.Web.Input
import QueryGate.Web.Serve
import QueryGate.Web.Url
