import Catalog.Command.Arguments
import Catalog.Command.Fault
import Catalog.Command.Run
import Catalog.Config.Cron
import Catalog.Config.Registry
import Catalog.Config.Schedule
import Catalog.Config.Settings
import Catalog.Disk.Content
import Catalog.Disk.Location
import Catalog.Disk.Tree
import Catalog.Document.Basic
import Catalog.Document.Path
import Catalog.Feed.Body
import Catalog.Feed.Fault
import Catalog.Feed.Retry
import Catalog.Feed.Sample
import Catalog.Feed.Source
import Catalog.Json.Binary64
import Catalog.Json.Complaint
import Catalog.Json.Layout
import Catalog.Json.Mismatch
import Catalog.Json.Reader
import Catalog.Json.Shortest
import Catalog.Json.Token
import Catalog.Json.Value
import Catalog.Listing.Record
import Catalog.Listing.Shape
import Catalog.Main
import Catalog.Net.Address
import Catalog.Pattern.Basic
import Catalog.Pattern.Dialect
import Catalog.Pattern.Expression
import Catalog.Pattern.Folding
import Catalog.Pattern.Meaning
import Catalog.Pattern.Property
import Catalog.Pattern.PropertyTable
import Catalog.Pattern.Reader
import Catalog.Pattern.Rendering
import Catalog.Pattern.Resolution
import Catalog.Pattern.Size
import Catalog.Pattern.Trivia
import Catalog.Proofs.Disk.Tree
import Catalog.Proofs.Document.Depth
import Catalog.Proofs.Document.Fields
import Catalog.Proofs.Document.Patching
import Catalog.Proofs.Document.Reread
import Catalog.Proofs.Feed.Retries
import Catalog.Proofs.Json.Depth
import Catalog.Proofs.Json.Lexing
import Catalog.Proofs.Json.Literal
import Catalog.Proofs.Json.Members
import Catalog.Proofs.Json.Parsed
import Catalog.Proofs.Json.RoundTrip
import Catalog.Proofs.Json.Rounding
import Catalog.Proofs.Json.Same
import Catalog.Proofs.Json.Shortest
import Catalog.Proofs.Listing.AsSent
import Catalog.Proofs.Listing.Keys
import Catalog.Proofs.Listing.Normal
import Catalog.Proofs.Listing.Stored
import Catalog.Proofs.Lists
import Catalog.Proofs.Pattern.Agreement
import Catalog.Proofs.Pattern.Brackets
import Catalog.Proofs.Pattern.Classes
import Catalog.Proofs.Pattern.Counts
import Catalog.Proofs.Pattern.Escapes
import Catalog.Proofs.Pattern.LetterCase
import Catalog.Proofs.Pattern.Parts
import Catalog.Proofs.Pattern.Positions
import Catalog.Proofs.Pattern.Quantifiers
import Catalog.Proofs.Pattern.Ranges
import Catalog.Proofs.Pattern.Rendered
import Catalog.Proofs.Pattern.Rereading
import Catalog.Proofs.Pattern.Rows
import Catalog.Proofs.Pattern.Search
import Catalog.Proofs.Pattern.Spacing
import Catalog.Proofs.Pattern.Tidy
import Catalog.Proofs.Pattern.Written
import Catalog.Proofs.Query.Clauses
import Catalog.Proofs.Query.Equality
import Catalog.Proofs.Query.Integers
import Catalog.Proofs.Query.Membership
import Catalog.Proofs.Query.Operators
import Catalog.Proofs.Query.Rendering
import Catalog.Proofs.Query.Respelling
import Catalog.Proofs.Query.Sorting
import Catalog.Proofs.Query.Spelling
import Catalog.Proofs.Query.Texts
import Catalog.Proofs.Sql.Evaluation
import Catalog.Proofs.Sql.Extraction
import Catalog.Proofs.Sql.OrderReading
import Catalog.Proofs.Sql.Ordering
import Catalog.Proofs.Sql.Placeholders
import Catalog.Proofs.Sql.ReadBack
import Catalog.Proofs.Sql.Reading
import Catalog.Proofs.Sql.RowOrder
import Catalog.Proofs.Sql.Selection
import Catalog.Proofs.Sql.Shapes
import Catalog.Proofs.Sql.Slicing
import Catalog.Proofs.Sql.Translation
import Catalog.Proofs.Store.Caution
import Catalog.Proofs.Store.Changes
import Catalog.Proofs.Store.Course
import Catalog.Proofs.Store.File
import Catalog.Proofs.Store.Identity
import Catalog.Proofs.Store.Lookup
import Catalog.Proofs.Store.Paging
import Catalog.Proofs.Store.Permanence
import Catalog.Proofs.Store.Places
import Catalog.Proofs.Store.Readable
import Catalog.Proofs.Store.Rewrite
import Catalog.Proofs.Store.Session
import Catalog.Proofs.Store.Switch
import Catalog.Proofs.Store.Turns
import Catalog.Proofs.Store.Upserting
import Catalog.Proofs.Sync.Answered
import Catalog.Proofs.Sync.Attempt
import Catalog.Proofs.Sync.Calls
import Catalog.Proofs.Sync.Caution
import Catalog.Proofs.Sync.Contract
import Catalog.Proofs.Sync.Digest
import Catalog.Proofs.Sync.Distinct
import Catalog.Proofs.Sync.Expiry
import Catalog.Proofs.Sync.Filed
import Catalog.Proofs.Sync.FirstMatch
import Catalog.Proofs.Sync.Isolation
import Catalog.Proofs.Sync.Ledger
import Catalog.Proofs.Sync.Need
import Catalog.Proofs.Sync.Origin
import Catalog.Proofs.Sync.Pass
import Catalog.Proofs.Sync.Platforms
import Catalog.Proofs.Sync.Reconcile
import Catalog.Proofs.Sync.Recorded
import Catalog.Proofs.Sync.Repeat
import Catalog.Proofs.Sync.Reported
import Catalog.Proofs.Sync.Settled
import Catalog.Proofs.Sync.SharedKeys
import Catalog.Proofs.Sync.Shown
import Catalog.Proofs.Sync.Succession
import Catalog.Proofs.Sync.Summary
import Catalog.Proofs.Sync.SummaryText
import Catalog.Proofs.Sync.Sweep
import Catalog.Proofs.Sync.Uniqueness
import Catalog.Proofs.Sync.Written
import Catalog.Proofs.Text.Blanks
import Catalog.Proofs.Text.Digits
import Catalog.Proofs.Text.Letters
import Catalog.Proofs.Text.Splitting
import Catalog.Proofs.Time.Calendar
import Catalog.Proofs.Time.Order
import Catalog.Proofs.Time.Range
import Catalog.Proofs.Time.Reading
import Catalog.Proofs.Time.Stamp
import Catalog.Proofs.Time.Years
import Catalog.Query.Compare
import Catalog.Query.Fault
import Catalog.Query.Filter
import Catalog.Query.FilterReader
import Catalog.Query.Matching
import Catalog.Query.Page
import Catalog.Query.Ranking
import Catalog.Sql.Expression
import Catalog.Sql.Rendering
import Catalog.Sql.Statement
import Catalog.Store.Collection
import Catalog.Store.Facade
import Catalog.Store.Fault
import Catalog.Store.File
import Catalog.Store.Request
import Catalog.Store.Rewrite
import Catalog.Sync.Digest
import Catalog.Sync.Freshness
import Catalog.Sync.Ledger
import Catalog.Sync.Reconcile
import Catalog.Sync.Report
import Catalog.Sync.Run
import Catalog.Sync.Sweep
import Catalog.Text.Blank
import Catalog.Text.Case
import Catalog.Text.CaseTable
import Catalog.Text.Class
import Catalog.Text.ClassTable
import Catalog.Text.Digits
import Catalog.Text.Order
import Catalog.Text.Quoted
import Catalog.Time.Calendar
import Catalog.Time.Instant
import Catalog.Time.MailDate
import Catalog.Time.Timestamp
import Catalog.Yaml.Cursor
import Catalog.Yaml.Node
import Catalog.Yaml.Scalar
import Catalog.Yaml.Token
