import PagedListing.Text.Blank
import PagedListing.Text.Pieces
import PagedListing.Number.Power
import PagedListing.Number.Integer
import PagedListing.Number.Binary
import PagedListing.Number.Decimal
import PagedListing.Number.Shortest
import PagedListing.Time.Date
import PagedListing.Time.Instant
import PagedListing.Time.Layout
import PagedListing.Time.Text
import PagedListing.Json.Basic
import PagedListing.Json.Printer
import PagedListing.Json.Reader
import PagedListing.OrderedMap
import PagedListing.SortedMap
import PagedListing.Text.LetterCase
import PagedListing.Text.Lowercase
import PagedListing.Direction
import PagedListing.Params
import PagedListing.Schema
import PagedListing.Filter.Directive
import PagedListing.Text.Composed
import PagedListing.Web.Domain.Classes
import PagedListing.Web.Domain.Mapping
import PagedListing.Web.Domain
import PagedListing.Web.Address
import PagedListing.Web.Host
import PagedListing.Web.Url
import PagedListing.Config
import PagedListing.Query.Basic
import PagedListing.Query.Compose
import PagedListing.Paging.Echo
import PagedListing.Paging.Link
import PagedListing.Paging.Page
import PagedListing.Sql.Identifier
import PagedListing.Sql.Like
import PagedListing.Sql.Statement
import PagedListing.Store.Memory
import PagedListing.Paging.Walk
import PagedListing.Yaml.Cursor
import PagedListing.Yaml.Scalar
import PagedListing.Yaml.Lexer
import PagedListing.Yaml.Node
import PagedListing.Yaml.Parser
import PagedListing.Yaml.Reader
import PagedListing.Config.Yaml
import PagedListing.Schema.Yaml
import PagedListing.Sql.Cast
import PagedListing.Sql.Cell.Description
import PagedListing.Sql.Cell.Form
import PagedListing.Sql.Table
import PagedListing.Store.Table
import PagedListing.Proofs.Paging.Scope
import PagedListing.Proofs.Paging.Offset
import PagedListing.Proofs.Paging.Walk
import PagedListing.Proofs.Store.Table
import PagedListing.Proofs.Query.Rejection
import PagedListing.Proofs.Paging.Effect
import PagedListing.Proofs.Query.Reading
import PagedListing.Proofs.Paging.Recompose
import PagedListing.Proofs.Paging.Progress
import PagedListing.Proofs.Paging.NumberFilter
import PagedListing.Proofs.Paging.Ending
import PagedListing.Proofs.Paging.Repeats
import PagedListing.Proofs.Paging.Inserts
import PagedListing.Proofs.Paging.Linkable
import PagedListing.Proofs.Query.WellFormed
import PagedListing.Proofs.Sql.Reader
import PagedListing.Proofs.Sql.Statement
import PagedListing.Proofs.Sql.Grammar
import PagedListing.Proofs.Sql.Meaning
import PagedListing.Proofs.Sql.Pattern
import PagedListing.Proofs.Filter.Key
import PagedListing.Proofs.Filter.LetterCase
import PagedListing.Proofs.Filter.Address
import PagedListing.Proofs.Query.Outcome
import PagedListing.Proofs.Store.Order
import PagedListing.Proofs.Filter.Membership
import PagedListing.Proofs.Filter.Scale
import PagedListing.Proofs.Filter.Elements
import PagedListing.Proofs.Query.Take
import PagedListing.Proofs.Paging.Alike
import PagedListing.Proofs.Paging.Envelope
import PagedListing.Proofs.Time.Stamp
import PagedListing.Proofs.Sql.Binding
import PagedListing.Proofs.Sql.Timestamp
import PagedListing.Proofs.Store.Blocks
import PagedListing.Proofs.Insertion
import PagedListing.Proofs.Store.Preorder
import PagedListing.Proofs.Store.Decoding
import PagedListing.Proofs.Sql.Clause
import PagedListing.Proofs.Store.Breakdown
