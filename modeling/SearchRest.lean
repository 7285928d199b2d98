import SearchRest.Body
import SearchRest.Calendar
import SearchRest.Catalogue
import SearchRest.Catalogue.Cluster
import SearchRest.Catalogue.Documents
import SearchRest.Catalogue.Field
import SearchRest.Catalogue.Scripts
import SearchRest.Catalogue.Searches
import SearchRest.Catalogue.Snapshots
import SearchRest.Catalogue.Tables
import SearchRest.Catalogue.Writes
import SearchRest.Client
import SearchRest.CommandLine.Arguments
import SearchRest.CommandLine.Input
import SearchRest.CommandLine.LogFilter
import SearchRest.CommandLine.Program
import SearchRest.CommandLine.Settings
import SearchRest.Decimal.Binary64
import SearchRest.Decimal.Layout
import SearchRest.Decimal.Reading
import SearchRest.Decimal.Shortest
import SearchRest.Documents
import SearchRest.Draft
import SearchRest.Draft.Report
import SearchRest.Duration
import SearchRest.Endpoint
import SearchRest.Error
import SearchRest.Files
import SearchRest.Http.Exchange
import SearchRest.Http.Header
import SearchRest.Http.Message
import SearchRest.Http.Redirect
import SearchRest.Http.Reply
import SearchRest.Http.Settings
import SearchRest.Identifier
import SearchRest.Json.Basic
import SearchRest.Json.Interest
import SearchRest.Json.Lexeme
import SearchRest.Json.Numeral
import SearchRest.Json.Printing
import SearchRest.Json.Reading
import SearchRest.Json.Shape
import SearchRest.Json.Stored
import SearchRest.KeyMap
import SearchRest.Main
import SearchRest.Operation
import SearchRest.Param.Bag
import SearchRest.Param.Value
import SearchRest.Proofs.Catalogue.Building
import SearchRest.Proofs.Catalogue.Declarations
import SearchRest.Proofs.Catalogue.Paths
import SearchRest.Proofs.Client.Calls
import SearchRest.Proofs.CommandLine.Runs
import SearchRest.Proofs.Draft.Documents
import SearchRest.Proofs.Draft.Slots
import SearchRest.Proofs.Draft.Storage
import SearchRest.Proofs.Draft.Untyped
import SearchRest.Proofs.Http.Address
import SearchRest.Proofs.Http.Answers
import SearchRest.Proofs.Http.Delivery
import SearchRest.Proofs.Http.Headers
import SearchRest.Proofs.Http.RawText
import SearchRest.Proofs.Http.Replies
import SearchRest.Proofs.Json.Trees
import SearchRest.Proofs.Lists
import SearchRest.Proofs.Param.HeaderNames
import SearchRest.Proofs.Param.History
import SearchRest.Proofs.Param.QueryString
import SearchRest.Proofs.Param.Storage
import SearchRest.Proofs.Route.Choice
import SearchRest.Proofs.Route.Rendering
import SearchRest.Proofs.Selection
import SearchRest.Proofs.Text.Numeral
import SearchRest.Proofs.Text.Percent
import SearchRest.Proofs.Text.Pieces
import SearchRest.Proofs.Text.Utf8
import SearchRest.Proofs.Url.Authority
import SearchRest.Proofs.Url.Domain
import SearchRest.Proofs.Url.Host
import SearchRest.Proofs.Url.Numbers
import SearchRest.Proofs.Url.Path
import SearchRest.Proofs.Url.Rereading
import SearchRest.Proofs.Url.Syntax
import SearchRest.Request
import SearchRest.Retry
import SearchRest.Route.Bindings
import SearchRest.Route.Resolution
import SearchRest.Route.Template
import SearchRest.Route.Value
import SearchRest.TaskId
import SearchRest.Text.Base64
import SearchRest.Text.Blank
import SearchRest.Text.Composed
import SearchRest.Text.Composed.Table
import SearchRest.Text.Lowercase
import SearchRest.Text.Lowercase.Table
import SearchRest.Text.Numeral
import SearchRest.Text.Percent
import SearchRest.Text.Pieces
import SearchRest.Text.Quoted
import SearchRest.Text.Quoted.Table
import SearchRest.Text.Utf8
import SearchRest.TimeValue
import SearchRest.Timestamp
import SearchRest.Token
import SearchRest.Toml.Basic
import SearchRest.Toml.Reading
import SearchRest.Toml.Scalar
import SearchRest.Toml.Section
import SearchRest.Url
import SearchRest.Url.Domain
import SearchRest.Url.Domain.Classes
import SearchRest.Url.Domain.Folding
import SearchRest.Url.Host
import SearchRest.Url.Punycode
import SearchRest.Url.Syntax
import SearchRest.Proofs.Route.Repair
import SearchRest.Proofs.Route.Elements
import SearchRest.Proofs.Draft.Indices
import SearchRest.Proofs.Json.Lines
import SearchRest.Proofs.Json.Lexemes
import SearchRest.Proofs.Json.Rereading
import SearchRest.Proofs.CommandLine.Bodies
import SearchRest.Proofs.Time.Values
import SearchRest.Proofs.Time.Parameters
import SearchRest.Proofs.Text.Trimming
import SearchRest.Proofs.Identifier.Tasks
import SearchRest.Proofs.Identifier.Lists
import SearchRest.Proofs.CommandLine.Segments
import SearchRest.Proofs.Param.Reloading
import SearchRest.Proofs.Route.Writing
import SearchRest.Proofs.CommandLine.Precedence
import SearchRest.Proofs.Param.Explicit
import SearchRest.Proofs.Text.Composed
import SearchRest.Proofs.Url.Labels
import SearchRest.Proofs.Url.Punycode
import SearchRest.Proofs.Url.Ideographs
import SearchRest.Proofs.Http.Cancellation
