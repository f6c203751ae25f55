import Community.Cache.Basic
import Community.Cache.Glob
import Community.Cache.Key
import Community.Cache.Remote
import Community.Cache.Store
import Community.Category.Basic
import Community.Category.Input
import Community.Category.Service
import Community.Category.Storage
import Community.Category.Tree
import Community.Config.Basic
import Community.Config.Decode
import Community.Config.Fault
import Community.Config.Folder
import Community.Config.Load
import Community.Config.Path
import Community.Config.Setting
import Community.Config.Variables
import Community.Database.Basic
import Community.Database.Fault
import Community.Database.Query
import Community.Database.Record
import Community.Database.Schema
import Community.Decimal.Nearest
import Community.Decimal.Numeral
import Community.Decimal.Positional
import Community.Decimal.Power
import Community.Decimal.Shortest
import Community.Domain.Ascii
import Community.Domain.Basic
import Community.Domain.Composed
import Community.Domain.Direction
import Community.Domain.Joining
import Community.Domain.Mapping
import Community.Domain.Punycode
import Community.Http.Endpoint
import Community.Http.Extract
import Community.Http.Fault
import Community.Http.Identity
import Community.Http.MediaType
import Community.Http.Message
import Community.Http.Percent
import Community.Http.Query
import Community.Http.Router
import Community.Json.Basic
import Community.Json.Decoder
import Community.Json.Draft
import Community.Json.Printer
import Community.Page
import Community.Problem
import Community.Relation.Basic
import Community.Relation.Favorite
import Community.Relation.Input
import Community.Relation.Like
import Community.Relation.Service
import Community.Relation.Storage
import Community.Report
import Community.Search.Basic
import Community.Search.Service
import Community.Search.Storage
import Community.Tag
import Community.Target.Basic
import Community.Target.Counter
import Community.Target.Storage
import Community.Text.Alphanumeric
import Community.Text.Blank
import Community.Text.Category
import Community.Text.Hex
import Community.Text.Integer
import Community.Text.Lowercase
import Community.Text.Printable
import Community.Text.Quoted
import Community.Text.Table
import Community.Text.Utf8
import Community.Time.Civil
import Community.Time.Timestamp
import Community.Toml.Basic
import Community.Toml.Numeral
import Community.Toml.Quoted
import Community.Toml.Reader
import Community.Toml.Resolve
import Community.Toml.Table
import Community.User.Basic
import Community.User.Email
import Community.User.Input
import Community.User.Service
import Community.User.Storage
import Community.Validation
import Community.World
import Community.Proofs.Procedure
import Community.Proofs.Cache.Store
import Community.Proofs.Operation
import Community.Proofs.Relation.Toggle
import Community.Proofs.Footprint
import Community.Proofs.Relation.Request
import Community.Proofs.Relation.Link
import Community.Proofs.Relation.Margin
import Community.Proofs.Refusal
import Community.Proofs.Category.Path
import Community.Proofs.Category.Forest
import Community.Proofs.Category.Hierarchy
import Community.Proofs.Category.Change
import Community.Proofs.Time.Civil
import Community.Proofs.Text.Integer
import Community.Proofs.Time.Timestamp
import Community.Proofs.Json.Token
import Community.Proofs.Json.Draft
import Community.Proofs.Json.Record
import Community.Proofs.Relation.Outcome
import Community.Proofs.Relation.Life
import Community.Proofs.Relation.Record
import Community.Proofs.Cache.Key
import Community.Proofs.Cache.Origin
import Community.Proofs.Cache.Recency
import Community.Proofs.Relation.Call
import Community.Proofs.Relation.Fits
import Community.Proofs.Relation.Repeat
import Community.Proofs.Relation.Replay
import Community.Proofs.Cache.Uncached
import Community.Proofs.Cache.Outage
import Community.Proofs.Category.Position
import Community.Proofs.Category.Breadcrumbs
import Community.Proofs.Rows
import Community.Proofs.User.Change
import Community.Proofs.Http.Service
import Community.Proofs.Http.Effect
import Community.Proofs.Http.Authority
import Community.Proofs.Json.Faithful
import Community.Proofs.Cache.Values
import Community.Proofs.Cache.Cached
import Community.Proofs.Cache.Dated
import Community.Proofs.Cache.Coherence
import Community.Proofs.Cache.Transparency
import Community.Proofs.Search.Trace
import Community.Proofs.Search.Ledger
import Community.Proofs.Json.Parts
import Community.Proofs.User.Personal
import Community.Proofs.Http.Traffic
import Community.Proofs.User.Veil
import Community.Proofs.Http.Privacy
import Community.Proofs.User.Overlook
import Community.Proofs.User.Hash
import Community.Proofs.Http.Veil
import Community.Proofs.Category.Assembly
import Community.Proofs.Search.Pattern
import Community.Proofs.Search.Keyword
import Community.Proofs.Cache.Lifetime
import Community.Proofs.Schema.Width
import Community.Proofs.Schema.Writes
import Community.Proofs.Page.Cut
import Community.Proofs.Page.Listed
import Community.Proofs.Search.Isolation
import Community.Proofs.Page.Partition
import Community.Proofs.Page.Walk
import Community.Proofs.Relation.Kept
import Community.Proofs.Relation.Views
import Community.Proofs.Json.Flattened
import Community.Proofs.Category.Depth
import Community.Proofs.Cache.Lossless
import Community.Proofs.Cache.Expiry
import Community.Proofs.Cache.Removal
import Community.Proofs.Category.Name
import Community.Proofs.Json.Choice
import Community.Proofs.Search.Result
import Community.Proofs.Category.Sibling
import Community.Proofs.Category.Leaf
import Community.Proofs.Category.Growth
import Community.Proofs.Touch
import Community.Proofs.Http.Gate
import Community.Proofs.Cache.Star
import Community.Proofs.Cache.Family
import Community.Proofs.Category.Ascent
import Community.Proofs.Page.Window
import Community.Proofs.Http.Query
import Community.Proofs.Http.Window
