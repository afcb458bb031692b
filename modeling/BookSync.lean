import BookSync.Binary64.Basic
import BookSync.Binary64.Shortest
import BookSync.Book.Basic
import BookSync.Book.Delta
import BookSync.Book.Levels
import BookSync.Book.Sequence
import BookSync.Book.Snapshot
import BookSync.Config
import BookSync.Decimal.Arithmetic
import BookSync.Decimal.Basic
import BookSync.Decimal.Numeral
import BookSync.Error
import BookSync.Fetch.Client
import BookSync.Fetch.Response
import BookSync.Json.Draft
import BookSync.Json.Fault
import BookSync.Json.Fields
import BookSync.Json.Number
import BookSync.Json.Reader
import BookSync.Json.Text
import BookSync.Json.Value
import BookSync.Level
import BookSync.Market.Candle
import BookSync.Market.Funding
import BookSync.Market.Interval
import BookSync.Market.Ticker
import BookSync.Market.Trade
import BookSync.Message.BookSnapshot
import BookSync.Message.BookUpdate
import BookSync.Message.Channel
import BookSync.Message.Envelope
import BookSync.Sync.Coordinator
import BookSync.Sync.Event
import BookSync.Sync.Feed
import BookSync.Sync.Frame
import BookSync.Sync.Notice
import BookSync.Sync.Shared
import BookSync.Sync.Source
import BookSync.Table
import BookSync.Text.Blank
import BookSync.Text.CaseTables
import BookSync.Text.CompositeTables
import BookSync.Text.Composition
import BookSync.Text.Direction
import BookSync.Text.Hex
import BookSync.Text.Hidden
import BookSync.Text.Joining
import BookSync.Text.Lower
import BookSync.Text.Marks
import BookSync.Text.Quoted
import BookSync.Text.Ranges
import BookSync.Text.Shift
import BookSync.Text.Split
import BookSync.Text.Utf8
import BookSync.Url.Address
import BookSync.Url.Basic
import BookSync.Url.Domain
import BookSync.Url.Fault
import BookSync.Url.Form
import BookSync.Url.Host
import BookSync.Url.Label
import BookSync.Url.NameTables
import BookSync.Url.Parser
import BookSync.Url.Path
import BookSync.Url.Percent
import BookSync.Url.Punycode
import BookSync.Proofs.Binary64.Positional
import BookSync.Proofs.Binary64.Rounding
import BookSync.Proofs.Binary64.Shortest
import BookSync.Proofs.Book.Application
import BookSync.Proofs.Book.Changes
import BookSync.Proofs.Book.Depth
import BookSync.Proofs.Book.Edits
import BookSync.Proofs.Book.Loading
import BookSync.Proofs.Book.Offers
import BookSync.Proofs.Book.Record
import BookSync.Proofs.Book.Total
import BookSync.Proofs.Book.Touch
import BookSync.Proofs.Book.Verdict
import BookSync.Proofs.Decimal.Digits
import BookSync.Proofs.Decimal.Exact
import BookSync.Proofs.Decimal.Half
import BookSync.Proofs.Decimal.HalfEven
import BookSync.Proofs.Decimal.Midpoint
import BookSync.Proofs.Decimal.Nearest
import BookSync.Proofs.Decimal.RoundTrip
import BookSync.Proofs.Decimal.Sign
import BookSync.Proofs.Decimal.Sum
import BookSync.Proofs.Decimal.Value
import BookSync.Proofs.Decimal.Written
import BookSync.Proofs.Fetch.Answers
import BookSync.Proofs.Fetch.Failure
import BookSync.Proofs.Fetch.Request
import BookSync.Proofs.Json.Literal
import BookSync.Proofs.Json.Members
import BookSync.Proofs.Json.Number
import BookSync.Proofs.Json.Object
import BookSync.Proofs.Json.Record
import BookSync.Proofs.Level
import BookSync.Proofs.Market.Duration
import BookSync.Proofs.Market.Entries
import BookSync.Proofs.Market.Interval
import BookSync.Proofs.Market.Sides
import BookSync.Proofs.Market.Window
import BookSync.Proofs.Results
import BookSync.Proofs.Sync.Admission
import BookSync.Proofs.Sync.Atomic
import BookSync.Proofs.Sync.Content
import BookSync.Proofs.Sync.Counts
import BookSync.Proofs.Sync.Cursor
import BookSync.Proofs.Sync.Follow
import BookSync.Proofs.Sync.Footprint
import BookSync.Proofs.Sync.Frames
import BookSync.Proofs.Sync.Idle
import BookSync.Proofs.Sync.Installed
import BookSync.Proofs.Sync.Isolation
import BookSync.Proofs.Sync.Mirror
import BookSync.Proofs.Sync.Missed
import BookSync.Proofs.Sync.Protocol
import BookSync.Proofs.Sync.Recovery
import BookSync.Proofs.Sync.Routing
import BookSync.Proofs.Sync.Run
import BookSync.Proofs.Sync.Segment
import BookSync.Proofs.Sync.Step
import BookSync.Proofs.Table
import BookSync.Proofs.Text.Ascii
import BookSync.Proofs.Text.Parts
import BookSync.Proofs.Text.Utf8
import BookSync.Proofs.Url.Form
import BookSync.Proofs.Url.Hosted
import BookSync.Proofs.Url.Name
