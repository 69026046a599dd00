import Tendermint.Answer.Block
import Tendermint.Answer.Event
import Tendermint.Answer.Node
import Tendermint.Answer.Tx
import Tendermint.Answer.Validator
import Tendermint.Broadcaster.Basic
import Tendermint.Broadcaster.Loop
import Tendermint.Broadcaster.Step
import Tendermint.Broadcaster.Wait
import Tendermint.Chain.Block
import Tendermint.Chain.Node
import Tendermint.Chain.Tx
import Tendermint.Chain.Validator
import Tendermint.Chain.Version
import Tendermint.Cli.Arguments
import Tendermint.Cli.Invocation
import Tendermint.Cli.Print
import Tendermint.Cli.Report
import Tendermint.Cli.Run
import Tendermint.Client.Calls
import Tendermint.Client.Config
import Tendermint.Client.Error
import Tendermint.Client.Exchange
import Tendermint.Client.HeightWatch
import Tendermint.Client.Network
import Tendermint.Client.Paging
import Tendermint.Client.Script
import Tendermint.Client.Subscription
import Tendermint.Digest.Block
import Tendermint.Digest.LengthPrefix
import Tendermint.Digest.Ripemd160
import Tendermint.Digest.Sha256
import Tendermint.Json.Basic
import Tendermint.Json.Compact
import Tendermint.Json.Reader
import Tendermint.Json.Token
import Tendermint.Main
import Tendermint.Number.Binary64
import Tendermint.Number.Shortest
import Tendermint.Proofs.Answer.Absence
import Tendermint.Proofs.Answer.Block
import Tendermint.Proofs.Answer.Dialect
import Tendermint.Proofs.Answer.Endpoint
import Tendermint.Proofs.Answer.Extension
import Tendermint.Proofs.Answer.Malformed
import Tendermint.Proofs.Answer.Node
import Tendermint.Proofs.Answer.Respelling
import Tendermint.Proofs.Answer.Spelling
import Tendermint.Proofs.Answer.Structure
import Tendermint.Proofs.Answer.Tx
import Tendermint.Proofs.Broadcaster.Alternation
import Tendermint.Proofs.Broadcaster.Debounce
import Tendermint.Proofs.Broadcaster.Delivery
import Tendermint.Proofs.Broadcaster.Effect
import Tendermint.Proofs.Broadcaster.Ending
import Tendermint.Proofs.Broadcaster.Stops
import Tendermint.Proofs.Broadcaster.Waiting
import Tendermint.Proofs.Client.AnyAnswers
import Tendermint.Proofs.Client.Detection
import Tendermint.Proofs.Client.HeightWatch
import Tendermint.Proofs.Client.LaterPages
import Tendermint.Proofs.Client.Paging
import Tendermint.Proofs.Client.Transports
import Tendermint.Proofs.Client.WatchTasks
import Tendermint.Proofs.Client.WatchTurns
import Tendermint.Proofs.Digest.LengthPrefix
import Tendermint.Proofs.History
import Tendermint.Proofs.Json.Fields
import Tendermint.Proofs.Json.Replace
import Tendermint.Proofs.Schema.Decode
import Tendermint.Proofs.Schema.Integer
import Tendermint.Proofs.Schema.Narrowing
import Tendermint.Proofs.Schema.Reader
import Tendermint.Proofs.Schema.Settings
import Tendermint.Proofs.Socket.Allocation
import Tendermint.Proofs.Socket.Coherence
import Tendermint.Proofs.Socket.Correlation
import Tendermint.Proofs.Socket.Delivery
import Tendermint.Proofs.Socket.Dispatch
import Tendermint.Proofs.Socket.Duplicates
import Tendermint.Proofs.Socket.Effect
import Tendermint.Proofs.Socket.Feed
import Tendermint.Proofs.Socket.Independence
import Tendermint.Proofs.Socket.Life
import Tendermint.Proofs.Socket.Lives
import Tendermint.Proofs.Socket.Names
import Tendermint.Proofs.Socket.Order
import Tendermint.Proofs.Socket.Orphans
import Tendermint.Proofs.Socket.Ownership
import Tendermint.Proofs.Socket.Reach
import Tendermint.Proofs.Socket.Tables
import Tendermint.Proofs.Socket.Unsubscribing
import Tendermint.Proofs.Text.Forms
import Tendermint.Proofs.Text.RoundTrip
import Tendermint.Proofs.Url.Authority
import Tendermint.Proofs.Url.Domain
import Tendermint.Proofs.Url.Host
import Tendermint.Proofs.Url.Ipv4
import Tendermint.Proofs.Url.Normal
import Tendermint.Proofs.Url.Number
import Tendermint.Proofs.Url.Path
import Tendermint.Proofs.Url.Separator
import Tendermint.Proofs.Wire.Clause
import Tendermint.Proofs.Wire.Encoding
import Tendermint.Proofs.Wire.Endpoint
import Tendermint.Proofs.Wire.Envelope
import Tendermint.Proofs.Wire.Query
import Tendermint.Proofs.Wire.Reply
import Tendermint.Schema.Basic
import Tendermint.Schema.Error
import Tendermint.Schema.Leaf
import Tendermint.Socket.Basic
import Tendermint.Socket.Router
import Tendermint.Socket.Step
import Tendermint.Socket.Table
import Tendermint.Text.Base64
import Tendermint.Text.Blank
import Tendermint.Text.Bytes
import Tendermint.Text.Duration
import Tendermint.Text.Hex
import Tendermint.Text.Integer
import Tendermint.Text.Printable
import Tendermint.Time.Calendar
import Tendermint.Time.Timestamp
import Tendermint.Unicode.Allowed
import Tendermint.Unicode.CombiningClass
import Tendermint.Unicode.Composite
import Tendermint.Unicode.Direction
import Tendermint.Unicode.Joining
import Tendermint.Unicode.Mark
import Tendermint.Unicode.Normal
import Tendermint.Unicode.Ranges
import Tendermint.Unicode.Replacement
import Tendermint.Url.Basic
import Tendermint.Url.Domain
import Tendermint.Url.Host
import Tendermint.Url.Label
import Tendermint.Url.Percent
import Tendermint.Url.Punycode
import Tendermint.Url.Separator
import Tendermint.Wire.Endpoint
import Tendermint.Wire.Event
import Tendermint.Wire.Fault
import Tendermint.Wire.Query
import Tendermint.Wire.Reply
import Tendermint.Wire.Request
import Tendermint.Wire.RequestId
import Tendermint.Wire.Typed
import Tendermint.Proofs.Wire.Encoding
