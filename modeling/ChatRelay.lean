import ChatRelay.Bytes
import ChatRelay.Chat.Frame
import ChatRelay.Chat.Message
import ChatRelay.Chat.Session
import ChatRelay.Chat.Sink
import ChatRelay.CommandLine.Help
import ChatRelay.CommandLine.Request
import ChatRelay.Config.Disk
import ChatRelay.Config.Environment
import ChatRelay.Config.Loading
import ChatRelay.Config.Settings
import ChatRelay.Config.SettingsFile
import ChatRelay.Config.Template
import ChatRelay.Fanout.Backoff
import ChatRelay.Fanout.Bridge
import ChatRelay.Fanout.BridgeError
import ChatRelay.Fanout.BridgeStatus
import ChatRelay.Fanout.Inbound
import ChatRelay.Fanout.Naming
import ChatRelay.Fanout.Outbox
import ChatRelay.Fanout.Publisher
import ChatRelay.Fanout.Subscriber
import ChatRelay.Fanout.Wire
import ChatRelay.Http.Form
import ChatRelay.Http.Handshake
import ChatRelay.Http.Percent
import ChatRelay.Http.Problem
import ChatRelay.Http.Request
import ChatRelay.Http.Response
import ChatRelay.Http.Route
import ChatRelay.Http.Target
import ChatRelay.Http.Wire
import ChatRelay.Hub.Envelope
import ChatRelay.Hub.EventLoop
import ChatRelay.Hub.Node
import ChatRelay.Hub.Outbound
import ChatRelay.Hub.Process
import ChatRelay.Hub.Registry
import ChatRelay.Instance
import ChatRelay.Json.Printer
import ChatRelay.Json.Reader
import ChatRelay.Json.Value
import ChatRelay.Metrics.Exposition
import ChatRelay.Metrics.Registry
import ChatRelay.Number.Binary64
import ChatRelay.Number.Shortest
import ChatRelay.Presence.Ledger
import ChatRelay.Presence.Reading
import ChatRelay.Presence.Worker
import ChatRelay.Redis.Address
import ChatRelay.Redis.Glob
import ChatRelay.Redis.Isolated
import ChatRelay.Redis.Link
import ChatRelay.Redis.Outage
import ChatRelay.Redis.Store
import ChatRelay.Server.Answer
import ChatRelay.Server.Connection
import ChatRelay.Server.Launch
import ChatRelay.Server.State
import ChatRelay.Text.Base64
import ChatRelay.Text.Blank
import ChatRelay.Text.CharClass
import ChatRelay.Text.Digits
import ChatRelay.Text.NetworkAddress
import ChatRelay.Text.Quoted
import ChatRelay.Text.Utf8
import ChatRelay.Time.Calendar
import ChatRelay.Time.Span
import ChatRelay.Time.Timestamp
import ChatRelay.Toml.Document
import ChatRelay.Toml.Reader
import ChatRelay.Toml.Table
import ChatRelay.Toml.Value
import ChatRelay.WebSocket.Codec
import ChatRelay.WebSocket.Digest
import ChatRelay.Main
import ChatRelay.Proofs.Run
import ChatRelay.Proofs.Text.ByteOrder
import ChatRelay.Proofs.Hub.Roster
import ChatRelay.Proofs.Hub.Delivery
import ChatRelay.Proofs.Hub.RegistryRuns
import ChatRelay.Proofs.Hub.Channel
import ChatRelay.Proofs.Hub.Broadcasts
import ChatRelay.Proofs.Hub.Turns
import ChatRelay.Proofs.Hub.Reception
import ChatRelay.Proofs.Hub.ReceptionRuns
import ChatRelay.Proofs.Hub.OneOrder
import ChatRelay.Proofs.Hub.Republishing
import ChatRelay.Proofs.Hub.Headcount
import ChatRelay.Proofs.Hub.Meters
import ChatRelay.Proofs.Hub.Venue
import ChatRelay.Proofs.Hub.Accounting
import ChatRelay.Proofs.Hub.Attendance
import ChatRelay.Proofs.Hub.Commands
import ChatRelay.Proofs.Hub.Isolation
import ChatRelay.Proofs.Hub.World
import ChatRelay.Proofs.Hub.Traffic
import ChatRelay.Proofs.Hub.Hearing
import ChatRelay.Proofs.Hub.Bounds
import ChatRelay.Proofs.Hub.Visits
import ChatRelay.Proofs.Hub.Holding
import ChatRelay.Proofs.Hub.Lobby
import ChatRelay.Proofs.Hub.LocalService
import ChatRelay.Proofs.Server.Switchboard
import ChatRelay.Proofs.Server.Whereabouts
import ChatRelay.Proofs.Server.Departures
import ChatRelay.Proofs.Server.Premises
import ChatRelay.Proofs.Server.Serving
import ChatRelay.Proofs.Presence.Counters
import ChatRelay.Proofs.Presence.RecentSums
import ChatRelay.Proofs.Presence.Changes
import ChatRelay.Proofs.Presence.SharedLedger
import ChatRelay.Proofs.Hub.Listing
import ChatRelay.Proofs.Text.RoundTrip
import ChatRelay.Proofs.Http.Percent
import ChatRelay.Proofs.Presence.Exchanges
import ChatRelay.Proofs.Presence.Records
import ChatRelay.Proofs.Presence.SharedStore
import ChatRelay.Proofs.Presence.Books
import ChatRelay.Proofs.Presence.SoleWorker
import ChatRelay.Proofs.Fanout.Wire
import ChatRelay.Proofs.Fanout.Format
import ChatRelay.Proofs.Fanout.Network
import ChatRelay.Proofs.Fanout.Bridgehead
import ChatRelay.Proofs.Fanout.Outgoing
import ChatRelay.Proofs.Fanout.Noise
import ChatRelay.Proofs.Fanout.Incoming
import ChatRelay.Proofs.Json.Strings
import ChatRelay.Proofs.Json.Numbers
import ChatRelay.Proofs.Json.Fields
import ChatRelay.Proofs.Server.Views
import ChatRelay.Proofs.Json.Values
import ChatRelay.Proofs.Json.Entries
import ChatRelay.Proofs.Time.Calendar
import ChatRelay.Proofs.Text.Digits
import ChatRelay.Proofs.Time.Timestamp
import ChatRelay.Proofs.Chat.Encoding
import ChatRelay.Proofs.Chat.Pinning
import ChatRelay.Proofs.Chat.TwoReaders
import ChatRelay.Proofs.Server.Translation
import ChatRelay.Proofs.Server.ReadPump
import ChatRelay.Proofs.Presence.Drift
import ChatRelay.Proofs.Fanout.Acceptance
import ChatRelay.Proofs.Text.Exchange
import ChatRelay.Proofs.Redis.Patterns
import ChatRelay.Proofs.Fanout.Subscription
import ChatRelay.Proofs.Server.Operations
import ChatRelay.Proofs.Server.NamedRooms
import ChatRelay.Proofs.Fanout.Backoff
import ChatRelay.Proofs.Text.Validity
import ChatRelay.Proofs.Config.Layers
import ChatRelay.Proofs.Server.Capacities
import ChatRelay.Proofs.Json.Source
import ChatRelay.Proofs.Server.Voices
import ChatRelay.Proofs.Server.Fleet
