import FeedLink.Backoff
import FeedLink.Call
import FeedLink.Cli.Arguments
import FeedLink.Cli.Program
import FeedLink.Cli.Settings
import FeedLink.Cli.Watch
import FeedLink.Client.Basic
import FeedLink.Client.Channel
import FeedLink.Client.Intents
import FeedLink.Client.Monitoring
import FeedLink.Client.OnBlockCall
import FeedLink.Client.Params
import FeedLink.Client.Recording
import FeedLink.Client.Script
import FeedLink.Client.Subscriptions
import FeedLink.Client.Transactions
import FeedLink.Config
import FeedLink.Decimal.Shortest
import FeedLink.Duration
import FeedLink.Endpoint
import FeedLink.Error
import FeedLink.Feed
import FeedLink.FeedHandler
import FeedLink.Grpc.Gateway
import FeedLink.Grpc.Handler
import FeedLink.Grpc.Message
import FeedLink.Grpc.Metadata
import FeedLink.Grpc.Payload
import FeedLink.Grpc.Receiver
import FeedLink.Grpc.Scenario
import FeedLink.Grpc.Schema
import FeedLink.Grpc.Script
import FeedLink.Grpc.Status
import FeedLink.Grpc.Wire
import FeedLink.Inbound
import FeedLink.Json.Basic
import FeedLink.Json.Codec
import FeedLink.Json.DecodeError
import FeedLink.Json.Document
import FeedLink.Json.Lenient
import FeedLink.Json.Parser
import FeedLink.Json.Printer
import FeedLink.Main
import FeedLink.Network
import FeedLink.Notification
import FeedLink.Notification.Block
import FeedLink.Notification.Intent
import FeedLink.Notification.Transaction
import FeedLink.Proofs.Backoff
import FeedLink.Proofs.Base64
import FeedLink.Proofs.Bindings
import FeedLink.Proofs.Cli.Settings
import FeedLink.Proofs.Cli.Watch
import FeedLink.Proofs.Client.Exchange
import FeedLink.Proofs.Client.OnBlockCall
import FeedLink.Proofs.Client.Params
import FeedLink.Proofs.Client.Recording
import FeedLink.Proofs.Client.TxStatus
import FeedLink.Proofs.Client.TypedCall
import FeedLink.Proofs.Config.Storing
import FeedLink.Proofs.Config.Validation
import FeedLink.Proofs.Contract
import FeedLink.Proofs.Envelopes
import FeedLink.Proofs.GivingUp
import FeedLink.Proofs.Grpc.Contract
import FeedLink.Proofs.Grpc.Fields
import FeedLink.Proofs.Grpc.Layout
import FeedLink.Proofs.Grpc.Ownership
import FeedLink.Proofs.Grpc.Payload
import FeedLink.Proofs.Grpc.Receiver
import FeedLink.Proofs.Grpc.RoundTrip
import FeedLink.Proofs.Grpc.Sending
import FeedLink.Proofs.Grpc.Streaming
import FeedLink.Proofs.Grpc.Trace
import FeedLink.Proofs.Grpc.Wire
import FeedLink.Proofs.Inbound
import FeedLink.Proofs.Json.Fields
import FeedLink.Proofs.Json.Printing
import FeedLink.Proofs.Json.Reading
import FeedLink.Proofs.Json.Records
import FeedLink.Proofs.Json.RoundTrip
import FeedLink.Proofs.Json.Scanning
import FeedLink.Proofs.Json.Storing
import FeedLink.Proofs.LongestDelay
import FeedLink.Proofs.Notification
import FeedLink.Proofs.OptionalFields
import FeedLink.Proofs.Pacing
import FeedLink.Proofs.Recoverer
import FeedLink.Proofs.Request
import FeedLink.Proofs.Retrying
import FeedLink.Proofs.Rounding
import FeedLink.Proofs.RoundingAbove
import FeedLink.Proofs.Socket.Attendance
import FeedLink.Proofs.Socket.Call
import FeedLink.Proofs.Socket.Closing
import FeedLink.Proofs.Socket.Coherence
import FeedLink.Proofs.Socket.Contract
import FeedLink.Proofs.Socket.Control
import FeedLink.Proofs.Socket.Correlator
import FeedLink.Proofs.Socket.Delivery
import FeedLink.Proofs.Socket.Diagram
import FeedLink.Proofs.Socket.Effect
import FeedLink.Proofs.Socket.Evolution
import FeedLink.Proofs.Socket.Indices
import FeedLink.Proofs.Socket.Ledger
import FeedLink.Proofs.Socket.Link
import FeedLink.Proofs.Socket.Reattachment
import FeedLink.Proofs.Socket.Redialing
import FeedLink.Proofs.Socket.Registry
import FeedLink.Proofs.Socket.Replay
import FeedLink.Proofs.Socket.Replies
import FeedLink.Proofs.Socket.ReplyShapes
import FeedLink.Proofs.Socket.Resubscription
import FeedLink.Proofs.Socket.Retention
import FeedLink.Proofs.Socket.SharedIds
import FeedLink.Proofs.Socket.Subscribing
import FeedLink.Proofs.Socket.Terminal
import FeedLink.Proofs.Socket.Unsubscribing
import FeedLink.Proofs.Socket.Waiter
import FeedLink.Proofs.Socket.Waiting
import FeedLink.Proofs.Utf8
import FeedLink.RemoteError
import FeedLink.Report
import FeedLink.Request
import FeedLink.Retry
import FeedLink.Socket.Correlator
import FeedLink.Socket.Handler
import FeedLink.Socket.Handshake
import FeedLink.Socket.Link
import FeedLink.Socket.Recovery
import FeedLink.Socket.Registry
import FeedLink.Socket.Scenario
import FeedLink.Socket.Script
import FeedLink.Socket.Step
import FeedLink.Table
import FeedLink.Text.Base64
import FeedLink.Text.Blank
import FeedLink.Text.HeaderField
import FeedLink.Text.Hex
import FeedLink.Text.Printable
import FeedLink.Text.Quoted
import FeedLink.Text.Utf8
import FeedLink.Uri
import FeedLink.VirtualTime
