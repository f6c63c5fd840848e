import Jsonrpsee.Lib.Table
import Jsonrpsee.Lib.Run
import Jsonrpsee.Lib.Decimal
import Jsonrpsee.Lib.Slots
import Jsonrpsee.Lib.Fresh
import Jsonrpsee.Lib.MultiMap
import Jsonrpsee.Lib.Outcome
import Jsonrpsee.Lib.Owners
import Jsonrpsee.Lib.Weights
import Jsonrpsee.Lib.Watchdog
import Jsonrpsee.Types.Json
import Jsonrpsee.Types.Params
import Jsonrpsee.Types.Response
import Jsonrpsee.Types.Visitor
import Jsonrpsee.Types.Equality
import Jsonrpsee.Types.Text
import Jsonrpsee.Types.Codec
import Jsonrpsee.Client.Ids
import Jsonrpsee.Client.Channel
import Jsonrpsee.Client.Manager
import Jsonrpsee.Client.Handlers
import Jsonrpsee.Client.Step
import Jsonrpsee.Client.World
import Jsonrpsee.Client.Subscriptions
import Jsonrpsee.Client.Routing
import Jsonrpsee.Client.Events
import Jsonrpsee.Client.Abandoned
import Jsonrpsee.Client.Streams
import Jsonrpsee.Client.Handles
import Jsonrpsee.Client.Batch
import Jsonrpsee.Client.Session
import Jsonrpsee.Client.Ledger
import Jsonrpsee.Client.Conformance
import Jsonrpsee.Client.Frames
import Jsonrpsee.Client.Posted
import Jsonrpsee.Client.Freshness
import Jsonrpsee.Client.Leak
import Jsonrpsee.Client.Delivery
import Jsonrpsee.Client.BatchRequest
import Jsonrpsee.Client.Overflow
import Jsonrpsee.Client.Ordinary
import Jsonrpsee.Client.Notices
import Jsonrpsee.Client.Disconnect
import Jsonrpsee.Client.Uniqueness
import Jsonrpsee.Http.BatchRequest
import Jsonrpsee.Http.Agreement
import Jsonrpsee.Http.Session
import Jsonrpsee.Http.Counters
import Jsonrpsee.Server.MethodResponse
import Jsonrpsee.Server.BoundedWriter
import Jsonrpsee.Server.RpcService
import Jsonrpsee.Server.Batch
import Jsonrpsee.Server.Subscription
import Jsonrpsee.Server.Subscribers
import Jsonrpsee.Server.Closing
import Jsonrpsee.Server.Answers
import Jsonrpsee.Server.SubscriptionTask
import Jsonrpsee.Server.Notifications
import Jsonrpsee.Server.Connection
import Jsonrpsee.Server.Accounts
import Jsonrpsee.Server.Responses
import Jsonrpsee.Server.Senders
import Jsonrpsee.Server.Asks
import Jsonrpsee.Server.Forms
import Jsonrpsee.Server.Items
import Jsonrpsee.Server.RpcModule
import Jsonrpsee.Server.Dispatch
import Jsonrpsee.Server.Http
import Jsonrpsee.Server.HttpHelpers
import Jsonrpsee.Server.HostFilter
import Jsonrpsee.Server.AuthorityText
import Jsonrpsee.Server.ProxyGetRequest
import Jsonrpsee.Server.WebSocket
import Jsonrpsee.Server.EntryPoints
import Jsonrpsee.Server.Shutdown
import Jsonrpsee.Server.Lifecycle
import Jsonrpsee.Server.Registry
import Jsonrpsee.Server.DirectCall
import Jsonrpsee.Server.DirectSubscription
import Jsonrpsee.Server.ConnectionManager
import Jsonrpsee.Server.Broadcast
import Jsonrpsee.Server.Delivery
import Jsonrpsee.Server.SendTask
import Jsonrpsee.Server.Decryption
import Jsonrpsee.Server.Completion
import Jsonrpsee.Server.BatchBuilder
import Jsonrpsee.Server.Resend
import Jsonrpsee.Macros.IntoRpc
import Jsonrpsee.Macros.Params
import Jsonrpsee.Params.Sequence
import Jsonrpsee.Params.Builders
import Jsonrpsee.Transport.Target
import Jsonrpsee.Transport.Redirects
import Jsonrpsee.Transport.Headers
import Jsonrpsee.Wire.Classification
import Jsonrpsee.Wire.Encryption
import Jsonrpsee.Duplex.Reading
import Jsonrpsee.Duplex.Session
import Jsonrpsee.Duplex.Answers
import Jsonrpsee.Duplex.Stream
import Jsonrpsee.Duplex.Secured
import Jsonrpsee.Http.Exchange
import Jsonrpsee.Http.BatchExchange
import Jsonrpsee.Server.Pings
import Jsonrpsee.Client.Inactivity
