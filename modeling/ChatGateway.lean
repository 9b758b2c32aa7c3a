import ChatGateway.Binary64
import ChatGateway.Chat.Failure
import ChatGateway.Chat.Message
import ChatGateway.Chat.Request
import ChatGateway.Chat.Response
import ChatGateway.Chat.Wire
import ChatGateway.Config.Document
import ChatGateway.Config.Placeholder
import ChatGateway.Config.Routing
import ChatGateway.Config.Telemetry
import ChatGateway.Context
import ChatGateway.Course.Basic
import ChatGateway.Course.Drive
import ChatGateway.Course.Event
import ChatGateway.Course.Machine
import ChatGateway.Course.Reply
import ChatGateway.Course.Stretch
import ChatGateway.Decimal.Basic
import ChatGateway.Decimal.Shortest
import ChatGateway.Fault
import ChatGateway.Gateway.Backends
import ChatGateway.Gateway.Failure
import ChatGateway.Gateway.Job
import ChatGateway.Gateway.OwnProviders
import ChatGateway.Gateway.Plan
import ChatGateway.Gateway.Registry
import ChatGateway.Gateway.Resolution
import ChatGateway.Gateway.Route
import ChatGateway.Gateway.Services
import ChatGateway.Gateway.State
import ChatGateway.Gateway.Stream
import ChatGateway.InsertionMap
import ChatGateway.Json.Basic
import ChatGateway.Json.Reader
import ChatGateway.Json.Record
import ChatGateway.Latency.Duration
import ChatGateway.Latency.History
import ChatGateway.Pricing
import ChatGateway.Provider
import ChatGateway.Rehearsal.Cast
import ChatGateway.Rehearsal.Ensemble
import ChatGateway.Rehearsal.Script
import ChatGateway.Rehearsal.Stage
import ChatGateway.Routing.Desk
import ChatGateway.Routing.Measured
import ChatGateway.Routing.ModelMatch
import ChatGateway.Routing.Rotation
import ChatGateway.Routing.Rule
import ChatGateway.Routing.Signals
import ChatGateway.Routing.Strategy
import ChatGateway.Routing.StrategyKind
import ChatGateway.Text.Blank
import ChatGateway.Text.CaseData
import ChatGateway.Text.Composition
import ChatGateway.Text.CompositionData
import ChatGateway.Text.HiddenData
import ChatGateway.Text.Lines
import ChatGateway.Text.Listing
import ChatGateway.Text.Lowercase
import ChatGateway.Text.Quoted
import ChatGateway.Text.Ranges
import ChatGateway.Text.Search
import ChatGateway.Toml.Moment
import ChatGateway.Toml.Quotation
import ChatGateway.Toml.Reader
import ChatGateway.Toml.Scalar
import ChatGateway.Toml.Table
import ChatGateway.Url.Basic
import ChatGateway.Url.ClassData
import ChatGateway.Url.FoldData
import ChatGateway.Url.Folding
import ChatGateway.Url.Host
import ChatGateway.Url.Label
import ChatGateway.Url.Path
import ChatGateway.Url.Percent
import ChatGateway.Url.Punycode
import ChatGateway.Proofs.Routing.Turns
import ChatGateway.Proofs.Routing.Shares
import ChatGateway.Proofs.Routing.Selection
import ChatGateway.Proofs.Course.Trail
import ChatGateway.Proofs.Course.Undisturbed
import ChatGateway.Proofs.Course.Following
import ChatGateway.Proofs.Course.Guarantee
import ChatGateway.Proofs.Course.Onset
import ChatGateway.Proofs.Course.Driven
import ChatGateway.Proofs.Course.Delivery
import ChatGateway.Proofs.Course.Heeding
import ChatGateway.Proofs.Course.CalledOff
import ChatGateway.Proofs.Course.Aftermath
import ChatGateway.Proofs.Course.Shielded
import ChatGateway.Proofs.Course.Unasked
import ChatGateway.Proofs.Course.Unheard
import ChatGateway.Proofs.Course.Confluence
import ChatGateway.Proofs.Gateway.Planning
import ChatGateway.Proofs.Gateway.Order
import ChatGateway.Proofs.Gateway.Attempts
import ChatGateway.Proofs.Gateway.OwnProviders
import ChatGateway.Proofs.Gateway.Failover
import ChatGateway.Proofs.Gateway.Relay
import ChatGateway.Proofs.Gateway.Streaming
import ChatGateway.Proofs.Gateway.Report
import ChatGateway.Proofs.Gateway.Succession
import ChatGateway.Proofs.Gateway.StreamFailover
import ChatGateway.Proofs.Gateway.Completeness
import ChatGateway.Proofs.Gateway.Cancellation
import ChatGateway.Proofs.Gateway.Interruption
import ChatGateway.Proofs.Gateway.Resolution
import ChatGateway.Proofs.Gateway.Reading
import ChatGateway.Proofs.Gateway.Billing
import ChatGateway.Proofs.Gateway.Isolation
import ChatGateway.Proofs.Gateway.Silence
import ChatGateway.Proofs.Gateway.Precedence
import ChatGateway.Proofs.Gateway.Grounds
import ChatGateway.Proofs.Gateway.Probing
import ChatGateway.Proofs.Gateway.Snapshots
import ChatGateway.Proofs.Gateway.Registration
import ChatGateway.Proofs.Gateway.Departure
import ChatGateway.Proofs.Gateway.Buffering
import ChatGateway.Proofs.Gateway.Annotation
import ChatGateway.Proofs.Latency.Sums
import ChatGateway.Proofs.Routing.Totality
import ChatGateway.Proofs.Routing.Fastest
import ChatGateway.Proofs.Routing.Foremost
import ChatGateway.Proofs.Routing.Cheapest
import ChatGateway.Proofs.Latency.Windows
import ChatGateway.Proofs.Binary64.Order
import ChatGateway.Proofs.Binary64.Magnitude
import ChatGateway.Proofs.Json.Records
import ChatGateway.Proofs.Chat.RoundTrip
import ChatGateway.Proofs.Config.Grammar
import ChatGateway.Proofs.Config.Expansion
import ChatGateway.Proofs.Config.Preservation
import ChatGateway.Proofs.Config.Validity
import ChatGateway.Proofs.Routing.Tiers
import ChatGateway.Proofs.Routing.Priorities
import ChatGateway.Proofs.Routing.Unlisted
import ChatGateway.Proofs.Routing.Prices
import ChatGateway.Proofs.Latency.Means
import ChatGateway.Proofs.Binary64.Value
import ChatGateway.Proofs.Binary64.Nearest
import ChatGateway.Proofs.Binary64.Truncation
import ChatGateway.Proofs.Routing.Rules
import ChatGateway.Proofs.Routing.Thresholds
import ChatGateway.Proofs.Routing.TextAmount
import ChatGateway.Proofs.Context.Lineage
import ChatGateway.Proofs.Text.Containment
import ChatGateway.Proofs.Routing.PartialNames
import ChatGateway.Proofs.Chat.Places
import ChatGateway.Proofs.Chat.Layout
