import ChatGateway.Config.Routing
import ChatGateway.Gateway.Job
import ChatGateway.Gateway.Registry
import ChatGateway.Gateway.Route
import ChatGateway.Gateway.Stream
import ChatGateway.Course.Drive

/-!
# The gateway

The state of a gateway: the registry, the default strategy, the signals and the rotation, beside
its settings and services. A request is a job over what it reads of this state (`Gateway.job`);
what it leaves behind is put back by `Gateway.absorb`.
-/

namespace ChatGateway

/-- The strategy that is in effect when nothing else is asked for. -/
structure DefaultStrategy where
  kind : StrategyKind
  /-- The rules for when the kind is by rules, in the order in which they are looked at. -/
  rules : Option (List RoutingRule)

namespace DefaultStrategy

/-- The default with another kind; the rules are kept for later. -/
def withKind (d : DefaultStrategy) (kind : StrategyKind) : DefaultStrategy := { d with kind }

/-- The default by the given rules. -/
def ofRules (rules : List StoredRule) : DefaultStrategy :=
  ⟨.custom, some (RuleOrder.compiled rules)⟩

end DefaultStrategy

/-- A gateway. -/
structure Gateway where
  settings : Settings
  services : Services
  registry : Registry := {}
  standard : DefaultStrategy
  signals : Signals
  rotation : Rotation := {}

namespace Gateway

/-- A gateway without providers. -/
def ofConfig (c : RoutingConfig) (services : Services) : Gateway where
  settings :=
    { probes := c.probes
      bufferCapacity := max c.streamBuffer 1
      emptyStreamIsError := c.emptyStreamIsError
      strictSelection := c.strictSelection }
  services := services
  standard := ⟨c.strategy, if c.rules.isEmpty then none else some (RuleOrder.compiled c.rules)⟩
  signals := ⟨.ofEntries c.pricing, .ofCapacity c.latencySamples⟩

/-- The gateway with a provider registered. -/
def register (g : Gateway) (p : Provider) : Gateway := { g with registry := g.registry.register p }

/-- The provider registered under a name. -/
def provider (g : Gateway) (name : String) : Except GatewayError Provider :=
  match g.registry.get? name with
  | some p => .ok p
  | none => .error (.providerNotFound name)

/-- The gateway with another kind of default strategy. -/
def setKind (g : Gateway) (kind : StrategyKind) : Gateway :=
  { g with standard := g.standard.withKind kind }

/-- The gateway with a default strategy by rules. -/
def setRules (g : Gateway) (rules : List StoredRule) : Gateway :=
  { g with standard := .ofRules rules }

/-- The gateway with the price of a model set. -/
def setPrice (g : Gateway) (e : PriceEntry) : Gateway :=
  { g with signals := { g.signals with
      prices := g.signals.prices.set e.provider e.model e.price } }

/-- The gateway with another latency history. -/
def setLatency (g : Gateway) (latency : LatencyHistory) : Gateway :=
  { g with signals := { g.signals with latency } }

/-- The gateway with a duration recorded. -/
def recordLatency (g : Gateway) (provider : String) (d : Duration) : Except Fault Gateway :=
  (g.signals.latency.record provider d).map g.setLatency

/-- The gateway with all durations forgotten. -/
def resetLatency (g : Gateway) : Gateway := g.setLatency g.signals.latency.reset

/-- What a request reads when nothing changes while it is worked on. -/
def reads (g : Gateway) : Reads where
  selecting := g.registry.providers
  kind := g.standard.kind
  rules := g.standard.rules
  signals := g.signals
  rotation := g.rotation
  probing := g.registry.providers
  billing := g.signals.prices

/-- A request to the gateway. -/
def job (g : Gateway) (backends : Backends) (caller : Option CallerId) (request : ChatRequest) :
    Job where
  settings := g.settings
  services := g.services
  backends := backends
  reads := g.reads
  caller := caller
  request := request

/-- The gateway after an event. -/
def absorbOne (g : Gateway) : Event → Gateway
  | .turned => { g with rotation := g.rotation.advance }
  | .sampled provider elapsed => g.setLatency (g.signals.latency.push provider elapsed)
  | _ => g

/-- The gateway after the events of a request. -/
def absorb (g : Gateway) (events : List Event) : Gateway := events.foldl absorbOne g

/-- The kind of strategy in effect for a caller. -/
def strategyKindFor (g : Gateway) (caller : Option CallerId) : Course StrategyKind :=
  (g.services.strategyKind g.standard.kind caller).shield

/-- The default strategy is taken over from the policy, if it names one. -/
def syncDefault (g : Gateway) (caller : Option CallerId) : Course Gateway := do
  match ← (g.services.askDefault caller).shield with
  | some kind => return g.setKind kind
  | none => return g

/-- Whether a caller has a key of their own for a provider. -/
def callerHasKey (g : Gateway) (caller : Option CallerId) (provider : String) : Course Bool :=
  match caller, g.services.keyRing? g.settings.probes with
  | some caller, some keyRing => (keyRing.hasKey caller provider).shield
  | _, _ => .done false

/-- The text that describes the gateway. -/
def describe (g : Gateway) : String :=
  Text.openRecord "Router" [("registry", g.registry.describe),
    ("strategy", g.standard.kind.label), ("services", g.services.describe)]

end Gateway

/-- The result that an ended course amounts to: being called off is being cancelled. Nothing comes
of a course that waits for ever or that a fault has stopped. -/
def Ending.result? {α : Type} : Ending (Except GatewayError α) → Option (Except GatewayError α)
  | .finished r => some r
  | .interrupted => some (.error .cancelled)
  | .stalled => none
  | .faulted _ => none

end ChatGateway
