import ChatGateway.Gateway.Backends
import ChatGateway.Gateway.Failure
import ChatGateway.Gateway.OwnProviders
import ChatGateway.Gateway.Services

/-!
# Jobs

A job is one request in all its surroundings: the settings of the gateway, the services, the
behaviour of the providers, the caller, and what is read of the state of the gateway
(`Reads`). The state may change while the request is worked on, so every part is read at a moment
of its own.
-/

namespace ChatGateway

/-- How the gateway was set up. -/
structure Settings where
  /-- The names that are looked up among a caller's keys. -/
  probes : List String
  /-- How many chunks may be on their way to the receiver of a stream. -/
  bufferCapacity : Nat
  /-- Whether a stream that ends without output is an error. -/
  emptyStreamIsError : Bool
  /-- Whether a pick that is not available is tried alone. -/
  strictSelection : Bool
deriving DecidableEq, Repr

/-- What a request reads of the state of the gateway, each part at its moment. -/
structure Reads where
  /-- The providers among which the strategy picks. -/
  selecting : List Provider
  /-- The kind of the default strategy. -/
  kind : StrategyKind
  /-- The rules of the default strategy by rules, if there are any. -/
  rules : Option (List RoutingRule)
  /-- The signals and the rotation at the pick. -/
  signals : Signals
  rotation : Rotation
  /-- The providers that are checked when the caller has none of their own. -/
  probing : List Provider
  /-- The prices that an answer is charged at. -/
  billing : PriceTable

/-- A request in its surroundings. -/
structure Job where
  settings : Settings
  services : Services
  backends : Backends
  reads : Reads
  caller : Option CallerId
  request : ChatRequest

namespace Job

/-- The duration of an attempt is recorded, if a window can be made for it. A window that is there
is taken to have a slot left, as it does unless it is full and its room cannot be doubled. -/
def sample (j : Job) (p : Provider) : Course Unit := do
  Course.ofExcept j.reads.signals.latency.ensureRoom
  Course.record (.sampled p.name (j.backends.elapsed p))

/-- A provider is asked for a whole answer, and the duration of that is recorded. -/
def tryOne (j : Job) (p : Provider) : Course (Except ProviderError ChatResponse) := do
  let result ← j.backends.callChat p
  j.sample p
  return result

end Job

/-- The key ring, if there are both a store of keys and a factory. -/
def Services.keyRing? (s : Services) (probes : List String) : Option KeyRing :=
  match s.keys, s.factory with
  | some keys, some factory => some ⟨probes, keys, factory⟩
  | _, _ => none

end ChatGateway
