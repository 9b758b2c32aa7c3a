import ChatGateway.Decimal.Shortest
import ChatGateway.Json.Record
import ChatGateway.Routing.Signals
import ChatGateway.Text.Listing

/-!
# Rules

A stored rule (`StoredRule`) names a provider, a priority, a condition and the parameters of the
condition. Compiling it gives a `RoutingRule`, whose condition is decided for each request on the
signals of that moment. A stored rule that makes no sense becomes a rule that never matches.
-/

namespace ChatGateway

/-- A rule as it is stored. -/
structure StoredRule where
  condition : String
  /-- The parameters; the last value given to a key counts. -/
  params : List (String × Json)
  provider : String
  priority : Int32 := 0

namespace StoredRule

/-- A rule for the requests that name a model. -/
def forModel (model provider : String) (priority : Int32) : StoredRule :=
  ⟨"model", [("model", .str model)], provider, priority⟩

/-- A rule for requests that are expected to cost no more than a limit. -/
def costThreshold (maxCost : Float) (provider : String) (priority : Int32) : StoredRule :=
  ⟨"cost_threshold", [("max_cost", .ofFloat maxCost)], provider, priority⟩

/-- A rule for a provider whose mean latency is no more than a limit. -/
def latencyThreshold (maxLatencyMs : UInt64) (provider : String) (priority : Int32) : StoredRule :=
  ⟨"latency_threshold", [("max_latency_ms", .int maxLatencyMs.toNat)], provider, priority⟩

/-- A parameter read as a value of some type. -/
def param? {α : Type} (r : StoredRule) (key : String) (read : Json → Option α) : Option α :=
  ((Json.obj r.params).get? key).bind read

end StoredRule

/-- What a rule asks of a request. -/
inductive Condition where
  /-- The request names this model. -/
  | modelEquals (model : String)
  /-- The expected cost with the provider of the rule is at most this. -/
  | costAtMost (maxCost : Float)
  /-- The mean latency of the provider of the rule, in whole milliseconds, is at most this. -/
  | latencyAtMost (maxLatencyMs : Float)
  | predicate (test : ChatRequest → Bool)
  | never

/-- A rule that can be decided. -/
structure RoutingRule where
  provider : String
  priority : Int32
  condition : Condition

namespace StoredRule

/-- The condition that the rule states, none if it makes no sense. -/
def condition? (r : StoredRule) : Option Condition :=
  if r.condition = "model" then (r.param? "model" Json.asString?).map .modelEquals
  else if r.condition = "cost_threshold" then (r.param? "max_cost" Json.asFloat?).map .costAtMost
  else if r.condition = "latency_threshold" then
    (r.param? "max_latency_ms" Json.asFloat?).map fun t => .latencyAtMost (Binary64.truncate t)
  else none

/-- The rule in a form that can be decided. -/
def compile (r : StoredRule) : RoutingRule :=
  ⟨r.provider, r.priority, r.condition?.getD .never⟩

end StoredRule

namespace RoutingRule

/-- Whether the rule matches a request, on the signals of the moment. -/
def holdsFor (s : Signals) (request : ChatRequest) (r : RoutingRule) : Except Fault Bool :=
  match r.condition with
  | .modelEquals model => .ok (request.model == model)
  | .costAtMost maxCost => .ok (s.prices.estimate r.provider request ≤ maxCost)
  | .latencyAtMost maxLatencyMs =>
    (s.latency.average r.provider).map fun d => Float.ofNat d.wholeMillis ≤ maxLatencyMs
  | .predicate test => .ok (test request)
  | .never => .ok false

end RoutingRule

/-- The text that describes a condition. -/
def Condition.describe : Condition → String
  | .modelEquals model => "ModelEquals(" ++ Text.quoted model ++ ")"
  | .costAtMost maxCost =>
    Text.record "CostAtMost" [("max_cost", Decimal.FloatStyle.description.text maxCost)]
  | .latencyAtMost maxLatencyMs =>
    Text.record "LatencyAtMost"
      [("max_latency_ms", Decimal.FloatStyle.description.text maxLatencyMs)]
  | .predicate _ => "Predicate(..)"
  | .never => "Never"

end ChatGateway
