import ChatGateway.Json.Record
import ChatGateway.Pricing
import ChatGateway.Routing.Rule
import ChatGateway.Routing.StrategyKind

/-!
# Routing configuration

How requests are to be routed, as an operator writes it down. Every key may be left out; a key that
is not known is an error.
-/

namespace ChatGateway

/-- How requests are to be routed. -/
structure RoutingConfig where
  strategy : StrategyKind := .standard
  /-- The number of durations that are kept for each provider. -/
  latencySamples : Nat := 100
  /-- How many chunks may be on their way to the receiver of a stream. -/
  streamBuffer : Nat := 100
  /-- Whether a stream that ends without output is an error. -/
  emptyStreamIsError : Bool := true
  /-- Whether a pick that is not available is tried alone. -/
  strictSelection : Bool := false
  /-- The names that are looked up among a caller's keys. -/
  probes : List String := ["openai", "anthropic", "google"]
  /-- Prices that replace or extend the known ones. -/
  pricing : List PriceEntry := []
  /-- The rules of the strategy by rules. -/
  rules : List StoredRule := []

open Json

namespace PriceEntry

def fieldNames : List String := ["provider", "model", "input_per_mtok", "output_per_mtok"]

def ofJson? (dialect : Dialect) (j : Json) : Option PriceEntry :=
  match Fields.ofJson? dialect fieldNames .refused j with
  | none => none
  | some f =>
    match f.required "provider" asString?, f.required "model" asString?,
      f.required "input_per_mtok" asFloat?, f.required "output_per_mtok" asFloat? with
    | some provider, some model, some input, some output => some ⟨provider, model, input, output⟩
    | _, _, _, _ => none

end PriceEntry

namespace StoredRule

def fieldNames : List String := ["condition", "params", "provider", "priority"]

/-- Parameters are an object of any values that can be read. -/
def paramsOf? : Json → Option (List (String × Json))
  | .obj members => settleMembers members
  | _ => none

def ofJson? (dialect : Dialect) (j : Json) : Option StoredRule :=
  match Fields.ofJson? dialect fieldNames .refused j with
  | none => none
  | some f =>
    match f.required "condition" asString?, f.orElse "params" [] paramsOf?,
      f.required "provider" asString?, f.orElse "priority" 0 asInt32? with
    | some condition, some params, some provider, some priority =>
      some ⟨condition, params, provider, priority⟩
    | _, _, _, _ => none

end StoredRule

namespace RoutingConfig

def fieldNames : List String :=
  ["strategy", "latency_samples", "stream_buffer", "empty_stream_is_error", "strict_selection",
    "byok", "pricing", "rules"]

def asCount? (j : Json) : Option Nat := (asUInt64? j).map UInt64.toNat

/-- The section that lists the names to look up. -/
def probesOf? (dialect : Dialect) (standard : List String) (j : Json) : Option (List String) :=
  match Fields.ofJson? dialect ["providers"] .refused j with
  | none => none
  | some f => f.orElse "providers" standard (asList? asString?)

def ofJson? (dialect : Dialect) (j : Json) : Option RoutingConfig :=
  let standard : RoutingConfig := {}
  match Fields.ofJson? dialect fieldNames .refused j with
  | none => none
  | some f =>
    match f.orElse "strategy" standard.strategy (asName? dialect StrategyKind.ofName?),
      f.orElse "latency_samples" standard.latencySamples asCount?,
      f.orElse "stream_buffer" standard.streamBuffer asCount?,
      f.orElse "empty_stream_is_error" standard.emptyStreamIsError asBool?,
      f.orElse "strict_selection" standard.strictSelection asBool?,
      f.orElse "byok" standard.probes (probesOf? dialect standard.probes),
      f.orElse "pricing" standard.pricing (asList? (PriceEntry.ofJson? dialect)),
      f.orElse "rules" standard.rules (asList? (StoredRule.ofJson? dialect)) with
    | some strategy, some latencySamples, some streamBuffer, some emptyStreamIsError,
      some strictSelection, some probes, some pricing, some rules =>
      some ⟨strategy, latencySamples, streamBuffer, emptyStreamIsError, strictSelection, probes,
        pricing, rules⟩
    | _, _, _, _, _, _, _, _ => none

end RoutingConfig

end ChatGateway
