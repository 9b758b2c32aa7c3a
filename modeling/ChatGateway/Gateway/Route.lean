import ChatGateway.Gateway.Plan

/-!
# Routing a request

The providers of the plan are tried one after the other until one answers. A cancelled request
begins no further attempt, and an attempt that waits when the request is cancelled is given up;
the making of the plan is not interrupted.
-/

namespace ChatGateway

/-- A length of time in whole milliseconds, at most the largest 64-bit number. -/
def Duration.millis (d : Duration) : UInt64 :=
  UInt64.ofNat (min d.wholeMillis 0xFFFFFFFFFFFFFFFF)

/-- What stands for the last error when nobody was tried. -/
def nobodyTried : ProviderError := .unavailable "none"

namespace Job

/-- The response of a provider with what the gateway adds: the name of the provider, the time it
took, and the cost of the tokens if there are any. -/
def annotate (j : Job) (p : Provider) (response : ChatResponse) : ChatResponse :=
  { response with
    provider := some p.name
    latencyMs := some (j.backends.elapsed p).millis
    cost :=
      if 0 < response.usage.totalTokens then
        some (j.reads.billing.actual p.name response.model response.usage)
      else response.cost }

/-- The attempts with the providers of a plan, after some that failed. -/
def attempt (j : Job) (attempts : Nat) (last : Option ProviderError) :
    List Provider → Course (Except GatewayError ChatResponse)
  | [] => .done (.error (.allProvidersFailed attempts (last.getD nobodyTried)))
  | p :: rest => .check do
    match ← j.tryOne p with
    | .ok response => return .ok (j.annotate p response)
    | .error e => j.attempt (attempts + 1) (some e) rest

/-- The answer to the request. -/
def route (j : Job) : Course (Except GatewayError ChatResponse) := do
  match ← j.plan.shield with
  | .error e => return .error e
  | .ok candidates => j.attempt 0 none candidates

end Job

end ChatGateway
