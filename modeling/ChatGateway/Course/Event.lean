import ChatGateway.Latency.Duration
import ChatGateway.Provider

/-!
# Events

What can be seen of a request from outside while it is worked on: questions to the services, calls
of providers, and what the request leaves behind in the rotation and the latency history.
-/

namespace ChatGateway

/-- A question to a service. -/
inductive Query where
  | isLocked
  | defaultStrategy
  | preference (caller : CallerId)
  | rules (caller : CallerId)
  | key (caller : CallerId) (provider : String)
deriving DecidableEq, Repr

/-- A call of a provider, or of the factory that builds providers. -/
inductive Call where
  | build (provider credential : String)
  | health (provider : Provider)
  | chat (provider : Provider)
  | stream (provider : Provider)
deriving DecidableEq, Repr

/-- Something that happens in the course of a request. -/
inductive Event where
  | asked (query : Query)
  /-- A call is begun. -/
  | called (call : Call)
  /-- A turn of the rotation is used up. -/
  | turned
  /-- The duration of an attempt is recorded under a name. -/
  | sampled (provider : String) (elapsed : Duration)
deriving DecidableEq, Repr

/-- Whether a call asks a provider to answer the request. -/
def Call.isAttempt : Call → Bool
  | .chat _ => true
  | .stream _ => true
  | _ => false

end ChatGateway
