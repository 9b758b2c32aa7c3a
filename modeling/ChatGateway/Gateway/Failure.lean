import ChatGateway.Chat.Failure
import ChatGateway.Routing.Strategy

/-!
# Failures of the gateway

Why a request is not answered, and how each reason reads.
-/

namespace ChatGateway

/-- Why the gateway does not answer. -/
inductive GatewayError where
  | noProvidersRegistered
  | selection (cause : SelectionError)
  /-- Every provider that was tried failed, the last one with this error. -/
  | allProvidersFailed (attempts : Nat) (source : ProviderError)
  /-- A stream broke after a part of it had been passed on. -/
  | streamInterrupted (provider : String) (source : ProviderError)
  | providerNotFound (provider : String)
  | emptyStream
  | cancelled
deriving DecidableEq, Repr

namespace GatewayError

/-- The text of the error. -/
def message : GatewayError → String
  | .noProvidersRegistered => "no providers registered"
  | .selection cause => "failed to select provider: " ++ cause.message
  | .allProvidersFailed attempts source =>
    "all providers failed after " ++ toString attempts ++ " attempt(s), last error: " ++
      source.message
  | .streamInterrupted provider source =>
    "stream from " ++ provider ++ " failed mid-response: " ++ source.message
  | .providerNotFound provider => "provider not found: " ++ provider
  | .emptyStream => "stream ended without producing any output"
  | .cancelled => "request cancelled"

/-- The text of what is behind the error. -/
def causeMessage? : GatewayError → Option String
  | .selection cause => some cause.message
  | .allProvidersFailed _ source => some source.message
  | .streamInterrupted _ source => some source.message
  | _ => none

end GatewayError

end ChatGateway
