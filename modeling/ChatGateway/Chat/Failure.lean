/-!
# Failures of providers

What can go wrong in a call to a provider, and how each failure reads.
-/

namespace ChatGateway

/-- Why a provider did not answer. -/
inductive ProviderError where
  /-- The provider answered with an error. -/
  | remote (text : String)
  /-- The provider cannot be reached or refuses to serve. -/
  | unavailable (provider : String)
  /-- The provider does not stream. -/
  | streamingUnsupported (provider : String)
  /-- A stream broke. -/
  | streaming (text : String)
  /-- The request makes no sense to the provider. -/
  | invalidRequest (text : String)
  /-- The request was cancelled. -/
  | cancelled
  /-- Anything else. -/
  | internal (text : String)
deriving DecidableEq, Repr

/-- The text of the failure. -/
def ProviderError.message : ProviderError → String
  | .remote text => "upstream error: " ++ text
  | .unavailable provider => "provider unavailable: " ++ provider
  | .streamingUnsupported provider => "provider does not support streaming: " ++ provider
  | .streaming text => "streaming error: " ++ text
  | .invalidRequest text => "invalid request: " ++ text
  | .cancelled => "request cancelled"
  | .internal text => "internal error: " ++ text

end ChatGateway
