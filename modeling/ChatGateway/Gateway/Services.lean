import ChatGateway.Provider
import ChatGateway.Routing.Rule
import ChatGateway.Text.Listing

/-!
# Services

What the gateway may consult: a policy, the preferences and the rules of callers, their keys, and
a factory that builds providers from keys. Each service may be missing, and each answer may fail.
-/

namespace ChatGateway

/-- The answer of a service. -/
inductive Answer (α : Type) where
  | value (a : α)
  | failed
deriving DecidableEq, Repr

/-- What the operator decides. -/
structure Policy where
  /-- Whether callers must take the default strategy. -/
  isLocked : Option CallerId → Answer Bool
  /-- The name of the default strategy. -/
  defaultStrategy : Option CallerId → Answer String

/-- The services that the gateway may consult. -/
structure Services where
  policy : Option Policy := none
  /-- The name of the strategy that a caller prefers. -/
  preferences : Option (CallerId → Answer (Option String)) := none
  /-- The rules of a caller. -/
  rules : Option (CallerId → Answer (List StoredRule)) := none
  /-- The key of a caller for the provider with a name. -/
  keys : Option (CallerId → String → Answer (Option String)) := none
  /-- What is built under a name from a credential, if that can be built. -/
  factory : Option (String → String → Option Profile) := none

/-- The text that says which services there are. -/
def Services.describe (s : Services) : String :=
  Text.record "Services" [("policy", Text.truth s.policy.isSome),
    ("preferences", Text.truth s.preferences.isSome), ("rules", Text.truth s.rules.isSome),
    ("keys", Text.truth s.keys.isSome), ("factory", Text.truth s.factory.isSome)]

end ChatGateway
