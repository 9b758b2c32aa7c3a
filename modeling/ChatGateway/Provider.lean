/-!
# Providers

A provider is known by a name, serves a list of models, and says whether it streams. Several
instances may share a name; they differ in their origin.
-/

namespace ChatGateway

/-- Whose requests are routed: a 128-bit number. -/
structure CallerId where
  number : Nat
deriving DecidableEq, Repr

/-- Where an instance comes from. -/
inductive Origin where
  /-- Registered with the gateway, in that order. -/
  | server (serial : Nat)
  /-- Built under a name for a caller from a credential, in that order. -/
  | built (name credential : String) (serial : Nat)
deriving DecidableEq, Repr

/-- What a provider says of itself. -/
structure Profile where
  name : String
  models : List String
  /-- Whether it says that it streams. -/
  streaming : Bool := false
  /-- Whether there is a way of its own to call it for a stream. -/
  streamEntry : Bool := false
deriving DecidableEq, Repr

/-- An instance of a provider. -/
structure Provider extends Profile where
  origin : Origin
deriving DecidableEq, Repr

/-- Whether a provider lists the model, letter for letter. -/
def Provider.serves (p : Provider) (model : String) : Bool := p.models.contains model

end ChatGateway
