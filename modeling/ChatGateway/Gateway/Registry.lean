import ChatGateway.InsertionMap
import ChatGateway.Provider
import ChatGateway.Text.Listing

/-!
# Registries

A registry holds one provider under each name, in the order in which the names were first
registered. Registering a name again replaces the provider where it stands. The very first
provider that was registered remains the default for ever.
-/

namespace ChatGateway

/-- The registered providers. -/
structure Registry where
  entries : InsertionMap Provider := []
  default? : Option Provider := none
deriving DecidableEq, Repr

namespace Registry

/-- The registry with a provider under its name. -/
def register (r : Registry) (p : Provider) : Registry where
  entries := r.entries.put p.name p
  default? := r.default?.or (some p)

/-- The provider under a name. -/
def get? (r : Registry) (name : String) : Option Provider := r.entries.get? name

/-- The names, in order. -/
def names (r : Registry) : List String := r.entries.names

/-- The providers, in order. -/
def providers (r : Registry) : List Provider := r.entries.values

/-- The number of names. -/
def size (r : Registry) : Nat := r.entries.length

def isEmpty (r : Registry) : Bool := r.entries.isEmpty

/-- The text that describes the registry. -/
def describe (r : Registry) : String :=
  Text.record "ProviderRegistry" [("providers", Text.quotedList r.names),
    ("default", Text.quotedOption (r.default?.map (·.name)))]

end Registry

end ChatGateway
