import ChatGateway.Chat.Request
import ChatGateway.Provider
import ChatGateway.Text.Lowercase
import ChatGateway.Text.Search

/-!
# Matching by model

Of the candidates, the first that lists the wanted model up to case; else the first with a model
whose name contains the wanted one or is contained in it; else, for the families that are run
locally, the local provider; else the first of all.
-/

namespace ChatGateway

namespace ModelMatch

open Text

/-- The provider of locally run models. -/
def localProvider : String := "local"

/-- What the names of models that are run locally contain. -/
def localFamilies : List String := ["llama", "mistral", "phi", "codellama", "neural", "orca"]

/-- The models of a provider in lower case. -/
def loweredModels (p : Provider) : List (List Char) := p.models.map lowercase

/-- The provider lists the wanted model. -/
def isExact (wanted : List Char) (p : Provider) : Bool := (loweredModels p).any (· == wanted)

/-- A model of the provider contains the wanted one, or the other way round. -/
def isPartial (wanted : List Char) (p : Provider) : Bool :=
  (loweredModels p).any fun m => occursIn wanted m || occursIn m wanted

/-- The wanted model belongs to a family that is run locally. -/
def isLocalFamily (wanted : List Char) : Bool :=
  localFamilies.any fun k => occursIn k.toList wanted

/-- The pick among `first` and the rest. -/
def select (request : ChatRequest) (first : Provider) (rest : List Provider) : Provider :=
  let wanted := lowercase request.model
  let candidates := first :: rest
  match candidates.find? (isExact wanted) with
  | some p => p
  | none =>
    match candidates.find? (isPartial wanted) with
    | some p => p
    | none =>
      if isLocalFamily wanted then (candidates.find? fun p => p.name = localProvider).getD first
      else first

end ModelMatch

end ChatGateway
