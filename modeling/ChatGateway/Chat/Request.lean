import ChatGateway.Chat.Message

/-!
# Requests

What a caller asks: a model and a conversation to go on with. `ChatRequest.textLength` is the
measure that cost estimates rest on.
-/

namespace ChatGateway

/-- A request for a completion. -/
structure ChatRequest where
  model : String
  messages : List Message
  temperature : Option Float := none
  maxTokens : Option UInt32 := none
deriving DecidableEq

namespace ChatRequest

/-- The number of characters of text in all messages. -/
def textLength (r : ChatRequest) : Nat :=
  (r.messages.map fun m => m.content.textLength).foldr (· + ·) 0

/-- Whether the model is named with a tag, as models of a local engine are. -/
def isLocalModel (r : ChatRequest) : Bool := r.model.toList.contains ':'

end ChatRequest

end ChatGateway
