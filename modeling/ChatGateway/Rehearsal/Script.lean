import ChatGateway.Chat.Failure
import ChatGateway.Chat.Request
import ChatGateway.Gateway.Backends

/-!
# Scripts

A gateway can be rehearsed with scripted providers instead of real ones. An actor has a script
for its chats and one for its streams: the first call follows the first line of the script, the
second call the second line, and the last line is followed by all further calls. A line may let
the call wait for a while, cancel the request, or never end.
-/

namespace ChatGateway

/-- The manner in which a call goes before it comes to its outcome. -/
structure Manner where
  /-- How often the call gives way. -/
  yields : Nat := 0
  /-- Whether it then cancels the request. -/
  cancels : Bool := false
  /-- Whether it then never ends. -/
  hangs : Bool := false
deriving DecidableEq, Repr

/-- A call in a manner. -/
def Manner.reply {α : Type} (m : Manner) (a : α) : Reply α where
  beats := List.replicate m.yields .wait ++ if m.cancels then [.cancel] else []
  answer := if m.hangs then none else some a

/-- What a scripted chat comes to. -/
inductive ChatOutcome where
  | failure (error : ProviderError)
  | response (response : ChatResponse)
  /-- A text; what is not given is filled in. -/
  | text (model : Option String) (text : Option String) (usage : Usage)
deriving DecidableEq

/-- What a scripted stream brings next. -/
inductive StreamItem where
  | delta (text : String)
  /-- The last text, with the usage. -/
  | last (text : String) (usage : Usage)
  | chunk (chunk : StreamChunk)
  | failure (error : ProviderError)
  | nothing
deriving DecidableEq, Repr

/-- What asking for a scripted stream comes to. -/
inductive StreamOutcome where
  | failure (error : ProviderError)
  | items (items : List (Manner × StreamItem))
deriving DecidableEq, Repr

/-- What an actor says of its streaming. -/
inductive StreamClaim where
  /-- The truth: it streams if it has a script for that. -/
  | honest
  /-- That it streams, though it has no way to do so. -/
  | empty
  /-- That it does not stream, and it has no way to do so. -/
  | none
deriving DecidableEq, Repr

/-- A scripted provider. -/
structure Actor where
  name : String
  models : List String
  /-- How it is called in the record of events. -/
  label : String
  healthy : Bool := true
  healthManner : Manner := {}
  chats : List (Manner × ChatOutcome) := []
  streams : Option (List (Manner × StreamOutcome)) := none
  claim : StreamClaim := .honest

namespace Actor

/-- What the actor says of itself as a provider. -/
def profile (a : Actor) : Profile where
  name := a.name
  models := a.models
  streaming := match a.claim with
    | .honest => a.streams.isSome
    | .empty => true
    | .none => false
  streamEntry := a.claim = .honest

/-- The line of a script that a call follows, none if the script is empty. -/
def line? {α : Type} (script : List α) (call : Nat) : Option α :=
  script[min call (script.length - 1)]?

/-- What comes of a health check. -/
def health (a : Actor) : Reply (Except ProviderError Unit) :=
  a.healthManner.reply (if a.healthy then .ok () else .error (.unavailable a.name))

/-- The result of a chat. -/
def chatResult (a : Actor) (request : ChatRequest) : ChatOutcome → Except ProviderError ChatResponse
  | .failure e => .error e
  | .response r => .ok r
  | .text model text usage =>
    .ok (.ofText (a.name ++ "-response") (model.getD request.model)
      (text.getD ("Hello from " ++ a.name)) usage)

/-- What comes of a chat, after so many others. -/
def chat (a : Actor) (call : Nat) (request : ChatRequest) :
    Reply (Except ProviderError ChatResponse) :=
  match line? a.chats call with
  | some (manner, outcome) => manner.reply (a.chatResult request outcome)
  | none => .now (a.chatResult request (.text none none {}))

/-- What a stream delivers next. -/
def delivery (a : Actor) : StreamItem → Delivery
  | .delta text => .chunk (.delta (a.name ++ "-stream") text)
  | .last text usage =>
    .chunk { id := a.name ++ "-stream", content := text, done := true, usage := some usage }
  | .chunk c => .chunk c
  | .failure e => .failure e
  | .nothing => .nothing

/-- The result of asking for a stream. -/
def streamResult (a : Actor) : StreamOutcome → Except ProviderError (List (Reply Delivery))
  | .failure e => .error e
  | .items items => .ok (items.map fun item => item.1.reply (a.delivery item.2))

/-- What comes of asking for a stream, after so many others. -/
def stream (a : Actor) (call : Nat) : Reply (Except ProviderError (List (Reply Delivery))) :=
  match line? (a.streams.getD []) call with
  | some (manner, outcome) => manner.reply (a.streamResult outcome)
  | none => .now (.ok [])

end Actor

end ChatGateway
