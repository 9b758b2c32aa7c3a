import ChatGateway.InsertionMap
import ChatGateway.Rehearsal.Script

/-!
# Casts

The actors of a rehearsal: those registered with the gateway, with the number of calls that each
has had, and those that the factory builds, which are new every time. `Cast.backends` is how they
behave towards the next request, and `Cast.absorb` counts the calls of a request.
-/

namespace ChatGateway

/-- An actor with the numbers of its calls so far. -/
structure Player where
  actor : Actor
  chats : Nat := 0
  streams : Nat := 0

/-- The actors of a rehearsal. -/
structure Cast where
  /-- The actors of the gateway, in the order in which they were registered. -/
  servers : List Player := []
  /-- The actors that are built, by the names under which they are built. -/
  built : InsertionMap Actor := []

namespace Cast

/-- The cast with one more actor for the gateway, and the provider that it plays. -/
def enlist (c : Cast) (a : Actor) : Provider × Cast :=
  (⟨a.profile, .server c.servers.length⟩, { c with servers := c.servers ++ [⟨a, 0, 0⟩] })

/-- Who plays a provider. -/
def player? (c : Cast) (p : Provider) : Option Player :=
  match p.origin with
  | .server serial => c.servers[serial]?
  | .built name _ _ => (c.built.get? name).map fun a => ⟨a, 0, 0⟩

/-- The factory that builds the actors. -/
def factory (c : Cast) (name _credential : String) : Option Profile :=
  (c.built.get? name).map Actor.profile

/-- How the actors behave towards a request. -/
def backends (c : Cast) (request : ChatRequest) : Backends where
  health p :=
    match c.player? p with
    | some player => player.actor.health
    | none => .now (.error (.unavailable p.name))
  chat p :=
    match c.player? p with
    | some player => player.actor.chat player.chats request
    | none => .now (.error (.unavailable p.name))
  stream p :=
    match c.player? p with
    | some player => player.actor.stream player.streams
    | none => .now (.error (.unavailable p.name))
  elapsed _ := .zero

/-- The cast after one event. -/
def absorbOne (c : Cast) : Event → Cast
  | .called (.chat ⟨_, .server serial⟩) =>
    { c with servers := c.servers.modify serial fun p => { p with chats := p.chats + 1 } }
  | .called (.stream ⟨_, .server serial⟩) =>
    { c with servers := c.servers.modify serial fun p => { p with streams := p.streams + 1 } }
  | _ => c

/-- The cast after the events of a request. -/
def absorb (c : Cast) (events : List Event) : Cast := events.foldl absorbOne c

/-- The cast with the health of a provider set. -/
def setHealth (c : Cast) (p : Provider) (healthy : Bool) : Cast :=
  match p.origin with
  | .server serial =>
    { c with servers := c.servers.modify serial fun p =>
        { p with actor := { p.actor with healthy } } }
  | .built _ _ _ => c

/-- How a provider is called in the record of events. -/
def label (c : Cast) (p : Provider) : String :=
  let label := match c.player? p with
    | some player => player.actor.label
    | none => p.name
  match p.origin with
  | .server _ => label
  | .built _ _ _ => "own/" ++ label

/-- The text of a question to a service. -/
def queryLine : Query → String
  | .isLocked => "is_locked"
  | .defaultStrategy => "default_strategy"
  | .preference caller => "preference " ++ toString caller.number
  | .rules caller => "rules " ++ toString caller.number
  | .key caller provider => "key " ++ toString caller.number ++ " " ++ provider

/-- The line of an event in the record, none for what leaves no line. A provider that has no way to
stream does not notice that it is asked to. -/
def eventLine? (c : Cast) : Event → Option String
  | .asked query => some (queryLine query)
  | .called (.build name credential) => some ("build " ++ name ++ " " ++ credential)
  | .called (.health p) => some ("health " ++ c.label p)
  | .called (.chat p) => some ("chat " ++ c.label p)
  | .called (.stream p) => if p.streamEntry then some ("stream " ++ c.label p) else none
  | .turned => none
  | .sampled _ _ => none

end Cast

end ChatGateway
