import ChatGateway.Gateway.State
import ChatGateway.Rehearsal.Cast

/-!
# Stages

A gateway together with the actors that play its providers. Requests are run to their end one
after the other, and what each leaves behind goes back into the gateway and the cast.
-/

namespace ChatGateway

/-- A gateway and those who play its providers. -/
structure Stage where
  gateway : Gateway
  cast : Cast

/-- What comes of a request on the stage. -/
structure Performance (α : Type) where
  ending : Ending α
  channel : Channel
  /-- The stage afterwards. -/
  stage : Stage

/-- What happened, oldest first. -/
def Performance.events {α : Type} (p : Performance α) : List Event := p.channel.events

namespace Stage

/-- The stage after some events. -/
def absorb (s : Stage) (events : List Event) : Stage :=
  ⟨s.gateway.absorb events, s.cast.absorb events⟩

/-- A course run to its end on the stage. -/
def perform {α : Type} (s : Stage) (capacity : Nat) (c : Channel) (course : Course α) :
    Performance α :=
  let (ending, channel) := course.drive capacity c
  ⟨ending, channel, s.absorb channel.events⟩

/-- The stage with one more actor registered with the gateway. -/
def register (s : Stage) (a : Actor) : Stage :=
  let (p, cast) := s.cast.enlist a
  ⟨s.gateway.register p, cast⟩

/-- A request to the gateway. -/
def job (s : Stage) (caller : Option CallerId) (request : ChatRequest) : Job :=
  s.gateway.job (s.cast.backends request) caller request

/-- A request that is answered at once. -/
def route (s : Stage) (caller : Option CallerId) (request : ChatRequest) (cancelled : Bool) :
    Performance (Except GatewayError ChatResponse) :=
  s.perform 1 { cancelled := cancelled } (s.job caller request).route

/-- A request whose answer is streamed to a receiver, if a channel can be made for it. -/
def stream (s : Stage) (caller : Option CallerId) (request : ChatRequest) (receiver : Receiver)
    (cancelled : Bool) : Except Fault (Performance (Except GatewayError Unit)) :=
  (s.job caller request).openStream.map
    (s.perform s.gateway.settings.bufferCapacity { receiver := receiver, cancelled := cancelled })

/-- The providers with samples, and the number of their samples. -/
def samples (s : Stage) : List (String × Nat) :=
  let latency := s.gateway.signals.latency
  latency.providers.map fun name => (name, latency.count name)

end Stage

end ChatGateway
