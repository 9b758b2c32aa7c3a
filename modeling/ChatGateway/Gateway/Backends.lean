import ChatGateway.Chat.Failure
import ChatGateway.Chat.Response
import ChatGateway.Latency.Duration
import ChatGateway.Provider
import ChatGateway.Course.Basic

/-!
# Backends

How the providers behave towards one request: what comes of a health check, of a chat, and of
asking for a stream. A provider without a stream entry of its own refuses to stream.
-/

namespace ChatGateway

/-- What a stream brings next. -/
inductive Delivery where
  | chunk (chunk : StreamChunk)
  | failure (error : ProviderError)
  | nothing
deriving DecidableEq, Repr

/-- The behaviour of all providers towards one request. -/
structure Backends where
  health : Provider → Reply (Except ProviderError Unit)
  chat : Provider → Reply (Except ProviderError ChatResponse)
  /-- The deliveries of a stream, each at its time. -/
  stream : Provider → Reply (Except ProviderError (List (Reply Delivery)))
  /-- How long an attempt is measured to take. -/
  elapsed : Provider → Duration

namespace Backends

/-- A chat is begun and awaited. -/
def callChat (b : Backends) (p : Provider) : Course (Except ProviderError ChatResponse) :=
  .emit (.called (.chat p)) (.await (b.chat p))

/-- A stream is asked for and awaited. -/
def callStream (b : Backends) (p : Provider) :
    Course (Except ProviderError (List (Reply Delivery))) :=
  .emit (.called (.stream p))
    (if p.streamEntry then .await (b.stream p)
      else .done (.error (.streamingUnsupported p.name)))

/-- The providers that are healthy, in order. All are checked side by side. -/
def healthy (b : Backends) (ps : List Provider) : Course (List Provider) := do
  Course.recordAll (ps.map fun p => .called (.health p))
  let checks ← Course.await (Reply.join (ps.map b.health))
  return ((ps.zip checks).filter fun pc => pc.2.isOk).map (·.1)

end Backends

end ChatGateway
