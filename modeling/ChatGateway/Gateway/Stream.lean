import ChatGateway.Gateway.Plan

/-!
# Streaming an answer

The chunks of the first provider of the plan that has any to give are passed on as they come. As
long as nothing was passed on a provider that fails is followed by the next one; afterwards its
failure ends the stream. A stream that ends without a last chunk gets an empty one. A first
provider that does not stream is asked for a whole answer, which is passed on as a single chunk.
-/

namespace ChatGateway

/-- How the stream of one provider ended. -/
inductive RelayEnd where
  /-- Well, after so many chunks. -/
  | finished (forwarded : Nat)
  /-- With an error before anything was passed on. -/
  | failedEarly (error : ProviderError)
  /-- With an error after something was passed on. -/
  | failedLate (error : ProviderError)
  /-- Nobody takes the chunks any more. -/
  | abandoned
deriving DecidableEq, Repr

/-- A chunk with the name of the provider that it comes from. -/
def StreamChunk.from (c : StreamChunk) (p : Provider) : StreamChunk :=
  { c with provider := some p.name }

/-- A whole answer as a single chunk. -/
def ChatResponse.asChunk (r : ChatResponse) (p : Provider) : StreamChunk :=
  { id := r.id, content := r.text, done := true, usage := some r.usage, provider := some p.name }

/-- The deliveries of a provider are passed on, after `forwarded` chunks of which the last had the
identifier `lastId`. -/
def relay (p : Provider) (forwarded : Nat) (lastId : String) :
    List (Reply Delivery) → Course RelayEnd
  | [] =>
    if forwarded = 0 then .done (.finished 0)
    else
      .send ((StreamChunk.terminal lastId).from p) (.done (.finished forwarded)) (.done .abandoned)
  | item :: rest => do
    match ← Course.await item with
    | .nothing => relay p forwarded lastId rest
    | .failure e => return if forwarded = 0 then .failedEarly e else .failedLate e
    | .chunk c =>
      .send (c.from p)
        (if c.done then .done (.finished (forwarded + 1)) else relay p (forwarded + 1) c.id rest)
        (.done .abandoned)

namespace Job

/-- The stream of one provider, from asking for it to its end. -/
def relayFrom (j : Job) (p : Provider) : Course RelayEnd := do
  match ← j.backends.callStream p with
  | .error e => return .failedEarly e
  | .ok items => relay p 0 "" items

/-- The streams of the providers of a plan, after some that failed. -/
def streamAttempt (j : Job) (attempts : Nat) (last : Option ProviderError) :
    List Provider → Course (Except GatewayError Unit)
  | [] => .done (match last with
      | some e => .error (.allProvidersFailed attempts e)
      | none => .ok ())
  | p :: rest => do
    let ending ← j.relayFrom p
    j.sample p
    match ending with
    | .finished 0 => return if j.settings.emptyStreamIsError then .error .emptyStream else .ok ()
    | .finished (_ + 1) => return .ok ()
    | .abandoned => return .ok ()
    | .failedLate e => return .error (.streamInterrupted p.name e)
    | .failedEarly e => j.streamAttempt (attempts + 1) (some e) rest

/-- A whole answer passed on as a single chunk. -/
def streamWhole (j : Job) (p : Provider) : Course (Except GatewayError Unit) := do
  match ← j.tryOne p with
  | .error e => return .error (.allProvidersFailed 1 e)
  | .ok response => .send (response.asChunk p) (.done (.ok ())) (.done (.ok ()))

/-- The stream along a plan. A model of a local engine is asked of the first provider only. -/
def streamAlong (j : Job) : List Provider → Course (Except GatewayError Unit)
  | [] => .done (.error .noProvidersRegistered)
  | p :: rest =>
    if p.streaming = false then j.streamWhole p
    else j.streamAttempt 0 none (if j.request.isLocalModel then [p] else p :: rest)

/-- The streamed answer to the request. -/
def stream (j : Job) : Course (Except GatewayError Unit) := .pause false do
  match ← j.plan with
  | .error e => return .error e
  | .ok candidates => j.streamAlong candidates

/-- The largest number of chunks that a channel can have room for: one less than `2 ^ 61`. -/
def largestBuffer : Nat := 0x1FFFFFFFFFFFFFFF

/-- The streamed answer to the request, if a channel can be made for it. -/
def openStream (j : Job) : Except Fault (Course (Except GatewayError Unit)) :=
  if j.settings.bufferCapacity ≤ largestBuffer then .ok j.stream else .error .channelTooLarge

end Job

end ChatGateway
