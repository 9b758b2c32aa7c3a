import ChatGateway.Course.Stretch
import ChatGateway.Rehearsal.Stage

/-!
# Ensembles

The same request made several times at once, with one cancellation for all. The requests take turns
in the order in which they were made: in every round each of them goes on up to its next pause.
What one leaves behind, its calls, its turn of the rotation and its durations, is there for all
that comes after it; so a request looks at the signals when its first turn comes, and a provider
follows the next line of its script whoever calls.
-/

namespace ChatGateway

/-- Where one of several requests stands. -/
inductive Part where
  | unbegun
  /-- The plan is being made. -/
  | planning (job : Job) (plan : Course (Except GatewayError (List Provider)))
  /-- A provider is asked, after some that failed and before the rest. -/
  | trying (job : Job) (attempts : Nat) (provider : Provider) (rest : List Provider)
      (answer : Course (Except ProviderError ChatResponse))
  | over (ending : Ending (Except GatewayError ChatResponse))

namespace Part

def isOver : Part → Bool
  | .over _ => true
  | _ => false

/-- How the request ended. One that never gets to its end waits for ever. -/
def ending : Part → Ending (Except GatewayError ChatResponse)
  | .over ending => ending
  | _ => .stalled

end Part

/-- What requests share that are made at once. -/
structure Ensemble where
  stage : Stage
  /-- Whether the requests are cancelled. -/
  cancelled : Bool

namespace Ensemble

/-- A stretch of a request: it waits with what is left of the course, or goes on with the value of
the course, or is over. -/
def follow {α : Type} (e : Ensemble) (s : Stretch α) (wait : Course α → Part)
    (next : α → Ensemble → Part × Ensemble) : Part × Ensemble :=
  let e : Ensemble := ⟨e.stage.absorb s.events, s.cancelled⟩
  match s.halt with
  | .waiting course => (wait course, e)
  | .over (.finished a) => next a e
  | .over .interrupted => (.over .interrupted, e)
  | .over .stalled => (.over .stalled, e)
  | .over (.faulted cause) => (.over (.faulted cause), e)

/-- The attempts with the providers of a plan, after some that failed, up to the next pause. -/
def attempt (j : Job) (attempts : Nat) (last : Option ProviderError) :
    List Provider → Ensemble → Part × Ensemble
  | [], e => (.over (.finished (.error (.allProvidersFailed attempts (last.getD nobodyTried)))), e)
  | p :: rest, e =>
    if e.cancelled then (.over .interrupted, e)
    else
      let now : Job := { j with backends := e.stage.cast.backends j.request }
      e.follow ((now.tryOne p).proceed e.cancelled []) (.trying j attempts p rest)
        fun result e => match result with
          | .ok response => (.over (.finished (.ok (j.annotate p response))), e)
          | .error error => attempt j (attempts + 1) (some error) rest e

/-- What follows the plan. -/
def begin (j : Job) (plan : Except GatewayError (List Provider)) (e : Ensemble) :
    Part × Ensemble :=
  match plan with
  | .ok candidates => attempt j 0 none candidates e
  | .error error => (.over (.finished (.error error)), e)

/-- The turn of one of the requests for a caller. -/
def turn (e : Ensemble) (caller : Option CallerId) (request : ChatRequest) :
    Part → Part × Ensemble
  | .unbegun =>
    let j := e.stage.job caller request
    e.follow (j.plan.shield.proceed e.cancelled []) (.planning j) (begin j)
  | .planning j plan => e.follow (plan.resume e.cancelled) (.planning j) (begin j)
  | .trying j attempts p rest answer =>
    e.follow (answer.resume e.cancelled) (.trying j attempts p rest)
      fun result e => match result with
        | .ok response => (.over (.finished (.ok (j.annotate p response))), e)
        | .error error => attempt j (attempts + 1) (some error) rest e
  | .over ending => (.over ending, e)

/-- A turn of each of the requests. -/
def round (caller : Option CallerId) (request : ChatRequest) :
    List Part → Ensemble → List Part × Ensemble
  | [], e => ([], e)
  | p :: rest, e =>
    let (p, e) := e.turn caller request p
    let (rest, e) := round caller request rest e
    (p :: rest, e)

/-- Rounds until all requests are over, at most so many. -/
def rounds (caller : Option CallerId) (request : ChatRequest) :
    Nat → List Part → Ensemble → List Part × Ensemble
  | 0, parts, e => (parts, e)
  | limit + 1, parts, e =>
    if parts.all Part.isOver then (parts, e)
    else
      let (parts, e) := round caller request parts e
      rounds caller request limit parts e

end Ensemble

namespace Stage

/-- The pauses of an actor in its health check and in all lines of its script for chats. -/
def pauses (a : Actor) : Nat := a.healthManner.yields + (a.chats.map (·.1.yields)).foldr (· + ·) 0

/-- A number of rounds after which nothing changes any more. A request calls no actor of the gateway
twice for the same thing, and one that is built no more often than there are names to look up; there
is a turn before its first pause, and one after its last in which it may be called off. -/
def patience (s : Stage) : Nat :=
  (s.cast.servers.map fun p => pauses p.actor).foldr (· + ·) 0 +
    s.gateway.settings.probes.length * (s.cast.built.values.map pauses).foldr (· + ·) 0 + 2

/-- A request made so many times at once: how each of them ends. -/
def routeTogether (s : Stage) (caller : Option CallerId) (request : ChatRequest)
    (cancelled : Bool) (count : Nat) :
    List (Ending (Except GatewayError ChatResponse)) × Stage :=
  let (parts, e) := Ensemble.rounds caller request s.patience
    (List.replicate count .unbegun) ⟨s, cancelled⟩
  (parts.map Part.ending, e.stage)

/-- Who answered, or why nobody did. -/
def outcomeName : Ending (Except GatewayError ChatResponse) → String
  | .finished (.ok response) => response.provider.getD ""
  | .finished (.error e) => e.message
  | .interrupted => GatewayError.cancelled.message
  | .stalled => ""
  | .faulted cause => cause.message

/-- How often each outcome came about. -/
def tally (endings : List (Ending (Except GatewayError ChatResponse))) : InsertionMap Nat :=
  endings.foldl
    (fun counts ending =>
      counts.put (outcomeName ending) ((counts.get? (outcomeName ending)).getD 0 + 1)) []

end Stage

end ChatGateway
