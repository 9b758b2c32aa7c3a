import ChatGateway.Chat.Response
import ChatGateway.Fault
import ChatGateway.Course.Event
import ChatGateway.Course.Reply

/-!
# Courses

A course is all that a request does, with everything decided except for what the world around it
may do: cancel the request while the course waits, take chunks from its channel, or drop the
channel. Waiting is interruptible unless it is shielded: a course that is cancelled while it waits
stops there. A course gives way where it pauses; where it asks a service it waits only for the
answer. `Course.bind` lets one course follow another.
-/

namespace ChatGateway

/-- All that a request does. -/
inductive Course (α : Type) where
  | done (value : α)
  /-- The course was called off. -/
  | interrupted
  | fault (cause : Fault)
  | emit (event : Event) (next : Course α)
  /-- A service is asked, and the course waits for its answer. -/
  | ask (query : Query) (shielded : Bool) (next : Course α)
  /-- The request is cancelled from inside. -/
  | cancel (next : Course α)
  /-- The course stops here if the request is cancelled. -/
  | check (next : Course α)
  /-- The course gives way once. -/
  | pause (shielded : Bool) (next : Course α)
  /-- The course waits for ever. -/
  | stall (shielded : Bool)
  /-- A chunk goes to the channel, or is refused if nobody will take it. -/
  | send (chunk : StreamChunk) (next refused : Course α)

namespace Course

variable {α β : Type}

/-- One course after the other. -/
def bind : Course α → (α → Course β) → Course β
  | .done a, f => f a
  | .interrupted, _ => .interrupted
  | .fault cause, _ => .fault cause
  | .emit event next, f => .emit event (next.bind f)
  | .ask query shielded next, f => .ask query shielded (next.bind f)
  | .cancel next, f => .cancel (next.bind f)
  | .check next, f => .check (next.bind f)
  | .pause shielded next, f => .pause shielded (next.bind f)
  | .stall shielded, _ => .stall shielded
  | .send chunk next refused, f => .send chunk (next.bind f) (refused.bind f)

instance : Monad Course where
  pure := .done
  bind := bind

/-- A single event. -/
def record (event : Event) : Course Unit := .emit event (.done ())

/-- A list of events. -/
def recordAll (events : List Event) : Course Unit := events.foldr .emit (.done ())

/-- A course that waits for a reply. -/
def await (r : Reply α) : Course α :=
  r.beats.foldr
    (fun beat next => match beat with
      | .wait => .pause false next
      | .cancel => .cancel next)
    (match r.answer with
      | some a => .done a
      | none => .stall false)

/-- The answer of a service to a question. -/
def consult (query : Query) (answer : α) : Course α := .ask query false (.done answer)

/-- A result, or the fault in place of it. -/
def ofExcept : Except Fault α → Course α
  | .ok a => .done a
  | .error cause => .fault cause

/-- The course with its waits shielded. -/
def shield : Course α → Course α
  | .done a => .done a
  | .interrupted => .interrupted
  | .fault cause => .fault cause
  | .emit event next => .emit event next.shield
  | .ask query _ next => .ask query true next.shield
  | .cancel next => .cancel next.shield
  | .check next => .check next.shield
  | .pause _ next => .pause true next.shield
  | .stall _ => .stall true
  | .send chunk next refused => .send chunk next.shield refused.shield

end Course

end ChatGateway
