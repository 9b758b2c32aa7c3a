import ChatGateway.Course.Machine

/-!
# Driving a course to its end

`Course.drive` runs a course with a receiver that follows a simple plan: it takes every chunk that
there is whenever the course waits, until it has had as many as it wants, and then it goes away or
cancels the request. The outcome says how the course ended and what was seen of it.
-/

namespace ChatGateway

/-- What a receiver does when it has had enough chunks. -/
inductive LastAct where
  | drop
  /-- It cancels the request, and takes what is still to come. -/
  | cancel
deriving DecidableEq, Repr

/-- The plan of a receiver: how many chunks it wants before its last act, none for a receiver that
takes everything. -/
structure Receiver where
  quota : Option (Nat × LastAct) := none
deriving DecidableEq, Repr

/-- The outside of a running course. -/
structure Channel where
  receiver : Receiver := {}
  queue : List StreamChunk := []
  received : List StreamChunk := []
  receiving : Bool := true
  cancelled : Bool := false
  events : List Event := []

/-- How a course ends. -/
inductive Ending (α : Type) where
  | finished (value : α)
  /-- It was called off. -/
  | interrupted
  /-- It waits for ever. -/
  | stalled
  | faulted (cause : Fault)

namespace Channel

/-- One more event. -/
def see (c : Channel) (event : Event) : Channel := { c with events := c.events ++ [event] }

/-- The receiver takes what there is. -/
def takeAll (c : Channel) : Channel := { c with queue := [], received := c.received ++ c.queue }

/-- The receiver acts: it takes what it still wants, and does its last act when it has that. -/
def act (c : Channel) : Channel :=
  match c.receiver.quota with
  | none => c.takeAll
  | some (wanted, last) =>
    if wanted ≤ c.received.length + c.queue.length then
      let taken := c.received ++ c.queue.take (wanted - c.received.length)
      match last with
      | .drop =>
        { c with receiver := {}, queue := [], received := taken, receiving := false }
      | .cancel =>
        { c.takeAll with receiver := {}, cancelled := true }
    else c.takeAll

end Channel

namespace Course

variable {α : Type}

/-- The course run to its end beside a receiver. -/
def drive (capacity : Nat) (c : Channel) : Course α → Ending α × Channel
  | .done a => (.finished a, c.act)
  | .interrupted => (.interrupted, c.act)
  | .fault cause => (.faulted cause, c.act)
  | .emit event next => next.drive capacity (c.see event)
  | .ask query shielded next =>
    if (c.see (.asked query)).act.cancelled && !shielded then
      (.interrupted, (c.see (.asked query)).act.act)
    else next.drive capacity (c.see (.asked query)).act
  | .cancel next => next.drive capacity { c with cancelled := true }
  | .check next => if c.cancelled then (.interrupted, c.act) else next.drive capacity c
  | .pause shielded next =>
    if c.act.cancelled && !shielded then (.interrupted, c.act.act)
    else next.drive capacity c.act
  | .stall shielded =>
    if c.act.cancelled && !shielded then (.interrupted, c.act.act) else (.stalled, c.act)
  | .send chunk next refused =>
    if c.receiving = false then refused.drive capacity c
    else if c.queue.length < capacity then
      next.drive capacity { c with queue := c.queue ++ [chunk] }
    else if c.act.cancelled then (.interrupted, c.act.act)
    else if c.act.receiving = false then refused.drive capacity c.act
    else if c.act.queue.length < capacity then
      next.drive capacity { c.act with queue := c.act.queue ++ [chunk] }
    else (.stalled, c.act)

end Course

end ChatGateway
