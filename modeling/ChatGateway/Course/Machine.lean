import ChatGateway.Course.Basic

/-!
# The machine

A course runs beside the receiver of its chunks. They share a queue of bounded capacity: a chunk
that does not fit makes the course wait until there is room. `Machine.step` does one thing that one
of the parties can do: the course works at its next node, the receiver takes a chunk or goes away,
or the request is cancelled from outside while the course waits. A schedule is a list of such acts,
and `Machine.run` follows it; acts that are not possible at their moment change nothing.
-/

namespace ChatGateway

/-- A course at work, beside its receiver. -/
structure Machine (α : Type) where
  course : Course α
  /-- Whether the course waits at its next node. -/
  waiting : Bool := false
  /-- The chunks that were sent but not yet taken, oldest first. -/
  queue : List StreamChunk := []
  /-- The chunks that were taken, oldest first. -/
  received : List StreamChunk := []
  /-- Whether there is still a receiver. -/
  receiving : Bool := true
  /-- Whether the request is cancelled. -/
  cancelled : Bool := false
  events : List Event := []

/-- Something that one of the parties does. -/
inductive Act where
  | work
  /-- The receiver takes the oldest chunk. -/
  | receive
  /-- The receiver goes away, and the chunks on their way are lost. -/
  | drop
  /-- The request is cancelled from outside. -/
  | cancel
deriving DecidableEq, Repr

/-- Whether a node lets a cancellation through that comes while the course waits there. -/
def Course.isInterruptible {α : Type} : Course α → Bool
  | .ask _ shielded _ => !shielded
  | .pause shielded _ => !shielded
  | .stall shielded => !shielded
  | .send _ _ _ => true
  | _ => false

/-- Whether a course is over. -/
def Course.isOver {α : Type} : Course α → Bool
  | .done _ => true
  | .interrupted => true
  | .fault _ => true
  | _ => false

namespace Machine

variable {α : Type}

/-- The course goes on with another one. -/
def goOn (m : Machine α) (c : Course α) : Machine α := { m with course := c, waiting := false }

/-- A chunk is sent if there is a receiver and room for it. -/
def offer (capacity : Nat) (m : Machine α) (chunk : StreamChunk) (next refused : Course α) :
    Machine α :=
  if m.receiving = false then m.goOn refused
  else if m.queue.length < capacity then
    { m.goOn next with queue := m.queue ++ [chunk] }
  else { m with waiting := true }

/-- The course works at its next node. -/
def work (capacity : Nat) (m : Machine α) : Machine α :=
  if m.waiting && m.cancelled && m.course.isInterruptible then m.goOn .interrupted
  else
    match m.course with
    | .done _ => m
    | .interrupted => m
    | .fault _ => m
    | .emit event next => { m.goOn next with events := m.events ++ [event] }
    | .ask query _ next =>
      if m.waiting then m.goOn next
      else { m with waiting := true, events := m.events ++ [.asked query] }
    | .cancel next => { m.goOn next with cancelled := true }
    | .check next => if m.cancelled then m.goOn .interrupted else m.goOn next
    | .pause _ next => if m.waiting then m.goOn next else { m with waiting := true }
    | .stall _ => { m with waiting := true }
    | .send chunk next refused => m.offer capacity chunk next refused

/-- The receiver takes the oldest chunk, if there is one. -/
def receive (m : Machine α) : Machine α :=
  match m.queue with
  | [] => m
  | chunk :: rest =>
    if m.receiving then { m with queue := rest, received := m.received ++ [chunk] } else m

/-- The receiver goes away. -/
def drop (m : Machine α) : Machine α := { m with receiving := false, queue := [] }

/-- The request is cancelled from outside, while the course waits or after it. -/
def cancel (m : Machine α) : Machine α :=
  if m.waiting || m.course.isOver then { m with cancelled := true } else m

/-- One act. -/
def step (capacity : Nat) (m : Machine α) : Act → Machine α
  | .work => m.work capacity
  | .receive => m.receive
  | .drop => m.drop
  | .cancel => m.cancel

/-- The machine after a schedule. -/
def run (capacity : Nat) (m : Machine α) (schedule : List Act) : Machine α :=
  schedule.foldl (step capacity) m

end Machine

end ChatGateway
