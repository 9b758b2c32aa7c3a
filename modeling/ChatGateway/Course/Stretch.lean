import ChatGateway.Course.Drive

/-!
# Stretches of a course

Courses that go on side by side take turns. A turn is a stretch of the course from one pause to the
next: `Course.proceed` begins a course, and `Course.resume` goes on where it gave way. A course
that was cancelled meanwhile goes no further, unless its wait is shielded. Nobody takes the chunks
of such a course.
-/

namespace ChatGateway

/-- Where a stretch of a course stops. -/
inductive Halt (α : Type) where
  | over (ending : Ending α)
  /-- The course gives way. -/
  | waiting (course : Course α)

/-- A stretch of a course. -/
structure Stretch (α : Type) where
  halt : Halt α
  /-- Whether the request is cancelled at its end. -/
  cancelled : Bool
  /-- What happened, oldest first. -/
  events : List Event

namespace Course

variable {α : Type}

/-- The course goes on after some events, up to its next pause. -/
def proceed (cancelled : Bool) (events : List Event) : Course α → Stretch α
  | .done a => ⟨.over (.finished a), cancelled, events⟩
  | .interrupted => ⟨.over .interrupted, cancelled, events⟩
  | .fault cause => ⟨.over (.faulted cause), cancelled, events⟩
  | .emit event next => next.proceed cancelled (events ++ [event])
  | .ask query _ next => next.proceed cancelled (events ++ [.asked query])
  | .cancel next => next.proceed true events
  | .check next =>
    if cancelled then ⟨.over .interrupted, cancelled, events⟩ else next.proceed cancelled events
  | .pause shielded next => ⟨.waiting (.pause shielded next), cancelled, events⟩
  | .stall shielded => ⟨.waiting (.stall shielded), cancelled, events⟩
  | .send _ _ refused => refused.proceed cancelled events

/-- The course goes on after a pause. -/
def resume (cancelled : Bool) : Course α → Stretch α
  | .pause shielded next =>
    if cancelled && !shielded then ⟨.over .interrupted, cancelled, []⟩
    else next.proceed cancelled []
  | .stall shielded =>
    if cancelled && !shielded then ⟨.over .interrupted, cancelled, []⟩
    else ⟨.waiting (.stall shielded), cancelled, []⟩
  | course => course.proceed cancelled []

end Course

end ChatGateway
