/-!
# Replies

What comes of a call: a sequence of beats, in each of which the call either waits or cancels the
request that it serves, and then an answer, unless the call never ends. Calls that are made side
by side go on together: what they do between two waits happens before any of them goes on
(`Reply.join`).
-/

namespace ChatGateway

/-- What a call does before it answers. -/
inductive Beat where
  /-- It gives way. -/
  | wait
  /-- It cancels the request. -/
  | cancel
deriving DecidableEq, Repr

/-- What comes of a call. -/
structure Reply (α : Type) where
  beats : List Beat := []
  /-- The answer, none if the call never ends. -/
  answer : Option α
deriving DecidableEq, Repr

namespace Reply

variable {α : Type}

/-- An answer at once. -/
def now (a : α) : Reply α := ⟨[], some a⟩

/-- The beats of two calls side by side: whatever the second does before its next wait comes before
the next wait of both. -/
def mergeBeats : List Beat → List Beat → List Beat
  | [], bs => bs
  | .cancel :: as, bs => .cancel :: mergeBeats as bs
  | .wait :: as, bs =>
    bs.takeWhile (· = .cancel) ++ .wait :: mergeBeats as ((bs.dropWhile (· = .cancel)).drop 1)

/-- All answers of calls side by side. -/
def join : List (Reply α) → Reply (List α)
  | [] => now []
  | r :: rest =>
    { beats := mergeBeats r.beats (join rest).beats
      answer :=
        match r.answer, (join rest).answer with
        | some a, some as => some (a :: as)
        | _, _ => none }

end Reply

end ChatGateway
