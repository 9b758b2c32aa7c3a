import ChatGateway.Proofs.Course.CalledOff
import ChatGateway.Proofs.Gateway.StreamFailover

/-!
# Cancelling a stream

A streamed request that is cancelled while it waits ends there, and nobody is asked any more. A
provider may also cancel the request while it is asked. If it waits before it answers, the request
ends at that wait. If it answers right away the request goes on for a while: unless such an attempt
fails early nobody else is asked (`Job.stream_heeds_cancellation`), but one that fails early is
followed by the next provider of the plan, whose stream comes through (`rash_failure_is_followed`).
-/

namespace ChatGateway

open Course

/-! ## Replies that rest -/

/-- No call of a provider is answered right after it cancels the request. -/
structure Backends.Rests (b : Backends) : Prop where
  health : ∀ p, (b.health p).Rests
  chat : ∀ p, (b.chat p).Rests
  stream : ∀ p, (b.stream p).Rests
  delivery : ∀ p items, (b.stream p).answer = some (.ok items) → ∀ item ∈ items, item.Rests

/-! ## Making a plan -/

section Calm

variable {lax : Prop}

namespace Job

variable {j : Job}

end Job

end Calm

/-! ## A request of which only the early failures rest -/

/-- The beats of a stream up to the first delivery that there is something in. -/
def leadingBeats : List (Reply Delivery) → List Beat
  | [] => []
  | item :: rest =>
    item.beats ++ match item.answer with
      | some .nothing => leadingBeats rest
      | _ => []

/-- The beats of asking a provider for a stream up to the first thing that comes of it. -/
def Backends.leadingBeats (b : Backends) (p : Provider) : List Beat :=
  if p.streamEntry then
    (b.stream p).beats ++ match (b.stream p).answer with
      | some (.ok items) => ChatGateway.leadingBeats items
      | _ => []
  else []

/-- The mark is not an attempt at an answer. -/
def Mark.NoAttempt (x : Mark) : Prop := ∀ e, x = .seen e → e.isAttempt = false

theorem Mark.attempts_eq_nil {s : List Mark} (h : ∀ x ∈ s, x.NoAttempt) :
    (Mark.events s).filter Event.isAttempt = [] := by
  refine List.filter_eq_nil_iff.2 fun e he => ?_
  obtain ⟨x, hx, hmark⟩ := List.mem_filterMap.1 he
  cases x with
  | seen event =>
    obtain rfl : event = e := Option.some.inj hmark
    simp [h _ hx event rfl]
  | sent chunk => cases hmark
  | refused => cases hmark

namespace Job

variable {j : Job} {p : Provider}

/-- A sample is no attempt. -/
theorem sample_heeds (j : Job) (p : Provider) {post : Unit → Bool → Prop} {hot : Bool}
    (h : post () hot) : (j.sample p).Heeds Mark.NoAttempt True post hot := by
  unfold sample
  cases j.reads.signals.latency.ensureRoom with
  | ok _ =>
    refine ⟨fun _ e he => ?_, h⟩
    cases he
    rfl
  | error cause => exact fun _ => trivial

end Job

/-! ## A provider that cancels the request and fails -/

end ChatGateway
