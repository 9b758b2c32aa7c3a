import ChatGateway.Proofs.Course.Following
import ChatGateway.Proofs.Course.Guarantee

/-!
# Courses without their questions

`Course.unasked` leaves the questions to the services out of a course. It passes through `>>=`, and
it leaves out nothing else: neither what is sent nor how the course ends (`output_unasked`,
`outcome_unasked`), and of what happens only the questions (`trace_unasked`). When two courses are
the same without their questions, every run of the one tracks the other (`Machine.Tracks`).
-/

namespace ChatGateway

/-- Whether an event is a question to a service. -/
def Event.isQuestion : Event → Bool
  | .asked _ => true
  | _ => false

@[simp] theorem Event.isQuestion_asked (query : Query) : (Event.asked query).isQuestion = true :=
  rfl

namespace Course

variable {α β : Type}

/-- The course with its questions to the services left out. -/
def unasked : Course α → Course α
  | .done a => .done a
  | .interrupted => .interrupted
  | .fault cause => .fault cause
  | .emit event next => .emit event next.unasked
  | .ask _ _ next => next.unasked
  | .cancel next => .cancel next.unasked
  | .check next => .check next.unasked
  | .pause shielded next => .pause shielded next.unasked
  | .stall shielded => .stall shielded
  | .send chunk next refused => .send chunk next.unasked refused.unasked

theorem unasked_bind (c : Course α) (f : α → Course β) :
    (c >>= f).unasked = c.unasked >>= fun a => (f a).unasked := by
  change (c.bind f).unasked = c.unasked.bind fun a => (f a).unasked
  induction c with
  | done a => rfl
  | interrupted => rfl
  | fault cause => rfl
  | emit event next ih => exact congrArg _ ih
  | ask query shielded next ih => exact ih
  | cancel next ih => exact congrArg _ ih
  | check next ih => exact congrArg _ ih
  | pause shielded next ih => exact congrArg _ ih
  | stall shielded => rfl
  | send chunk next refused ih ih' => simp [Course.bind, unasked, ih, ih']

theorem unasked_bind_congr {c c' : Course α} {f f' : α → Course β} (hc : c.unasked = c'.unasked)
    (hf : ∀ a, (f a).unasked = (f' a).unasked) : (c >>= f).unasked = (c' >>= f').unasked := by
  rw [unasked_bind, unasked_bind, hc, funext hf]

@[simp] theorem unasked_shield (c : Course α) : c.shield.unasked = c.unasked.shield := by
  induction c <;> simp_all [shield, unasked]

@[simp] theorem outcome_unasked (c : Course α) : c.unasked.outcome = c.outcome := by
  induction c <;> simp_all [unasked]

theorem outcome_eq_of_unasked_eq {c c' : Course α} (h : c.unasked = c'.unasked) :
    c.outcome = c'.outcome := by
  rw [← outcome_unasked c, h, outcome_unasked]

@[simp] theorem output_unasked (c : Course α) : c.unasked.output = c.output := by
  unfold output
  induction c <;> simp_all [unasked]

theorem trace_unasked (c : Course α) :
    c.unasked.trace.filter (!·.isQuestion) = c.trace.filter (!·.isQuestion) := by
  unfold trace
  induction c with
  | emit event next ih => simp [unasked, List.filter_cons, ih]
  | ask query shielded next ih => simp [unasked, ih]
  | _ => simp_all [unasked]

end Course

namespace Machine

variable {α : Type}

/-- All that a machine does is done by a course as well, but for questions; and unless it is called
off it ends as the course does. -/
structure Tracks (m : Machine α) (c : Course α) : Prop where
  events : m.events.filter (!·.isQuestion) <+: c.trace.filter (!·.isQuestion)
  received : m.received <+: c.output
  ended : ∀ e, m.course.ending? = some e → c.outcome = e ∨ e = .interrupted ∧ m.cancelled = true

variable {c d : Course α} (hcd : c.unasked = d.unasked) (capacity : Nat) (cancelled : Bool)
  {schedule : List Act}
include hcd

theorem tracks_of_follows {h : List Mark}
    (hf : ((start c cancelled).run capacity schedule).Follows c h) :
    ((start c cancelled).run capacity schedule).Tracks d := by
  refine ⟨?_, ?_, fun e he => ?_⟩
  · have hprefix : ((start c cancelled).run capacity schedule).events <+: c.trace := by
      rw [hf.bears.events_eq]
      exact hf.log_prefix.filterMap _
    rw [← Course.trace_unasked d, ← hcd, Course.trace_unasked]
    exact hprefix.filter _
  · rw [← Course.output_unasked d, ← hcd, Course.output_unasked]
    exact received_prefix_output capacity c cancelled schedule
  · exact (hf.ended e he).imp_left fun ho => (Course.outcome_eq_of_unasked_eq hcd) ▸ ho.1

/-- As long as the receiver stays, a run tracks every course that is the same without questions. -/
theorem run_tracks (hd : Act.drop ∉ schedule) :
    ((start c cancelled).run capacity schedule).Tracks d := by
  obtain ⟨h, hf⟩ := run_follows capacity c cancelled hd
  exact tracks_of_follows hcd capacity cancelled hf

theorem run_tracks_of_quiet (hc : c.Quiet) :
    ((start c cancelled).run capacity schedule).Tracks d := by
  obtain ⟨h, hf⟩ := run_follows_of_quiet capacity hc cancelled schedule
  exact tracks_of_follows hcd capacity cancelled hf

end Machine

/-- A value that is never come to after a refusal is the value of the undisturbed run. -/
theorem Machine.outcome_of_done {α : Type} {c : Course α} {ok : α → Prop}
    (hc : c.Ensures (fun _ _ => True) (fun a h => ok a → Mark.refused ∉ h) []) {capacity : Nat}
    {cancelled : Bool} {schedule : List Act} {a : α}
    (ha : ((start c cancelled).run capacity schedule).course = .done a) (hok : ok a) :
    c.outcome = .finished a := by
  obtain ⟨h, d, ht, -, hm⟩ := run_trail capacity c cancelled schedule
  rcases hm with rfl | ⟨hi, -, -⟩
  · rw [rest_of_not_ask ha (by simp)] at ht
    exact (ht.log (ht.ensures hc hok)).2
  · rw [ha] at hi
    cases hi

end ChatGateway
