import ChatGateway.Course.Drive
import ChatGateway.Proofs.Course.Trail

/-!
# The undisturbed course

Nothing that happens around a course changes where it goes, as long as its chunks are taken: a
cancellation can only cut it short. So a course has one sequence of marks (`Course.log`) and one
ending (`Course.outcome`), those of an undisturbed run. Both are computed along the structure of a
course (`log_bind`, `outcome_bind`), and every trail keeps to them until a chunk is refused
(`Trail.log`). A course that sends nothing is `Quiet`; it has none to be refused.
-/

namespace ChatGateway

/-- The ending of a course that goes on from the value of another one. -/
def Ending.andThen {α β : Type} : Ending α → (α → Ending β) → Ending β
  | .finished a, f => f a
  | .interrupted, _ => .interrupted
  | .stalled, _ => .stalled
  | .faulted cause, _ => .faulted cause

namespace Course

variable {α β : Type}

/-- The marks of an undisturbed run. -/
@[simp] def log : Course α → List Mark
  | .done _ => []
  | .interrupted => []
  | .fault _ => []
  | .emit event next => .seen event :: next.log
  | .ask query _ next => .seen (.asked query) :: next.log
  | .cancel next => next.log
  | .check next => next.log
  | .pause _ next => next.log
  | .stall _ => []
  | .send chunk next _ => .sent chunk :: next.log

/-- The ending of an undisturbed run. -/
@[simp] def outcome : Course α → Ending α
  | .done a => .finished a
  | .interrupted => .interrupted
  | .fault cause => .faulted cause
  | .emit _ next => next.outcome
  | .ask _ _ next => next.outcome
  | .cancel next => next.outcome
  | .check next => next.outcome
  | .pause _ next => next.outcome
  | .stall _ => .stalled
  | .send _ next _ => next.outcome

/-- The events of an undisturbed run. -/
def trace (c : Course α) : List Event := Mark.events c.log

/-- The chunks of an undisturbed run. -/
def output (c : Course α) : List StreamChunk := Mark.chunks c.log

/-- The course sends no chunk. -/
@[simp] def Quiet : Course α → Prop
  | .done _ => True
  | .interrupted => True
  | .fault _ => True
  | .emit _ next => next.Quiet
  | .ask _ _ next => next.Quiet
  | .cancel next => next.Quiet
  | .check next => next.Quiet
  | .pause _ next => next.Quiet
  | .stall _ => True
  | .send _ _ _ => False

/-! ## Courses put together -/

@[simp] theorem pure_eq_done (a : α) : (pure a : Course α) = .done a := rfl

theorem outcome_bind (c : Course α) (f : α → Course β) :
    (c >>= f).outcome = c.outcome.andThen fun a => (f a).outcome := by
  change (c.bind f).outcome = _
  induction c with
  | done a => rfl
  | interrupted => rfl
  | fault cause => rfl
  | emit event next ih => exact ih
  | ask query shielded next ih => exact ih
  | cancel next ih => exact ih
  | check next ih => exact ih
  | pause shielded next ih => exact ih
  | stall shielded => rfl
  | send chunk next refused ih _ => exact ih

theorem log_bind (c : Course α) (f : α → Course β) :
    (c >>= f).log = c.log ++ match c.outcome with
      | .finished a => (f a).log
      | _ => [] := by
  change (c.bind f).log = _
  induction c with
  | done a => rfl
  | interrupted => rfl
  | fault cause => rfl
  | emit event next ih => exact congrArg _ ih
  | ask query shielded next ih => exact congrArg _ ih
  | cancel next ih => exact ih
  | check next ih => exact ih
  | pause shielded next ih => exact ih
  | stall shielded => rfl
  | send chunk next refused ih _ => exact congrArg _ ih

theorem Quiet.bind {c : Course α} (hc : c.Quiet) {f : α → Course β} (hf : ∀ a, (f a).Quiet) :
    (c >>= f).Quiet := by
  change (c.bind f).Quiet
  induction c with
  | done a => exact hf a
  | interrupted => trivial
  | fault cause => trivial
  | emit event next ih => exact ih hc
  | ask query shielded next ih => exact ih hc
  | cancel next ih => exact ih hc
  | check next ih => exact ih hc
  | pause shielded next ih => exact ih hc
  | stall shielded => trivial
  | send chunk next refused _ _ => exact hc.elim

section Finished

variable {c : Course α} {f : α → Course β} {a : α}

theorem outcome_bind_of_finished (h : c.outcome = .finished a) :
    (c >>= f).outcome = (f a).outcome := by
  rw [outcome_bind, h]
  rfl

theorem log_bind_of_finished (h : c.outcome = .finished a) :
    (c >>= f).log = c.log ++ (f a).log := by
  rw [log_bind, h]

theorem trace_bind_of_finished (h : c.outcome = .finished a) :
    (c >>= f).trace = c.trace ++ (f a).trace := by
  rw [trace, log_bind_of_finished h, Mark.events_append, trace, trace]

theorem mem_trace_bind {e : Event} (he : e ∈ (c >>= f).trace) :
    e ∈ c.trace ∨ ∃ a, c.outcome = .finished a ∧ e ∈ (f a).trace := by
  rw [trace, log_bind, Mark.events_append, List.mem_append] at he
  rcases he with he | he
  · exact .inl he
  · cases ho : c.outcome <;> rw [ho] at he
    case finished a => exact .inr ⟨a, rfl, he⟩
    all_goals cases he

/-- What holds of the events of both parts holds of all. -/
theorem forall_trace_bind {ok : Event → Prop} (hc : ∀ e ∈ c.trace, ok e)
    (hf : ∀ a, c.outcome = .finished a → ∀ e ∈ (f a).trace, ok e) :
    ∀ e ∈ (c >>= f).trace, ok e := by
  intro e he
  rcases mem_trace_bind he with he | ⟨a, ha, he⟩
  · exact hc e he
  · exact hf a ha e he

theorem bind_of_stalled (h : c.outcome = .stalled) :
    (c >>= f).outcome = .stalled ∧ (c >>= f).log = c.log := by
  rw [outcome_bind, log_bind, h]
  exact ⟨rfl, List.append_nil _⟩

theorem bind_of_faulted {cause : Fault} (h : c.outcome = .faulted cause) :
    (c >>= f).outcome = .faulted cause ∧ (c >>= f).log = c.log := by
  rw [outcome_bind, log_bind, h]
  exact ⟨rfl, List.append_nil _⟩

/-- Only the value of a course can be gone on from. -/
theorem outcome_bind_eq_finished {b : β} (h : (c >>= f).outcome = .finished b) :
    ∃ a, c.outcome = .finished a ∧ (f a).outcome = .finished b := by
  rw [outcome_bind] at h
  cases hc : c.outcome <;> rw [hc] at h
  case finished a => exact ⟨a, rfl, h⟩
  all_goals cases h

end Finished

theorem log_of_quiet {c : Course α} (h : c.Quiet) : c.log = c.trace.map .seen := by
  unfold trace
  induction c with
  | emit event next ih => simpa using ih h
  | ask query shielded next ih => simpa using ih h
  | cancel next ih => exact ih h
  | check next ih => exact ih h
  | pause shielded next ih => exact ih h
  | send chunk next refused _ _ => exact h.elim
  | _ => rfl

theorem output_of_quiet {c : Course α} (h : c.Quiet) : c.output = [] := by
  rw [output, log_of_quiet h, Mark.chunks_map_seen]

/-- A course whose undisturbed run sends nothing has nothing to send at all. -/
theorem quiet_of_output {c : Course α} (h : c.output = []) : c.Quiet := by
  unfold output at h
  induction c with
  | emit event next ih => exact ih h
  | ask query shielded next ih => exact ih h
  | cancel next ih => exact ih h
  | check next ih => exact ih h
  | pause shielded next ih => exact ih h
  | send chunk next refused _ _ => simp at h
  | _ => trivial

/-! ## The small courses -/

theorem forall_trace_done {ok : Event → Prop} (a : α) : ∀ e ∈ (Course.done a).trace, ok e :=
  List.forall_mem_nil _

theorem forall_trace_consult {ok : Event → Prop} {query : Query} {answer : α}
    (h : ok (.asked query)) : ∀ e ∈ (Course.consult query answer).trace, ok e :=
  List.forall_mem_singleton.2 h

theorem forall_trace_record {ok : Event → Prop} {event : Event} (h : ok event) :
    ∀ e ∈ (Course.record event).trace, ok e :=
  List.forall_mem_singleton.2 h

theorem log_await (r : Reply α) : (await r).log = [] := by
  obtain ⟨beats, answer⟩ := r
  induction beats with
  | nil => cases answer <;> rfl
  | cons beat beats ih => cases beat <;> exact ih

theorem outcome_await (r : Reply α) :
    (await r).outcome = r.answer.elim .stalled .finished := by
  obtain ⟨beats, answer⟩ := r
  induction beats with
  | nil => cases answer <;> rfl
  | cons beat beats ih => cases beat <;> exact ih

/-- A reply that has been awaited was answered. -/
theorem answer_of_await {r : Reply α} {a : α} (h : (await r).outcome = .finished a) :
    r.answer = some a := by
  rw [outcome_await] at h
  cases hr : r.answer <;> rw [hr] at h <;> cases h
  rfl

theorem quiet_await (r : Reply α) : (await r).Quiet := by
  obtain ⟨beats, answer⟩ := r
  induction beats with
  | nil => cases answer <;> trivial
  | cons beat beats ih => cases beat <;> exact ih

theorem outcome_recordAll (events : List Event) :
    (recordAll events).outcome = .finished () := by
  induction events with
  | nil => rfl
  | cons event events ih => exact ih

theorem trace_recordAll (events : List Event) : (recordAll events).trace = events := by
  induction events with
  | nil => rfl
  | cons event events ih => exact congrArg (event :: ·) ih

theorem log_ofExcept (r : Except Fault α) : (ofExcept r).log = [] := by
  cases r <;> rfl

theorem quiet_ofExcept (r : Except Fault α) : (ofExcept r).Quiet := by
  cases r <;> trivial

@[simp] theorem log_shield (c : Course α) : c.shield.log = c.log := by
  induction c <;> simp_all [shield]

@[simp] theorem outcome_shield (c : Course α) : c.shield.outcome = c.outcome := by
  induction c <;> simp_all [shield]

@[simp] theorem trace_shield (c : Course α) : c.shield.trace = c.trace := by
  rw [trace, log_shield, trace]

theorem Quiet.shield {c : Course α} (h : c.Quiet) : c.shield.Quiet := by
  induction c <;> simp_all [Course.shield]

/-! ## Trails keep to the log -/

theorem Move.log {d e : Course α} {s : List Mark} (h : Move d s e) (hs : Mark.refused ∉ s) :
    d.log = s ++ e.log ∧ d.outcome = e.outcome := by
  cases h with
  | refuse chunk next refused => exact absurd (List.mem_singleton.2 rfl) hs
  | _ => exact ⟨rfl, rfl⟩

theorem Move.quiet {d e : Course α} {s : List Mark} (h : Move d s e) (hd : d.Quiet) :
    e.Quiet ∧ Mark.refused ∉ s := by
  cases h with
  | send chunk next refused => exact hd.elim
  | refuse chunk next refused => exact hd.elim
  | _ => exact ⟨hd, by simp⟩

/-- As long as no chunk is refused, the marks of a trail and the log of what is left make up the
log. -/
theorem Trail.log {c d : Course α} {h : List Mark} (ht : c.Trail h d) (hr : Mark.refused ∉ h) :
    c.log = h ++ d.log ∧ c.outcome = d.outcome := by
  induction ht with
  | start => exact ⟨rfl, rfl⟩
  | move _ hm ih =>
    simp only [List.mem_append, not_or] at hr
    obtain ⟨hl, ho⟩ := ih hr.1
    obtain ⟨hl', ho'⟩ := hm.log hr.2
    exact ⟨by rw [hl, hl', List.append_assoc], ho.trans ho'⟩

theorem Trail.quiet {c d : Course α} {h : List Mark} (ht : c.Trail h d) (hc : c.Quiet) :
    d.Quiet ∧ Mark.refused ∉ h := by
  induction ht with
  | start => exact ⟨hc, List.not_mem_nil⟩
  | move _ hm ih =>
    obtain ⟨hq, hr⟩ := hm.quiet ih.1
    exact ⟨hq, by simp [ih.2, hr]⟩

/-- The ending of a course that goes no further. -/
def ending? : Course α → Option (Ending α)
  | .done a => some (.finished a)
  | .interrupted => some .interrupted
  | .fault cause => some (.faulted cause)
  | .stall _ => some .stalled
  | _ => none

theorem log_of_ending {c : Course α} {e : Ending α} (h : c.ending? = some e) :
    c.log = [] ∧ c.outcome = e := by
  cases c <;> simp_all [ending?]

end Course

end ChatGateway
