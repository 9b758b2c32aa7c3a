import ChatGateway.Gateway.Plan
import ChatGateway.Proofs.Course.Undisturbed

/-!
# Making a plan

While a plan is made nothing is sent and no provider is asked for an answer (`Job.prepares_plan`):
there are questions to the services, providers that are built or checked, and a turn of the
rotation. It is put together from a few kinds of courses (`Course.Planned`), so what holds of those
and passes through `>>=` holds of it. A plan comes of a pick and of the providers that may be tried
(`Job.plan_eq_ok`), and those are the caller's own if there are any (`Job.available_eq`).
-/

namespace ChatGateway

/-- Whether an event belongs to the making of a plan. -/
def Event.prepares : Event → Bool
  | .asked _ => true
  | .called call => !call.isAttempt
  | .turned => true
  | .sampled _ _ => false

namespace Course

variable {α β : Type}

/-- The courses that the making of a plan is put together from. -/
inductive Planned (b : Backends) : ∀ {α : Type}, Course α → Prop
  | done {α : Type} (a : α) : Planned b (.done a)
  | bind {α β : Type} {c : Course α} {f : α → Course β} :
    Planned b c → (∀ a, Planned b (f a)) → Planned b (c >>= f)
  | consult {α : Type} (query : Query) (answer : α) : Planned b (.consult query answer)
  | ofExcept {α : Type} (r : Except Fault α) : Planned b (.ofExcept r)
  | record {event : Event} : event.prepares = true → Planned b (.record event)
  /-- Health checks are awaited side by side. -/
  | checks (ps : List Provider) : Planned b (.await (Reply.join (ps.map b.health)))

theorem Planned.recordAll {b : Backends} {events : List Event}
    (h : ∀ e ∈ events, e.prepares = true) : (Course.recordAll events).Planned b := by
  induction events with
  | nil => exact .done ()
  | cons e es ih =>
    obtain ⟨he, hes⟩ := List.forall_mem_cons.1 h
    exact .bind (.record he) fun _ => ih hes

/-- The course sends nothing and does not stop by itself, and all that it does belongs to the making
of a plan. -/
structure Prepares (c : Course α) : Prop where
  quiet : c.Quiet
  goes_on : c.outcome ≠ .interrupted
  events : ∀ e ∈ c.trace, e.prepares = true

theorem Prepares.bind {c : Course α} (hc : c.Prepares) {f : α → Course β}
    (hf : ∀ a, (f a).Prepares) : (c >>= f).Prepares := by
  refine ⟨hc.quiet.bind fun a => (hf a).quiet, ?_, fun e he => ?_⟩
  · rw [outcome_bind]
    cases ho : c.outcome with
    | finished a => exact (hf a).goes_on
    | interrupted => exact absurd ho hc.goes_on
    | stalled => simp [Ending.andThen]
    | faulted cause => simp [Ending.andThen]
  · rcases mem_trace_bind he with he | ⟨a, -, he⟩
    · exact hc.events e he
    · exact (hf a).events e he

theorem Planned.prepares {b : Backends} {c : Course α} (h : c.Planned b) : c.Prepares := by
  induction h with
  | done a => exact ⟨trivial, by simp, fun _ he => nomatch he⟩
  | bind _ _ ih ih' => exact ih.bind ih'
  | consult query answer =>
    refine ⟨trivial, by simp [Course.consult], fun e he => ?_⟩
    rw [List.mem_singleton.1 he]
    rfl
  | ofExcept r =>
    refine ⟨quiet_ofExcept r, ?_, fun e he => by simp [trace, log_ofExcept] at he⟩
    cases r <;> simp [Course.ofExcept]
  | record he =>
    refine ⟨trivial, by simp [Course.record], fun e he' => ?_⟩
    rwa [List.mem_singleton.1 he']
  | checks ps =>
    refine ⟨quiet_await _, ?_, fun e he => by simp [trace, log_await] at he⟩
    cases h : (Reply.join (ps.map b.health)).answer <;> simp [outcome_await, h]

end Course

open Course

/-! ## The parts of a plan -/

section Planned

variable {b : Backends}

theorem Services.planned_strategyKind (s : Services) (standard : StrategyKind)
    (caller : Option CallerId) : (s.strategyKind standard caller).Planned b := by
  have lock : (s.askLock caller).Planned b := by
    unfold askLock
    split
    · exact .done _
    · exact .consult _ _
  have preference : (s.askPreference caller).Planned b := by
    unfold askPreference
    split
    · exact .done _
    · split
      · exact .done _
      · exact .consult _ _
  refine lock.bind fun locked => ?_
  split
  · exact .done _
  · exact preference.bind fun _ => .done _

theorem Services.planned_askRules (s : Services) (caller : Option CallerId) :
    (s.askRules caller).Planned b := by
  unfold askRules
  split
  · exact .done _
  · split
    · exact .done _
    · exact .consult _ _

theorem KeyRing.planned_buildAll (k : KeyRing) (caller : CallerId) (serial : Nat)
    (names : List String) : (k.buildAll caller serial names).Planned b := by
  induction names generalizing serial with
  | nil => exact .done _
  | cons name rest ih =>
    refine Planned.bind (.consult _ _) fun key => ?_
    split
    · exact ih serial
    · refine Planned.bind (.record rfl) fun _ => ?_
      split
      · exact ih serial
      · exact (ih (serial + 1)).bind fun _ => .done _

theorem Backends.planned_healthy (b : Backends) (ps : List Provider) :
    (b.healthy ps).Planned b := by
  refine Planned.bind (.recordAll fun e he => ?_) fun _ =>
    (Planned.checks ps).bind fun _ => .done _
  obtain ⟨p, -, rfl⟩ := List.mem_map.1 he
  rfl

end Planned

theorem attemptOrder_ne_nil {strict : Bool} {selected : Provider} {available : Available}
    (h : available.callerOwned = true → available.providers ≠ []) :
    attemptOrder strict selected available ≠ [] := by
  unfold attemptOrder
  split
  · rename_i order ho
    obtain ⟨p, -, rfl⟩ := Option.map_eq_some_iff.1 ho
    simp
  · split
    · rename_i hc
      exact h (Bool.and_eq_true_iff.1 hc).1
    · split <;> simp

namespace Job

theorem planned_strategy (j : Job) : j.strategy.Planned j.backends := by
  refine (j.services.planned_strategyKind j.reads.kind j.caller).bind fun kind => ?_
  split
  · exact (j.services.planned_askRules j.caller).bind fun _ => .done _
  · exact .done _

theorem planned_pick (j : Job) : j.pick.Planned j.backends := by
  refine j.planned_strategy.bind fun strategy => Planned.bind (.ofExcept _) fun selection => ?_
  change (if strategy.takesTurn j.reads.selecting then
    Course.record .turned >>= fun _ => pure selection else pure selection).Planned j.backends
  split
  · exact Planned.bind (.record rfl) fun _ => .done _
  · exact .done _

theorem planned_available (j : Job) : j.available.Planned j.backends := by
  have own : j.ownProviders.Planned j.backends := by
    unfold ownProviders
    split
    · exact (KeyRing.planned_buildAll _ _ _ _).bind fun ps => j.backends.planned_healthy ps
    · exact .done _
  refine own.bind fun own => ?_
  split
  · exact (j.backends.planned_healthy _).bind fun _ => .done _
  · exact .done _

/-- A plan is put together from these courses. -/
theorem planned_plan (j : Job) : j.plan.Planned j.backends := by
  unfold plan
  split
  · exact .done _
  · refine j.planned_pick.bind fun selection => ?_
    split
    · exact .done _
    · exact j.planned_available.bind fun _ => .done _

/-- **Making a plan** sends nothing, and asks no provider for an answer. -/
theorem prepares_plan (j : Job) : j.plan.Prepares := j.planned_plan.prepares

/-! ## What a plan comes of -/

/-- A plan comes of a pick and of those that may be tried. -/
theorem plan_eq_ok {j : Job} {cs : List Provider} (h : j.plan.outcome = .finished (.ok cs)) :
    ∃ selected available, j.pick.outcome = .finished (.ok selected) ∧
      j.available.outcome = .finished available ∧
      cs = attemptOrder j.settings.strictSelection selected available := by
  unfold plan at h
  split at h
  · cases h
  obtain ⟨selection, hs, h⟩ := outcome_bind_eq_finished h
  split at h
  · cases h
  · obtain ⟨available, ha, h⟩ := outcome_bind_eq_finished h
    cases h
    exact ⟨_, available, hs, ha, rfl⟩

/-- Those that may be tried are the caller's own if there are any, and else healthy ones of the
gateway. -/
theorem available_eq {j : Job} {a : Available} (h : j.available.outcome = .finished a) :
    (∃ own, j.ownProviders.outcome = .finished own ∧ own ≠ [] ∧ a = ⟨own, true⟩) ∨
      j.ownProviders.outcome = .finished [] ∧
        ∃ ps, (j.backends.healthy j.reads.probing).outcome = .finished ps ∧ a = ⟨ps, false⟩ := by
  obtain ⟨own, ho, h⟩ := outcome_bind_eq_finished h
  split at h
  · obtain ⟨ps, hp, h⟩ := outcome_bind_eq_finished h
    cases h
    exact .inr ⟨ho, ps, hp, rfl⟩
  · rename_i hne
    cases h
    exact .inl ⟨own, ho, fun h => hne h, rfl⟩

/-- A plan that fails has nobody to pick from. -/
theorem plan_eq_error {j : Job} {e : GatewayError} (h : j.plan.outcome = .finished (.error e)) :
    e = .noProvidersRegistered ∨ ∃ cause, e = .selection cause := by
  unfold plan at h
  split at h
  · cases h
    exact .inl rfl
  obtain ⟨selection, -, h⟩ := outcome_bind_eq_finished h
  split at h
  · cases h
    exact .inr ⟨_, rfl⟩
  · obtain ⟨available, -, h⟩ := outcome_bind_eq_finished h
    cases h

/-- There is always somebody to try. -/
theorem plan_ne_nil {j : Job} {cs : List Provider} (h : j.plan.outcome = .finished (.ok cs)) :
    cs ≠ [] := by
  obtain ⟨selected, available, -, ha, rfl⟩ := plan_eq_ok h
  have hown : available.callerOwned = true → available.providers ≠ [] := by
    rcases available_eq ha with ⟨own, -, hne, rfl⟩ | ⟨-, ps, -, rfl⟩
    · exact fun _ => hne
    · exact fun h => nomatch h
  exact attemptOrder_ne_nil hown

end Job

end ChatGateway
