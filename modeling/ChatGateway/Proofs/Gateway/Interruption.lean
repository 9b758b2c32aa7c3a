import ChatGateway.Proofs.Course.Aftermath
import ChatGateway.Proofs.Gateway.Cancellation
import ChatGateway.Proofs.Gateway.Failover

/-!
# Cancelling a request

A request that is cancelled begins no further attempt. A plan in the making is finished first; an
attempt that waits is given up, and leaves no sample; and one that returns without waiting again
leaves its sample, and keeps its answer, or its error if nobody else is left to be asked
(`Job.WindsUp`, `Job.route_heeds_cancellation`). Where no window can be made for samples, the first
attempt that returns stops the request with a fault (`no_answer_without_room`).
-/

namespace ChatGateway

open Course

/-! ## Making a plan -/

/-- No cancellation gets through while a plan is made for a request that is not streamed. -/
theorem Course.Planned.firm {α : Type} {b : Backends} {c : Course α} (hc : c.Planned b) :
    c.shield.Firm := by
  induction hc with
  | done a => trivial
  | bind _ _ ih ih' =>
    rw [shield_bind]
    exact ih.bind ih'
  | consult query answer => exact ⟨rfl, trivial⟩
  | ofExcept r => cases r <;> trivial
  | record _ => trivial
  | checks ps => exact firm_shield_await _

namespace Job

variable {j : Job}

/-! ## One attempt -/

/-- How the attempts go on from what a provider has answered. -/
def afterAttempt (j : Job) (attempts : Nat) (p : Provider) (rest : List Provider) :
    Except ProviderError ChatResponse → Course (Except GatewayError ChatResponse)
  | .ok response => .done (.ok (j.annotate p response))
  | .error e => j.attempt (attempts + 1) (some e) rest

theorem attempt_cons (j : Job) (attempts : Nat) (last : Option ProviderError) (p : Provider)
    (rest : List Provider) :
    j.attempt attempts last (p :: rest) =
      .check (.emit (.called (.chat p)) (await (j.backends.chat p) >>= fun result =>
        j.sample p >>= fun _ => j.afterAttempt attempts p rest result)) := by
  change Course.check (j.tryOne p >>= j.afterAttempt attempts p rest) = _
  rw [tryOne, bind_assoc]
  refine congrArg (fun f => Course.check (j.backends.callChat p >>= f)) (funext fun result => ?_)
  rw [bind_assoc]
  rfl

/-- How a request goes on from its plan. -/
def followPlan (j : Job) :
    Except GatewayError (List Provider) → Course (Except GatewayError ChatResponse)
  | .error e => .done (.error e)
  | .ok cs => j.attempt 0 none cs

theorem route_eq (j : Job) : j.route = j.plan.shield >>= j.followPlan := by
  refine congrArg (j.plan.shield >>= ·) (funext fun r => ?_)
  cases r <;> rfl

section

variable {α : Type} (p : Provider) (f : Unit → Course α)

theorem sample_bind_of_room
    (hroom : j.reads.signals.latency.capacity ≤ LatencyHistory.largestCapacity) :
    j.sample p >>= f = .emit (.sampled p.name (j.backends.elapsed p)) (f ()) := by
  rw [sample, LatencyHistory.ensureRoom_of_le hroom]
  rfl

theorem sample_bind_of_no_room
    (hroom : LatencyHistory.largestCapacity < j.reads.signals.latency.capacity) :
    j.sample p >>= f = .fault .windowTooLarge := by
  rw [sample, LatencyHistory.ensureRoom_of_lt hroom]
  rfl

end

/-! ## No attempt after a cancellation -/

theorem attempt_heeds (j : Job) (attempts : Nat) (last : Option ProviderError)
    (ps : List Provider) (hot : Bool) :
    (j.attempt attempts last ps).Heeds Mark.NoAttempt True (fun _ _ => True) hot := by
  induction ps generalizing attempts last hot with
  | nil => trivial
  | cons p rest ih =>
    -- whether it is cancelled is looked up before the call, so that finds the request cold
    rw [attempt_cons]
    refine ⟨by simp, ?_⟩
    rw [heeds_bind]
    refine heeds_await fun result _ => ?_
    rw [heeds_bind]
    refine j.sample_heeds p ?_
    cases result with
    | ok response => trivial
    | error e => exact ih (attempts + 1) (some e) _

theorem route_heeds (j : Job) (cancelled : Bool) :
    j.route.Heeds Mark.NoAttempt True (fun _ _ => True) cancelled := by
  unfold route
  rw [heeds_bind]
  refine heeds_of_trace j.prepares_plan.quiet.shield (fun e he e' he' => ?_) trivial
    (fun r hot => ?_) _
  · rw [trace_shield] at he
    cases he'
    exact Event.isAttempt_of_prepares (j.prepares_plan.events e he)
  · cases r with
    | error e => trivial
    | ok cs => exact j.attempt_heeds 0 none cs hot

/-! ## Where the attempts stand -/

/-- These providers were asked, and all of them failed. -/
def AllFailed (j : Job) (ps : List Provider) : Prop :=
  ∀ p ∈ ps, ∃ e, (j.backends.chat p).answer = some (.error e)

/-- `j.Stands attempts ps seen d`: of the attempts with `ps` there is `d` left when these events
have been seen. -/
inductive Stands (j : Job) (attempts : Nat) (ps : List Provider) :
    List Event → Course (Except GatewayError ChatResponse) → Prop
  | between {failed left : List Provider} {next : Course (Except GatewayError ChatResponse)} :
    ps = failed ++ left → left ≠ [] → j.AllFailed failed →
    Stands j attempts ps (failed.flatMap j.attemptEvents) (.check next)
  /-- The next one is about to be called. -/
  | calling {seen : List Event} {p : Provider}
    {next : Course (Except GatewayError ChatResponse)} :
    Stands j attempts ps seen (.emit (.called (.chat p)) next)
  /-- The answer of the last one is awaited, or has just come. -/
  | asking {failed left : List Provider} {p : Provider} {beats : List Beat} :
    ps = failed ++ p :: left → j.AllFailed failed →
    (failed ≠ [] → j.reads.signals.latency.capacity ≤ LatencyHistory.largestCapacity) →
    Stands j attempts ps (failed.flatMap j.attemptEvents ++ [.called (.chat p)])
      (await ⟨beats, (j.backends.chat p).answer⟩ >>= fun result =>
        j.sample p >>= fun _ => j.afterAttempt (attempts + failed.length) p left result)
  | settled {seen : List Event} {result : Except GatewayError ChatResponse} :
    Stands j attempts ps seen (.done result)

/-- An attempt that failed is one more. -/
theorem Stands.cons {attempts : Nat} {p : Provider} {rest : List Provider} {seen : List Event}
    {d : Course (Except GatewayError ChatResponse)} {e : ProviderError}
    (hroom : j.reads.signals.latency.capacity ≤ LatencyHistory.largestCapacity)
    (he : (j.backends.chat p).answer = some (.error e)) (h : j.Stands (attempts + 1) rest seen d) :
    j.Stands attempts (p :: rest) (j.attemptEvents p ++ seen) d := by
  have more {failed : List Provider} (hf : j.AllFailed failed) : j.AllFailed (p :: failed) :=
    List.forall_mem_cons.2 ⟨⟨e, he⟩, hf⟩
  cases h with
  | @between failed left _ hps hne hf =>
    rw [← List.flatMap_cons]
    exact .between (by rw [hps, List.cons_append]) hne (more hf)
  | calling => exact .calling
  | @asking failed left q beats hps hf _ =>
    rw [← List.append_assoc, ← List.flatMap_cons, Nat.add_assoc, Nat.add_comm 1,
      ← List.length_cons]
    exact .asking (by rw [hps, List.cons_append]) (more hf) fun _ => hroom
  | settled => exact .settled

/-- Wherever the attempts have come to, this is where they stand. -/
theorem stands_of_trail {attempts : Nat} {last : Option ProviderError} {ps : List Provider}
    {h : List Mark} {d : Course (Except GatewayError ChatResponse)}
    (ht : (j.attempt attempts last ps).Trail h d) : j.Stands attempts ps (Mark.events h) d := by
  induction ps generalizing attempts last h with
  | nil =>
    obtain ⟨rfl, rfl⟩ := ht.over_cases rfl
    exact .settled
  | cons p rest ih =>
    rw [attempt_cons] at ht
    rcases ht.check_cases with ⟨rfl, rfl⟩ | hcall
    · exact @Stands.between j attempts _ [] _ _ rfl (by simp) (by simp [AllFailed])
    rcases hcall.emit_cases with ⟨rfl, rfl⟩ | ⟨s, rfl, hwait⟩
    · exact .calling
    have asked (beats : List Beat) : j.Stands attempts (p :: rest) [.called (.chat p)]
        (await ⟨beats, (j.backends.chat p).answer⟩ >>= fun result =>
          j.sample p >>= fun _ => j.afterAttempt attempts p rest result) :=
      @Stands.asking j attempts _ [] _ _ _ rfl (by simp [AllFailed]) (by simp)
    rcases hwait.bind_cases with ⟨c, hc, rfl⟩ | ⟨result, s₁, s₂, hc, hback, rfl⟩
    · obtain ⟨rfl, beats, rfl⟩ := hc.await_cases
      exact asked beats
    -- the answer has come
    obtain ⟨rfl, ha⟩ := hc.await_done
    have answered : j.Stands attempts (p :: rest) [.called (.chat p)]
        (j.sample p >>= fun _ => j.afterAttempt attempts p rest result) := by
      have h := asked []
      rw [ha] at h
      exact h
    rcases Nat.lt_or_ge LatencyHistory.largestCapacity j.reads.signals.latency.capacity with
      hroom | hroom
    · rw [sample_bind_of_no_room p _ hroom] at hback answered
      obtain ⟨rfl, rfl⟩ := hback.over_cases rfl
      exact answered
    rw [sample_bind_of_room p _ hroom] at hback answered
    rcases hback.emit_cases with ⟨rfl, rfl⟩ | ⟨s₃, rfl, hafter⟩
    · exact answered
    cases result with
    | ok response =>
      obtain ⟨-, rfl⟩ := hafter.over_cases rfl
      exact .settled
    | error e => exact (ih hafter).cons hroom ha

/-! ## What a cancelled request comes to -/

/-- `j.Asking cs m failed p left`: of the plan `cs` some have failed, `p` is being asked, and the
others are left. -/
structure Asking (j : Job) (cs : List Provider) (m : Machine (Except GatewayError ChatResponse))
    (failed : List Provider) (p : Provider) (left : List Provider) : Prop where
  plan_eq : cs = failed ++ p :: left
  allFailed : j.AllFailed failed
  events_eq : m.events = j.plan.trace ++ failed.flatMap j.attemptEvents ++ [.called (.chat p)]

/-- `j.WindsUp cs m more ending`: what a request with the plan `cs` still comes to that is cancelled
at `m`. There are `more` events, none of them an attempt, and an `ending`; that it is called off
means that it is cancelled (`Ending.result?`). -/
inductive WindsUp (j : Job) (cs : List Provider)
    (m : Machine (Except GatewayError ChatResponse)) :
    List Event → Ending (Except GatewayError ChatResponse) → Prop
  /-- Before the first attempt the plan is made to its end. -/
  | planning {more : List Event} : m.events ++ more = j.plan.trace → WindsUp j cs m more .interrupted
  /-- After an attempt that failed nobody else is asked. -/
  | between {failed left : List Provider} : cs = failed ++ left → left ≠ [] → j.AllFailed failed →
    m.events = j.plan.trace ++ failed.flatMap j.attemptEvents → WindsUp j cs m [] .interrupted
  /-- An attempt that waits is given up, and leaves no sample. -/
  | givenUp {failed left : List Provider} {p : Provider} : j.Asking cs m failed p left →
    m.StillWaits → WindsUp j cs m [] .interrupted
  /-- An attempt that succeeds without waiting again keeps its answer. -/
  | answered {failed left : List Provider} {p : Provider} {response : ChatResponse} :
    j.Asking cs m failed p left → ¬m.StillWaits →
    j.reads.signals.latency.capacity ≤ LatencyHistory.largestCapacity →
    (j.backends.chat p).answer = some (.ok response) →
    WindsUp j cs m [.sampled p.name (j.backends.elapsed p)]
      (.finished (.ok (j.annotate p response)))
  /-- One that fails without waiting again leaves its sample, and nobody else is asked. -/
  | stopped {failed left : List Provider} {p : Provider} {e : ProviderError} :
    j.Asking cs m failed p left → ¬m.StillWaits → left ≠ [] →
    j.reads.signals.latency.capacity ≤ LatencyHistory.largestCapacity →
    (j.backends.chat p).answer = some (.error e) →
    WindsUp j cs m [.sampled p.name (j.backends.elapsed p)] .interrupted
  /-- The last one that fails without waiting again has its error reported. -/
  | exhausted {failed : List Provider} {p : Provider} {e : ProviderError} :
    j.Asking cs m failed p [] → ¬m.StillWaits →
    j.reads.signals.latency.capacity ≤ LatencyHistory.largestCapacity →
    (j.backends.chat p).answer = some (.error e) →
    WindsUp j cs m [.sampled p.name (j.backends.elapsed p)]
      (.finished (.error (.allProvidersFailed cs.length e)))
  /-- Where no window can be made, the first attempt that returns ends in a fault. -/
  | noRoom {left : List Provider} {p : Provider} : j.Asking cs m [] p left → ¬m.StillWaits →
    LatencyHistory.largestCapacity < j.reads.signals.latency.capacity →
    (j.backends.chat p).answer ≠ none → WindsUp j cs m [] (.faulted .windowTooLarge)

/-- What an attempt comes to once the request is cancelled. -/
theorem windsUp_of_asking {cs failed left : List Provider} {p : Provider} {beats : List Beat}
    {m : Machine (Except GatewayError ChatResponse)} (ha : j.Asking cs m failed p left)
    (hroom : failed ≠ [] → j.reads.signals.latency.capacity ≤ LatencyHistory.largestCapacity)
    (hwaits : m.waiting = true → m.course.Waits)
    (hm : m.rest = await ⟨beats, (j.backends.chat p).answer⟩ >>= fun result =>
      j.sample p >>= fun _ => j.afterAttempt failed.length p left result) :
    j.WindsUp cs m m.rest.curb.trace m.rest.curb.outcome := by
  rcases await_pauses_or_answers ⟨beats, (j.backends.chat p).answer⟩ (fun result =>
      j.sample p >>= fun _ => j.afterAttempt failed.length p left result) with
    ⟨hpauses, hoff⟩ | ⟨result, hresult, hcurb, hbrisk⟩
  · rw [← hm] at hpauses hoff
    rw [hoff]
    exact .givenUp ha (Machine.stillWaits_of_pauses hpauses)
  rw [← hm] at hcurb hbrisk
  have returns (h : (j.sample p >>= fun _ => j.afterAttempt failed.length p left result).Brisk) :
      ¬m.StillWaits :=
    Machine.not_stillWaits_of_brisk hwaits (hbrisk h)
  rw [hcurb]
  rcases Nat.lt_or_ge LatencyHistory.largestCapacity j.reads.signals.latency.capacity with
    hsmall | hroom
  · obtain rfl : failed = [] := by
      by_contra hne
      exact absurd (hroom hne) (by omega)
    rw [sample_bind_of_no_room p _ hsmall] at returns ⊢
    refine .noRoom ha (returns trivial) hsmall fun hnone => ?_
    cases hnone.symm.trans hresult
  rw [sample_bind_of_room p _ hroom] at returns ⊢
  cases result with
  | ok response => exact .answered ha (returns trivial) hroom hresult
  | error e =>
    cases left with
    | nil =>
      have hcount : cs.length = failed.length + 1 := by simp [ha.plan_eq]
      have hlast := WindsUp.exhausted ha (returns trivial) hroom hresult
      rwa [hcount] at hlast
    | cons q left => exact .stopped ha (returns trivial) (by simp) hroom hresult

/-- A request that is cancelled before the first attempt makes its plan, and asks nobody. -/
theorem curb_of_planning {h : List Mark} {c : Course (Except GatewayError (List Provider))}
    {cs : List Provider} (hplan : j.plan.outcome = .finished (.ok cs))
    (hc : j.plan.shield.Trail h c) :
    Mark.events h ++ (c >>= j.followPlan).curb.trace = j.plan.trace ∧
      (c >>= j.followPlan).curb.outcome = .interrupted := by
  obtain ⟨hl, ho⟩ := hc.log (hc.quiet j.prepares_plan.quiet.shield).2
  obtain ⟨hl', ho'⟩ := (hc.firm j.planned_plan.firm).curb
  rw [outcome_shield, hplan] at ho
  rw [log_shield] at hl
  have hfinished : c.curb.outcome = .finished (.ok cs) := by rw [ho', ← ho]
  have hnobody : (j.followPlan (.ok cs)).curb = .interrupted := by
    obtain ⟨p, rest, rfl⟩ := List.exists_cons_of_ne_nil (plan_ne_nil hplan)
    rfl
  rw [curb_bind]
  constructor
  · have htrace : j.plan.trace = Mark.events h ++ c.trace := by
      rw [trace, hl, Mark.events_append, trace]
    rw [trace_bind_of_finished hfinished, hnobody, htrace, trace, hl']
    exact congrArg _ (List.append_nil _)
  · rw [outcome_bind_of_finished hfinished, hnobody]
    rfl

/-- A request that has made its plan stands at its attempts. -/
theorem windsUp_of_stands {cs : List Provider} {m : Machine (Except GatewayError ChatResponse)}
    {seen : List Event} (hs : j.Stands 0 cs seen m.rest) (hevents : m.events = j.plan.trace ++ seen)
    (hx : m.cancelled = true) (hopen : ∀ r, m.course ≠ .done r)
    (hk : m.Keeps Mark.NoAttempt True fun _ _ => True) :
    j.WindsUp cs m m.rest.curb.trace m.rest.curb.outcome := by
  generalize hrest : m.rest = d at hs
  cases hs with
  | between hcs hne hf => exact .between hcs hne hf hevents
  | @calling _ p next =>
    -- nobody is called once the request is cancelled
    have hc : m.course = .emit (.called (.chat p)) next := Machine.course_of_rest hrest (by simp)
    have hw : m.waiting = false := by
      by_contra hw
      have hcourse := hk.waits (by simpa using hw)
      rw [hc] at hcourse
      exact hcourse
    have hheeds := hk.heeds (by rw [hc]; rfl) (by simp [Machine.caught, hw])
    rw [hc, hx, hw] at hheeds
    cases hheeds.1 rfl _ rfl
  | @asking failed left p beats hcs hf hroom =>
    rw [Nat.zero_add] at hrest ⊢
    have ha : j.Asking cs m failed p left := ⟨hcs, hf, by rw [hevents, List.append_assoc]⟩
    have hwinds := windsUp_of_asking ha hroom hk.waits hrest
    rwa [hrest] at hwinds
  | settled => exact absurd (Machine.course_of_rest hrest (by simp)) (hopen _)

theorem windsUp_of_trail {cs : List Provider} {m : Machine (Except GatewayError ChatResponse)}
    {h : List Mark} (hplan : j.plan.outcome = .finished (.ok cs)) (ht : j.route.Trail h m.rest)
    (hevents : m.events = Mark.events h) (hx : m.cancelled = true)
    (hopen : ∀ r, m.course ≠ .done r) (hk : m.Keeps Mark.NoAttempt True fun _ _ => True) :
    j.WindsUp cs m m.rest.curb.trace m.rest.curb.outcome := by
  rw [route_eq] at ht
  rcases ht.bind_cases with ⟨c, hc, hrest⟩ | ⟨r, s, s', hc, hattempts, rfl⟩
  · obtain ⟨hmore, hend⟩ := curb_of_planning hplan hc
    rw [hrest, hend]
    exact .planning (by rw [hevents, hmore])
  · obtain ⟨hl, ho⟩ := hc.log (hc.quiet j.prepares_plan.quiet.shield).2
    rw [outcome_shield, hplan] at ho
    obtain rfl : r = .ok cs := by simpa using ho.symm
    have htrace : Mark.events s = j.plan.trace := by
      rw [← trace_shield, trace, hl]
      simp
    exact windsUp_of_stands (stands_of_trail hattempts)
      (by rw [hevents, Mark.events_append, htrace]) hx hopen hk

/-- **Cancelling a request.** Whenever a request is cancelled, and by whom, it begins no attempt any
more; and unless it is answered or called off already it winds up: it is reported as cancelled, or
an attempt that returns without waiting again keeps what it came to. -/
theorem route_heeds_cancellation (j : Job) (capacity : Nat) (cancelled : Bool)
    (schedule : List Act)
    (hx : ((Machine.start j.route cancelled).run capacity schedule).cancelled = true) :
    (∀ later,
      ((Machine.start j.route cancelled).run capacity
          (schedule ++ later)).events.filter Event.isAttempt =
        ((Machine.start j.route cancelled).run capacity
          schedule).events.filter Event.isAttempt) ∧
    ∀ cs, j.plan.outcome = .finished (.ok cs) →
      (∀ r, ((Machine.start j.route cancelled).run capacity schedule).course ≠ .done r) →
      ((Machine.start j.route cancelled).run capacity schedule).course ≠ .interrupted →
      ∃ more ending,
        j.WindsUp cs ((Machine.start j.route cancelled).run capacity schedule) more ending ∧
        ((Machine.start j.route cancelled).run capacity schedule).ComesTo more ending := by
  refine ⟨fun later => ?_, fun cs hplan hopen hon => ?_⟩
  · obtain ⟨s, hs, hevents⟩ :=
      Machine.run_heeds (j.route_heeds cancelled) capacity schedule later hx
    rw [Machine.run_append, hevents, List.filter_append, Mark.attempts_eq_nil hs, List.append_nil]
  · have hkeeps := (Machine.keeps_start (j.route_heeds cancelled)).run capacity schedule
    obtain ⟨h, d, ht, hb, hm⟩ := Machine.run_trail capacity j.route cancelled schedule
    generalize (Machine.start j.route cancelled).run capacity schedule = m at *
    obtain rfl : m.rest = d := by
      rcases hm with hrest | ⟨hi, -, -⟩
      · exact hrest
      · exact absurd hi hon
    have hquiet : m.course.Quiet := Machine.quiet_of_rest (ht.quiet j.quiet_route).1
    exact ⟨_, _, windsUp_of_trail hplan ht hb.events_eq hx hopen hkeeps,
      Machine.Bound.comesTo ⟨hx, hquiet, hkeeps.waits⟩⟩

end Job

/-! ## Providers that cancel the request -/

/-- A request of which every provider cancels it and answers at once. -/
def hastyJob (answer : Except ProviderError ChatResponse) (latencyCapacity : Nat) : Job :=
  { brokenJob latencyCapacity with
    backends :=
      { (brokenJob latencyCapacity).backends with chat := fun _ => ⟨[.cancel], some answer⟩ } }

/-- Such a request right after it is cancelled. -/
def hastyMachine (answer : Except ProviderError ChatResponse) (latencyCapacity : Nat) :
    Machine (Except GatewayError ChatResponse) :=
  (Machine.start (hastyJob answer latencyCapacity).route).run 1 (List.replicate 6 .work)

theorem hasty_failure_winds_up :
    (hastyMachine (.error (.remote "down")) 100).cancelled = true ∧
      (∀ later, ((hastyMachine (.error (.remote "down")) 100).run 1 later).events.filter
          Event.isAttempt = [.called (.chat ⟨{ name := "broken", models := [] }, .server 0⟩)]) ∧
      ∃ more ending,
        (hastyJob (.error (.remote "down")) 100).WindsUp brokenFirst
          (hastyMachine (.error (.remote "down")) 100) more ending ∧
        (hastyMachine (.error (.remote "down")) 100).ComesTo more ending := by
  obtain ⟨hattempts, hwinds⟩ := Job.route_heeds_cancellation
    (hastyJob (.error (.remote "down")) 100) 1 false (List.replicate 6 .work) rfl
  refine ⟨rfl, fun later => ?_, hwinds brokenFirst rfl (by rintro r ⟨⟩) (by rintro ⟨⟩)⟩
  rw [hastyMachine, ← Machine.run_append]
  exact hattempts later

/-- **An answer is lost without room for its sample**, also when it comes right after the request is
cancelled. -/
theorem no_answer_without_room :
    ¬∀ (j : Job) (cs left : List Provider) (p : Provider) (response : ChatResponse)
      (capacity : Nat) (schedule : List Act),
      ((Machine.start j.route).run capacity schedule).cancelled = true →
      j.Asking cs ((Machine.start j.route).run capacity schedule) [] p left →
      ¬((Machine.start j.route).run capacity schedule).StillWaits →
      (j.backends.chat p).answer = some (.ok response) →
      ((Machine.start j.route).run capacity schedule).ComesTo
        [.sampled p.name (j.backends.elapsed p)] (.finished (.ok (j.annotate p response))) := by
  intro h
  have hover : (hastyMachine (.ok (.ofText "id" "model" "hi" {})) (2 ^ 59)).course =
      .fault .windowTooLarge := rfl
  have hasking : (hastyJob (.ok (.ofText "id" "model" "hi" {})) (2 ^ 59)).Asking brokenFirst
      (hastyMachine (.ok (.ofText "id" "model" "hi" {})) (2 ^ 59)) []
      ⟨{ name := "broken", models := [] }, .server 0⟩
      [⟨{ name := "sound", models := [] }, .server 1⟩] :=
    ⟨rfl, by simp [Job.AllFailed], rfl⟩
  have hreturns : ¬(hastyMachine (.ok (.ofText "id" "model" "hi" {})) (2 ^ 59)).StillWaits :=
    Machine.not_stillWaits_of_brisk (by rintro ⟨⟩) trivial
  have hcomes : (hastyMachine (.ok (.ofText "id" "model" "hi" {})) (2 ^ 59)).ComesTo _ _ :=
    h (hastyJob (.ok (.ofText "id" "model" "hi" {})) (2 ^ 59)) brokenFirst _ _ _ 1
      (List.replicate 6 .work) rfl hasking hreturns rfl
  obtain ⟨enough, hs⟩ := hcomes
  obtain ⟨-, hend⟩ :=
    (hs 1 (List.replicate enough .work)).2 (Nat.le_of_eq List.count_replicate_self.symm)
  rw [Machine.run_of_over (by rw [hover]; rfl), hover] at hend
  cases hend

end ChatGateway
