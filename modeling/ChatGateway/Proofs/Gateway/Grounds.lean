import ChatGateway.Proofs.Course.Onset
import ChatGateway.Proofs.Gateway.Billing
import ChatGateway.Proofs.Gateway.StreamFailover

/-!
# The grounds of a report

Every report of a request has its grounds in what was done for it (`Job.reports_have_grounds`). That
no provider is registered is reported exactly if there was nobody to pick from, and then nothing has
been done at all. A selection never fails. That all providers failed is reported after at least one
attempt, with the error of the last one; and a request that ends well was served by the provider
that was asked last. So no plan is empty, and nobody runs out of providers without an error.
-/

namespace ChatGateway

open Course

/-- The attempts among some marks. -/
def Mark.attempts (h : List Mark) : List Event := (Mark.events h).filter Event.isAttempt

@[simp] theorem Mark.attempts_append (h s : List Mark) :
    attempts (h ++ s) = attempts h ++ attempts s := by
  rw [attempts, events_append, List.filter_append, attempts, attempts]

theorem Mark.attempts_of_events {h s : List Mark} {es : List Event}
    (hs : Mark.events s = Mark.events h ++ es) :
    attempts s = attempts h ++ es.filter Event.isAttempt := by
  rw [attempts, hs, List.filter_append, attempts]

theorem Course.Prepares.attempts {α : Type} {c : Course α} (hc : c.Prepares) :
    Mark.attempts c.log = [] :=
  hc.filter_isAttempt

namespace Job

variable {α : Type} {j : Job} {p : Provider}

/-! ## Attempts that fail -/

/-- `j.Fails call e`: the attempt fails with `e` before it brings anything. -/
inductive Fails (j : Job) : Call → ProviderError → Prop
  | chat {p : Provider} {e : ProviderError} :
    (j.backends.chat p).answer = some (.error e) → Fails j (.chat p) e
  | stream {p : Provider} {e : ProviderError} : j.FailsEarly p e → Fails j (.stream p) e

theorem not_fails_of_answer {response : ChatResponse}
    (ha : (j.backends.chat p).answer = some (.ok response)) (e : ProviderError) :
    ¬j.Fails (.chat p) e := by
  intro h
  cases h with
  | chat he =>
    rw [ha] at he
    cases he

theorem not_fails_of_not_early (hp : ∀ e, ¬j.FailsEarly p e) (e : ProviderError) :
    ¬j.Fails (.stream p) e := by
  intro h
  cases h with
  | stream he => exact hp e he

/-- The attempts so far have all failed, the last one with this error if there was any. -/
inductive Tried (j : Job) : List Event → Option ProviderError → Prop
  | nobody : Tried j [] none
  | failed {before : List Event} {call : Call} {e : ProviderError} :
    j.Fails call e → Tried j (before ++ [.called call]) (some e)

/-- What a report has its grounds in, once these attempts were made. -/
structure Grounds (j : Job) (attempts : List Event) (report : Except GatewayError α) : Prop where
  somebody : report ≠ .error .noProvidersRegistered
  selected : ∀ cause, report ≠ .error (.selection cause)
  all_failed : ∀ n e, report = .error (.allProvidersFailed n e) → ∃ before call,
    attempts = before ++ [.called call] ∧ n = before.length + 1 ∧ j.Fails call e
  served : ∀ a, report = .ok a → ∃ before call,
    attempts = before ++ [.called call] ∧ ∀ e, ¬j.Fails call e

variable {attempts before : List Event}

/-- When nobody is left all have failed, if there was anybody. -/
theorem Tried.grounds {e : ProviderError} (h : j.Tried attempts (some e)) :
    j.Grounds attempts
      (.error (.allProvidersFailed attempts.length e) : Except GatewayError α) := by
  cases h with
  | failed hfails =>
    refine ⟨by simp, by simp, fun n e' hreport => ?_, by simp⟩
    cases hreport
    exact ⟨_, _, rfl, List.length_append, hfails⟩

theorem grounds_of_served {call : Call} (hattempts : attempts = before ++ [.called call])
    (hcall : ∀ e, ¬j.Fails call e) (a : α) : j.Grounds attempts (.ok a) :=
  ⟨by simp, by simp, by simp, fun _ _ => ⟨before, call, hattempts, hcall⟩⟩

/-! ## Whole answers -/

/-- An attempt at a whole answer that has come to an end. -/
theorem attempts_tryOne {result : Except ProviderError ChatResponse}
    (h : (j.tryOne p).outcome = .finished result) :
    Mark.attempts (j.tryOne p).log = [.called (.chat p)] ∧
      (j.backends.chat p).answer = some result := by
  obtain ⟨hroom, ha⟩ := tryOne_eq_finished h
  obtain ⟨-, htrace⟩ := tryOne_of_room hroom ha
  rw [trace] at htrace
  exact ⟨by rw [Mark.attempts, htrace]; rfl, ha⟩

theorem attempt_grounds (ps : List Provider) {last : Option ProviderError} {h : List Mark}
    (ht : j.Tried (Mark.attempts h) last) (hne : last = none → ps ≠ []) :
    (j.attempt (Mark.attempts h).length last ps).Ensures (fun _ _ => True)
      (fun report s => j.Grounds (Mark.attempts s) report) h := by
  induction ps generalizing last h with
  | nil =>
    cases last with
    | none => exact absurd rfl (hne rfl)
    | some e => exact ht.grounds
  | cons p rest ih =>
    refine ⟨trivial, trivial, ?_⟩
    rw [ensures_bind]
    refine (j.quiet_tryOne p).ensures (fun _ _ _ => trivial) fun result hresult => ?_
    obtain ⟨hone, ha⟩ := attempts_tryOne hresult
    have hattempts : Mark.attempts (h ++ (j.tryOne p).log) =
        Mark.attempts h ++ [.called (.chat p)] := by rw [Mark.attempts_append, hone]
    cases result with
    | ok response => exact grounds_of_served hattempts (not_fails_of_answer ha) _
    | error e =>
      have hcount : (Mark.attempts h).length + 1 =
          (Mark.attempts (h ++ (j.tryOne p).log)).length := by
        rw [hattempts, List.length_append, List.length_singleton]
      simp only
      rw [hcount]
      exact ih (hattempts ▸ .failed (.chat ha)) (by simp)

/-! ## Streams -/

/-- An attempt that did not fail early ends the stream. -/
theorem afterRelay_grounds (attempts : Nat) (p : Provider) (rest : List Provider)
    {ending : RelayEnd} (hending : ∀ e, ending ≠ .failedEarly e) {h : List Mark}
    (served : j.Grounds (Mark.attempts h) (.ok () : Except GatewayError Unit)) :
    (j.afterRelay attempts p rest ending).Ensures (fun _ _ => True)
      (fun report s => j.Grounds (Mark.attempts s) report) h := by
  cases ending with
  | finished forwarded =>
    cases forwarded with
    | zero =>
      simp only [afterRelay, Ensures]
      split
      · exact ⟨by simp, by simp, by simp, by simp⟩
      · exact served
    | succ n => exact served
  | abandoned => exact served
  | failedLate e => exact ⟨by simp, by simp, by simp, by simp⟩
  | failedEarly e => exact absurd rfl (hending e)

theorem streamAttempt_grounds (ps : List Provider) {last : Option ProviderError} {h : List Mark}
    (ht : j.Tried (Mark.attempts h) last) (hne : last = none → ps ≠ []) :
    (j.streamAttempt (Mark.attempts h).length last ps).Ensures (fun _ _ => True)
      (fun report s => j.Grounds (Mark.attempts s) report) h := by
  induction ps generalizing last h with
  | nil =>
    cases last with
    | none => exact absurd rfl (hne rfl)
    | some e => exact ht.grounds
  | cons p rest ih =>
    rw [streamAttempt_cons, ensures_bind]
    by_cases hearly : ∃ e, j.FailsEarly p e
    · obtain ⟨e, he⟩ := hearly
      obtain ⟨hlog, hout⟩ := relayFrom_of_failsEarly he
      have hquiet : (j.relayFrom p).Quiet := quiet_of_output (by rw [output, hlog]; rfl)
      refine hquiet.ensures (fun _ _ _ => trivial) fun ending hending => ?_
      rw [hout] at hending
      cases hending
      rw [ensures_bind, hlog]
      refine j.sample_leaves p (fun _ => trivial) ?_
      have hattempts : Mark.attempts (h ++ [.seen (.called (.stream p))] ++
          [.seen (.sampled p.name (j.backends.elapsed p))]) =
            Mark.attempts h ++ [.called (.stream p)] := by
        rw [List.append_assoc, Mark.attempts_append]
        rfl
      have htried : j.Tried (Mark.attempts h ++ [.called (.stream p)]) (some e) :=
        .failed (.stream he)
      rw [← hattempts] at htried
      have hlater := ih htried (by simp)
      rw [hattempts, List.length_append] at hlater
      exact hlater
    · have hp : ∀ e, ¬j.FailsEarly p e := fun e he => hearly ⟨e, he⟩
      refine (j.relayFrom_keeps p h).mono (fun _ _ _ => trivial) fun ending s hkept => ?_
      obtain ⟨hs, hending⟩ := hkept
      rw [ensures_bind]
      refine j.sample_leaves p (fun _ => trivial) ?_
      have hattempts : Mark.attempts (s ++ [.seen (.sampled p.name (j.backends.elapsed p))]) =
          Mark.attempts h ++ [.called (.stream p)] := by
        rw [Mark.attempts_append, Mark.attempts_of_events hs, List.append_assoc]
        rfl
      exact afterRelay_grounds _ p rest (fun e he => hp e (hending e he))
        (grounds_of_served hattempts (not_fails_of_not_early hp) ())

theorem streamWhole_grounds (p : Provider) {h : List Mark} (hh : Mark.attempts h = []) :
    (j.streamWhole p).Ensures (fun _ _ => True)
      (fun report s => j.Grounds (Mark.attempts s) report) h := by
  rw [streamWhole, ensures_bind]
  refine (j.quiet_tryOne p).ensures (fun _ _ _ => trivial) fun result hresult => ?_
  obtain ⟨hone, ha⟩ := attempts_tryOne hresult
  have hattempts : Mark.attempts (h ++ (j.tryOne p).log) = [] ++ [.called (.chat p)] := by
    rw [Mark.attempts_append, hone, hh]
  cases result with
  | error e =>
    have hfailed : j.Tried ([] ++ [.called (.chat p)]) (some e) := .failed (.chat ha)
    change j.Grounds (Mark.attempts (h ++ (j.tryOne p).log)) (.error (.allProvidersFailed 1 e))
    rw [hattempts]
    exact hfailed.grounds
  | ok response =>
    have served (s : List Mark) (hs : Mark.attempts s = []) :
        j.Grounds (Mark.attempts (h ++ (j.tryOne p).log ++ s)) (.ok ()) := by
      have hsent : Mark.attempts (h ++ (j.tryOne p).log ++ s) = [] ++ [.called (.chat p)] := by
        rw [Mark.attempts_append, hattempts, hs, List.append_nil]
      exact grounds_of_served hsent (not_fails_of_answer ha) ()
    exact ⟨trivial, trivial, served _ rfl, served _ rfl⟩

/-! ## Nobody is asked along an empty plan -/

/-- With somebody to pick from a plan does not fail. -/
theorem plan_ne_error (hne : j.reads.selecting ≠ []) (e : GatewayError) :
    j.plan.outcome ≠ .finished (.error e) := by
  intro h
  rw [plan, if_neg (by simpa using hne)] at h
  obtain ⟨strategy, hs⟩ := j.exists_strategy
  rcases Strategy.select_of_ne_nil hne j.reads.signals j.reads.rotation strategy j.request with
    ⟨pick, hp⟩ | ⟨cause, hf⟩
  · rw [outcome_bind_of_finished (pick_of_select hs hp)] at h
    obtain ⟨available, -, h⟩ := outcome_bind_eq_finished h
    cases h
  · rw [(bind_of_faulted (pick_of_fault hs hf)).1] at h
    cases h

theorem plan_of_nil (hnil : j.reads.selecting = []) :
    j.plan = .done (.error .noProvidersRegistered) := by
  rw [plan, if_pos (by rw [hnil]; rfl)]

theorem tried_plan (j : Job) : j.Tried (Mark.attempts j.plan.log) none := by
  rw [j.prepares_plan.attempts]
  exact .nobody

theorem route_grounds (hne : j.reads.selecting ≠ []) :
    j.route.Ensures (fun _ _ => True) (fun report s => j.Grounds (Mark.attempts s) report) [] := by
  rw [route, ensures_bind]
  refine j.prepares_plan.quiet.shield.ensures (fun _ _ _ => trivial) fun result hresult => ?_
  rw [outcome_shield] at hresult
  rw [log_shield, List.nil_append]
  cases result with
  | error e => exact absurd hresult (plan_ne_error hne e)
  | ok cs =>
    have hattempt := attempt_grounds cs j.tried_plan fun _ => plan_ne_nil hresult
    rwa [j.prepares_plan.attempts] at hattempt

theorem stream_grounds (hne : j.reads.selecting ≠ []) :
    j.stream.Ensures (fun _ _ => True) (fun report s => j.Grounds (Mark.attempts s) report) [] := by
  refine ⟨trivial, fun _ => trivial, ?_⟩
  rw [ensures_bind]
  refine j.prepares_plan.quiet.ensures (fun _ _ _ => trivial) fun result hresult => ?_
  rw [List.nil_append]
  cases result with
  | error e => exact absurd hresult (plan_ne_error hne e)
  | ok cs =>
    have along (ps : List Provider) (hps : ps ≠ []) :
        (j.streamAttempt 0 none ps).Ensures (fun _ _ => True)
          (fun report s => j.Grounds (Mark.attempts s) report) j.plan.log := by
      have hattempt := streamAttempt_grounds ps j.tried_plan fun _ => hps
      rwa [j.prepares_plan.attempts] at hattempt
    obtain ⟨first, rest, rfl⟩ := List.exists_cons_of_ne_nil (plan_ne_nil hresult)
    simp only [streamAlong]
    split
    · exact streamWhole_grounds first j.prepares_plan.attempts
    · split
      · exact along [first] (by simp)
      · exact along (first :: rest) (by simp)

/-! ## Reports -/

/-- What can be said of what a request reports, if this is when there is nobody to ask. -/
structure Accounts (j : Job) (deserted : Prop) (m : Machine (Except GatewayError α)) : Prop where
  noProviders_iff : m.course = .done (.error .noProvidersRegistered) ↔ deserted
  /-- Nobody was called before that, provider, service or factory. -/
  untouched : m.course = .done (.error .noProvidersRegistered) → m.events = []
  selected : ∀ cause, m.course ≠ .done (.error (.selection cause))
  all_failed : ∀ n e, m.course = .done (.error (.allProvidersFailed n e)) → ∃ before call,
    m.events.filter Event.isAttempt = before ++ [.called call] ∧ n = before.length + 1 ∧
      j.Fails call e
  served : ∀ a, m.course = .done (.ok a) → ∃ before call,
    m.events.filter Event.isAttempt = before ++ [.called call] ∧ ∀ e, ¬j.Fails call e

theorem accounts_of_grounds {c : Course (Except GatewayError α)}
    (hc : c.Ensures (fun _ _ => True) (fun report s => j.Grounds (Mark.attempts s) report) [])
    {deserted : Prop} (hdeserted : ¬deserted) (capacity : Nat) (cancelled : Bool)
    (schedule : List Act) :
    j.Accounts deserted ((Machine.start c cancelled).run capacity schedule) := by
  obtain ⟨h, hb, hm⟩ := Machine.run_ensures hc capacity cancelled schedule
  have grounds {report : Except GatewayError α}
      (hdone : ((Machine.start c cancelled).run capacity schedule).course = .done report) :
      j.Grounds (((Machine.start c cancelled).run capacity schedule).events.filter Event.isAttempt)
        report := by
    rw [hdone] at hm
    rw [hb.events_eq]
    exact hm
  exact ⟨⟨fun hdone => absurd rfl (grounds hdone).somebody, fun hd => absurd hd hdeserted⟩,
    fun hdone => absurd rfl (grounds hdone).somebody,
    fun cause hdone => (grounds hdone).selected cause rfl,
    fun n e hdone => (grounds hdone).all_failed n e rfl,
    fun a hdone => (grounds hdone).served a rfl⟩

/-- Where there is nothing to do but to report that no provider is registered. -/
theorem accounts_of_deserted {c : Course (Except GatewayError α)} (hquiet : c.Quiet)
    (htrace : c.trace = []) (hout : c.outcome = .finished (.error .noProvidersRegistered))
    {capacity : Nat} {cancelled : Bool} {schedule : List Act} {deserted : Prop}
    (hdone : ((Machine.start c cancelled).run capacity schedule).course =
      .done (.error .noProvidersRegistered) ↔ deserted) :
    j.Accounts deserted ((Machine.start c cancelled).run capacity schedule) := by
  have hevents : ((Machine.start c cancelled).run capacity schedule).events = [] := by
    have h := Machine.events_prefix_trace capacity hquiet cancelled schedule
    rwa [htrace, List.prefix_nil] at h
  have only {report : Except GatewayError α}
      (hreport : ((Machine.start c cancelled).run capacity schedule).course = .done report) :
      report = .error .noProvidersRegistered := by
    obtain ⟨h, hf⟩ := Machine.run_follows_of_quiet capacity hquiet cancelled schedule
    rcases hf.ended (.finished report) (by rw [hreport]; rfl) with ⟨ho, -⟩ | ⟨hi, -⟩
    · rw [hout] at ho
      exact (Ending.finished.inj ho).symm
    · cases hi
  exact ⟨hdone, fun _ => hevents, fun cause h => (nomatch only h), fun n e h => (nomatch only h),
    fun a h => (nomatch only h)⟩

/-- **Every report has its grounds.** Whatever the schedule, whoever cancels the request and whether
or not its chunks are taken, it is reported that no provider is registered exactly if there was
nobody to pick from, and for a stream only once it has begun. No plan is empty. -/
theorem reports_have_grounds (j : Job) (capacity : Nat) (cancelled : Bool) (schedule : List Act) :
    (∀ cs, j.plan.outcome = .finished (.ok cs) → cs ≠ []) ∧
    j.Accounts (j.reads.selecting = [])
      ((Machine.start j.route cancelled).run capacity schedule) ∧
    j.Accounts (j.reads.selecting = [] ∧ Machine.Begun capacity j.stream cancelled schedule)
      ((Machine.start j.stream cancelled).run capacity schedule) := by
  refine ⟨fun cs => plan_ne_nil, ?_⟩
  by_cases hnil : j.reads.selecting = []
  · have hroute : j.route = .done (.error .noProvidersRegistered) := by
      rw [route, plan_of_nil hnil]
      rfl
    have hstream : j.stream = .pause false (.done (.error .noProvidersRegistered)) := by
      rw [stream, plan_of_nil hnil]
      rfl
    rw [hroute, hstream]
    constructor
    · refine accounts_of_deserted (c := .done _) trivial rfl rfl (iff_of_true ?_ hnil)
      exact Machine.run_course_of_over rfl schedule
    · refine accounts_of_deserted (c := .pause false (.done _)) trivial rfl rfl ?_
      rw [Machine.done_iff_begun, and_iff_right hnil]
  · exact ⟨accounts_of_grounds (route_grounds hnil) hnil capacity cancelled schedule,
      accounts_of_grounds (stream_grounds hnil) (fun h => hnil h.1) capacity cancelled schedule⟩

end Job

end ChatGateway
