import ChatGateway.Proofs.Gateway.StreamFailover

/-!
# Who is served

A request for a stream is served by the first provider of its plan whose stream brings something,
if those before it fail early and the first one of all streams; and nobody is said to have failed
that was not asked (`Job.stream_serves`). A first provider that does not stream is asked for a whole
answer (`Job.BringsWhole`), and then nobody else is asked for anything: a provider after it that
could answer is not tried (`second_is_not_tried`).
-/

namespace ChatGateway

open Course

namespace Job

variable {j : Job} {p : Provider}

/-! ## A whole answer -/

/-- Until there is an answer the chunk of it is not sent. -/
theorem streamWhole_ensures (hroom : j.reads.signals.latency.capacity ≤
      LatencyHistory.largestCapacity) (h : List Mark) :
    (j.streamWhole p).Ensures (fun _ _ => True)
      (fun report s => ∀ attempts e, report = .error (.allProvidersFailed attempts e) →
        attempts = 1 ∧ (j.backends.chat p).answer = some (.error e) ∧
          Mark.events s = Mark.events h ++ j.attemptEvents p) h := by
  rw [streamWhole, ensures_bind]
  refine (j.quiet_tryOne p).ensures (fun _ _ _ => trivial) fun result hr => ?_
  rcases j.tryOne_cases p with ⟨result', ha, ho⟩ | ho | ⟨cause, ho⟩
  · obtain rfl : result' = result := by
      rw [ho] at hr
      exact Ending.finished.inj hr
    obtain ⟨-, ht⟩ := tryOne_of_room hroom ha
    cases result' with
    | error e =>
      intro attempts e' he
      cases he
      refine ⟨rfl, ha, ?_⟩
      rw [Mark.events_append]
      exact congrArg _ ht
    | ok response => exact ⟨trivial, trivial, by simp, by simp⟩
  · rw [ho] at hr
    cases hr
  · rw [ho] at hr
    cases hr

/-- `BringsWhole p result chunks report`: of a whole answer these chunks are passed on and this is
reported. -/
inductive BringsWhole (p : Provider) :
    Except ProviderError ChatResponse → List StreamChunk → Except GatewayError Unit → Prop where
  | answered {r : ChatResponse} {c : StreamChunk} (passed : r.PassedOn p c) :
    BringsWhole p (.ok r) [c] (.ok ())
  | failed {e : ProviderError} : BringsWhole p (.error e) [] (.error (.allProvidersFailed 1 e))

theorem streamWhole_of_answer
    (hroom : j.reads.signals.latency.capacity ≤ LatencyHistory.largestCapacity)
    {result : Except ProviderError ChatResponse} (ha : (j.backends.chat p).answer = some result) :
    ∃ chunks report, BringsWhole p result chunks report ∧
      (j.streamWhole p).outcome = .finished report ∧
      (j.streamWhole p).trace = j.attemptEvents p ∧ (j.streamWhole p).output = chunks := by
  obtain ⟨ho, ht⟩ := tryOne_of_room hroom ha
  have hquiet := output_of_quiet (j.quiet_tryOne p)
  rw [output] at hquiet
  rw [trace] at ht
  rw [streamWhole, trace, output, outcome_bind_of_finished ho, log_bind_of_finished ho]
  cases result with
  | error e => exact ⟨_, _, .failed, rfl, by simp [ht], by simp [hquiet]⟩
  | ok r => exact ⟨_, _, .answered (r.passedOn_asChunk p), rfl, by simp [ht], by simp [hquiet]⟩

/-! ## The request -/

/-- All providers failed only if all were asked for a stream and failed early. -/
theorem all_asked_of_report {first : Provider} {rest : List Provider}
    (hplan : j.plan.outcome = .finished (.ok (first :: rest)))
    (hlocal : j.request.isLocalModel = false)
    (hs : first.streaming = true) {capacity : Nat} {cancelled : Bool} {schedule : List Act}
    {attempts : Nat} {e : ProviderError}
    (hr : ((Machine.start j.stream cancelled).run capacity schedule).course =
      .done (.error (.allProvidersFailed attempts e))) :
    ((Machine.start j.stream cancelled).run capacity schedule).events =
        j.plan.trace ++ (first :: rest).flatMap j.streamEvents ∧
      attempts = (first :: rest).length ∧ (∀ p ∈ first :: rest, ∃ e, j.FailsEarly p e) ∧
      ∃ p, (first :: rest).getLast? = some p ∧ j.FailsEarly p e := by
  have hcandidates : j.candidates first rest = first :: rest := by
    rw [candidates, if_neg (by simp [hlocal])]
  obtain ⟨asked, error?, ha⟩ := j.exists_asks (List.cons_ne_nil first rest)
  rw [← hcandidates] at ha
  have hkeeps := run_keepsOrder hplan hs ha capacity cancelled schedule
  obtain ⟨rfl, rfl⟩ := hkeeps.all_failed attempts e hr
  rw [hcandidates] at ha
  obtain ⟨rfl, hall, hlast⟩ := ha.all_early
  exact ⟨hkeeps.sampled _ hr, rfl, hall, hlast⟩

section Plan

variable {first : Provider} {rest : List Provider}
  (hplan : j.plan.outcome = .finished (.ok (first :: rest)))
  (hroom : j.reads.signals.latency.capacity ≤ LatencyHistory.largestCapacity)
include hplan hroom

/-- Of several providers that stream the first one brings its stream that does not fail early. -/
theorem stream_delivers_of_failing (hlocal : j.request.isLocalModel = false)
    (hs : first.streaming = true) {failing later : List Provider}
    (hcs : first :: rest = failing ++ p :: later) (hf : ∀ q ∈ failing, ∃ e, j.FailsEarly q e)
    {items : List (Reply Delivery)} (ho : j.Opens p items) (hne : streamChunks items ≠ []) :
    j.stream.Delivers (j.plan.trace ++ (failing.flatMap j.streamEvents ++ j.eventsOf p items))
      (relayed p items) (j.endingOf p items) := by
  have hp : ∀ e, ¬j.FailsEarly p e := fun e he => hne ((failsEarly_iff_of_opens ho).1 he).1
  have hcandidates : j.candidates first rest = failing ++ p :: later := by
    rw [candidates, if_neg (by simp [hlocal]), hcs]
  have ha : j.Asks (j.candidates first rest) (failing ++ [p]) none := by
    rw [hcandidates]
    exact Asks.append_left hf (.held hp)
  have hdelivers := stream_delivers_of_held hplan hs ha hroom (by simp) hp ho
  rwa [List.dropLast_concat] at hdelivers

/-- A first provider that does not stream is asked for a whole answer. -/
theorem stream_delivers_whole (hs : first.streaming = false)
    {result : Except ProviderError ChatResponse}
    (ha : (j.backends.chat first).answer = some result) :
    ∃ chunks report, BringsWhole first result chunks report ∧
      j.stream.Delivers (j.plan.trace ++ j.attemptEvents first) chunks (.finished report) := by
  obtain ⟨hout, htrace, houtput⟩ := stream_of_plan hplan
  obtain ⟨chunks, report, hbrings, ho, ht, hc⟩ := streamWhole_of_answer hroom ha
  rw [streamAlong, if_pos hs] at hout htrace houtput
  have hdelivers := j.stream.delivers
  rw [hout, ho, htrace, ht, houtput, hc] at hdelivers
  exact ⟨chunks, report, hbrings, hdelivers⟩

/-- Then the report that all providers failed says that it failed, and that nobody else was
asked. -/
theorem first_asked_of_report (hs : first.streaming = false) {capacity : Nat} {cancelled : Bool}
    {schedule : List Act} {attempts : Nat} {e : ProviderError}
    (hr : ((Machine.start j.stream cancelled).run capacity schedule).course =
      .done (.error (.allProvidersFailed attempts e))) :
    ((Machine.start j.stream cancelled).run capacity schedule).events =
        j.plan.trace ++ j.attemptEvents first ∧
      attempts = 1 ∧ (j.backends.chat first).answer = some (.error e) := by
  have hkeeps : j.stream.Ensures (fun _ _ => True)
      (fun report s => ∀ attempts e, report = .error (.allProvidersFailed attempts e) →
        attempts = 1 ∧ (j.backends.chat first).answer = some (.error e) ∧
          Mark.events s = j.plan.trace ++ j.attemptEvents first) [] := by
    refine stream_ensures_of_plan hplan (fun _ _ _ _ => trivial) fun h hevents _ => ?_
    rw [streamAlong, if_pos hs, ← hevents]
    exact streamWhole_ensures hroom h
  obtain ⟨h, hb, hm⟩ := Machine.run_ensures hkeeps capacity cancelled schedule
  rw [hr] at hm
  obtain ⟨hattempts, ha, hevents⟩ := hm attempts e rfl
  exact ⟨by rw [hb.events_eq, hevents], hattempts, ha⟩

end Plan

/-- **Whoever comes first is served.** If the first provider of the plan streams, a receiver that
stays gets the stream of the first provider that brings something, as long as those before it fail
early; and if the request reports that all providers failed, all of them were asked for a stream and
failed early. If the first provider does not stream, the request comes to what becomes of asking it
for a whole answer; nobody else is asked then, and a report that all providers failed speaks of the
first one only. -/
theorem stream_serves {first : Provider} {rest : List Provider}
    (hplan : j.plan.outcome = .finished (.ok (first :: rest)))
    (hlocal : j.request.isLocalModel = false)
    (hroom : j.reads.signals.latency.capacity ≤ LatencyHistory.largestCapacity) :
    (first.streaming = true →
      (∀ failing p later items, first :: rest = failing ++ p :: later →
        (∀ q ∈ failing, ∃ e, j.FailsEarly q e) → j.Opens p items → streamChunks items ≠ [] →
          Passes p items (relayed p items) ∧
            j.stream.Delivers
              (j.plan.trace ++ (failing.flatMap j.streamEvents ++ j.eventsOf p items))
              (relayed p items) (j.endingOf p items)) ∧
      ∀ capacity cancelled schedule attempts e,
        ((Machine.start j.stream cancelled).run capacity schedule).course =
            .done (.error (.allProvidersFailed attempts e)) →
          ((Machine.start j.stream cancelled).run capacity schedule).events =
              j.plan.trace ++ (first :: rest).flatMap j.streamEvents ∧
            attempts = (first :: rest).length ∧ (∀ p ∈ first :: rest, ∃ e, j.FailsEarly p e) ∧
            ∃ p, (first :: rest).getLast? = some p ∧ j.FailsEarly p e) ∧
    (first.streaming = false →
      (∀ result, (j.backends.chat first).answer = some result →
        ∃ chunks report, BringsWhole first result chunks report ∧
          j.stream.Delivers (j.plan.trace ++ j.attemptEvents first) chunks
            (.finished report)) ∧
      ∀ capacity cancelled schedule attempts e,
        ((Machine.start j.stream cancelled).run capacity schedule).course =
            .done (.error (.allProvidersFailed attempts e)) →
          ((Machine.start j.stream cancelled).run capacity schedule).events =
              j.plan.trace ++ j.attemptEvents first ∧
            attempts = 1 ∧ (j.backends.chat first).answer = some (.error e)) := by
  refine ⟨fun hs => ⟨fun failing p later items hcs hf ho hne => ?_, ?_⟩,
    fun hs => ⟨fun result ha => ?_, ?_⟩⟩
  · exact ⟨passes_relayed p hne, stream_delivers_of_failing hplan hroom hlocal hs hcs hf ho hne⟩
  · exact fun _ _ _ _ _ hr => all_asked_of_report hplan hlocal hs hr
  · exact stream_delivers_whole hplan hroom hs ha
  · exact fun _ _ _ _ _ hr => first_asked_of_report hplan hroom hs hr

/-! ## A provider that is passed over, and one that is not tried -/

/-- By the call that it supports, the provider fails before it brings anything. -/
def FailsByItsCall (j : Job) (p : Provider) : Prop :=
  if p.streaming then ∃ e, j.FailsEarly p e else ∃ e, (j.backends.chat p).answer = some (.error e)

/-- By the call that it supports, the provider brings these chunks. -/
def BringsByItsCall (j : Job) (p : Provider) (chunks : List StreamChunk) : Prop :=
  if p.streaming then ∃ items, j.Opens p items ∧ streamChunks items ≠ [] ∧ Passes p items chunks
  else ∃ r, (j.backends.chat p).answer = some (.ok r) ∧ BringsWhole p (.ok r) chunks (.ok ())

end Job

/-- One that refuses its streams, one that has none, and one that brings text. -/
def mixedProviders : List Provider :=
  [streamingProvider "muted" 0, ⟨{ name := "plain", models := [] }, .server 1⟩,
    streamingProvider "sound" 2]

/-- A request along these. -/
def mixedJob : Job :=
  { mutedJob 100 with
    reads := { (mutedJob 100).reads with selecting := mixedProviders, probing := mixedProviders } }

theorem plain_is_passed_over :
    mixedJob.plan.outcome = .finished (.ok mixedProviders) ∧
      mixedJob.request.isLocalModel = false ∧
      mixedJob.reads.signals.latency.capacity ≤ LatencyHistory.largestCapacity ∧
      mixedJob.stream.Delivers (mixedJob.plan.trace ++ mixedProviders.flatMap mixedJob.streamEvents)
        (relayed (streamingProvider "sound" 2) soundItems) (.finished (.ok ())) := by
  have hplan : mixedJob.plan.outcome = .finished (.ok mixedProviders) := rfl
  have hlocal : mixedJob.request.isLocalModel = false := by decide
  have hroom : mixedJob.reads.signals.latency.capacity ≤ LatencyHistory.largestCapacity := by
    decide
  have hf : ∀ q ∈ mixedProviders.take 2, ∃ e, mixedJob.FailsEarly q e :=
    List.forall_mem_cons.2
      ⟨⟨_, .refused rfl rfl⟩, List.forall_mem_singleton.2 ⟨_, .unsupported rfl⟩⟩
  obtain ⟨hstream, -⟩ := Job.stream_serves hplan hlocal hroom
  refine ⟨hplan, hlocal, hroom, ?_⟩
  exact ((hstream rfl).1 (mixedProviders.take 2) _ [] soundItems rfl hf ⟨rfl, rfl⟩ (by decide)).2

/-- **Not everybody is tried**: a provider that could answer is not asked after a first one that
does not stream. -/
theorem second_is_not_tried :
    ¬∀ (j : Job) (failing : List Provider) (p : Provider) (later : List Provider)
        (chunks : List StreamChunk),
      j.plan.outcome = .finished (.ok (failing ++ p :: later)) →
      j.request.isLocalModel = false →
      j.reads.signals.latency.capacity ≤ LatencyHistory.largestCapacity →
      (∀ q ∈ failing, j.FailsByItsCall q) → j.BringsByItsCall p chunks →
      ∃ events ending, j.stream.Delivers events chunks ending := by
  intro h
  have hfails : ∀ q ∈ brokenFirst.take 1, (brokenJob 100).FailsByItsCall q :=
    List.forall_mem_singleton.2 ⟨_, rfl⟩
  obtain ⟨events, ending, enough, hd⟩ := h (brokenJob 100) (brokenFirst.take 1) brokenFirst[1] []
    [(ChatResponse.ofText "id" "model" "sound" {}).asChunk brokenFirst[1]] rfl (by decide)
    (by decide) hfails ⟨_, rfl, .answered (ChatResponse.passedOn_asChunk _ _)⟩
  have hrun : (Machine.start (brokenJob 100).stream).run 1
      (List.replicate 20 .work ++ (List.replicate enough [Act.receive, .work]).flatten) =
        (Machine.start (brokenJob 100).stream).run 1 (List.replicate 20 .work) := by
    rw [Machine.run_append, Machine.run_rounds_of_over rfl rfl]
  have hdrop : Act.drop ∉
      List.replicate 20 .work ++ (List.replicate enough [Act.receive, .work]).flatten := by
    simp [List.mem_flatten, List.mem_replicate]
  obtain ⟨-, -, hlate⟩ := hd 1 _ Nat.one_pos hdrop (by rw [hrun]; rfl)
  obtain ⟨-, hreceived, -⟩ := hlate (List.sublist_append_right _ _)
  rw [hrun] at hreceived
  cases hreceived

end ChatGateway
