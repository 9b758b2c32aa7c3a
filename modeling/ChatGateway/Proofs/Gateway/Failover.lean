import ChatGateway.Gateway.State
import ChatGateway.Proofs.Course.Following
import ChatGateway.Proofs.Gateway.Attempts

/-!
# Failover

The providers of a plan are asked in order until one answers, and every attempt leaves one sample
(`Job.route_settles`). Where no window can be made for samples the first attempt stops the request
with a fault, whatever was answered.
-/

namespace ChatGateway

open Course

/-- The events of an attempt at a whole answer. -/
def Job.attemptEvents (j : Job) (p : Provider) : List Event :=
  [.called (.chat p), .sampled p.name (j.backends.elapsed p)]

/-! ## Samples -/

namespace Gateway

theorem absorb_append (g : Gateway) (es fs : List Event) :
    g.absorb (es ++ fs) = (g.absorb es).absorb fs :=
  List.foldl_append

/-- Making a plan leaves no sample. -/
theorem latency_absorb_of_prepares {es : List Event} (h : ∀ e ∈ es, e.prepares = true)
    (g : Gateway) : (g.absorb es).signals = g.signals := by
  induction es generalizing g with
  | nil => rfl
  | cons e es ih =>
    obtain ⟨he, hes⟩ := List.forall_mem_cons.1 h
    have hone : (g.absorbOne e).signals = g.signals := by
      cases e with
      | sampled provider elapsed => cases he
      | _ => rfl
    exact (ih hes (g.absorbOne e)).trans hone

/-- Every call of an attempt is followed by its sample. -/
theorem latency_absorb_calls (call : Provider → Call) (elapsed : Provider → Duration)
    (ps : List Provider) (g : Gateway) :
    (g.absorb (ps.flatMap fun p =>
        [.called (call p), .sampled p.name (elapsed p)])).signals.latency =
      ps.foldl (fun h p => h.push p.name (elapsed p)) g.signals.latency := by
  induction ps generalizing g with
  | nil => rfl
  | cons p ps ih =>
    rw [List.flatMap_cons, absorb_append, ih]
    rfl

/-- Every attempt leaves its sample. -/
theorem latency_absorb_attempts (j : Job) (ps : List Provider) (g : Gateway) :
    (g.absorb (ps.flatMap j.attemptEvents)).signals.latency =
      ps.foldl (fun h p => h.push p.name (j.backends.elapsed p)) g.signals.latency :=
  latency_absorb_calls .chat j.backends.elapsed ps g

end Gateway

namespace Job

variable {j : Job} {p : Provider}

theorem quiet_attempt (j : Job) (attempts : Nat) (last : Option ProviderError)
    (ps : List Provider) : (j.attempt attempts last ps).Quiet := by
  induction ps generalizing attempts last with
  | nil => trivial
  | cons p rest ih =>
    refine (j.quiet_tryOne p).bind fun result => ?_
    cases result with
    | ok response => trivial
    | error e => exact ih (attempts + 1) (some e)

theorem quiet_route (j : Job) : j.route.Quiet := by
  refine j.prepares_plan.quiet.shield.bind fun result => ?_
  cases result with
  | error e => trivial
  | ok cs => exact j.quiet_attempt 0 none cs

/-! ## One attempt -/

section Room

variable (hroom : j.reads.signals.latency.capacity ≤ LatencyHistory.largestCapacity)
include hroom

theorem sample_of_room (p : Provider) :
    (j.sample p).outcome = .finished () ∧
      (j.sample p).trace = [.sampled p.name (j.backends.elapsed p)] := by
  unfold sample
  rw [LatencyHistory.ensureRoom_of_le hroom]
  exact ⟨rfl, rfl⟩

theorem tryOne_of_room {result : Except ProviderError ChatResponse}
    (ha : (j.backends.chat p).answer = some result) :
    (j.tryOne p).outcome = .finished result ∧ (j.tryOne p).trace = j.attemptEvents p := by
  obtain ⟨hs, ht⟩ := sample_of_room hroom p
  have hcall : (j.backends.callChat p).outcome = .finished result := by
    rw [Backends.callChat, outcome, outcome_await, ha]
    rfl
  have htrace : (j.backends.callChat p).trace = [.called (.chat p)] := by
    rw [Backends.callChat, trace, log, log_await]
    rfl
  unfold tryOne
  constructor
  · rw [outcome_bind_of_finished hcall, outcome_bind_of_finished hs]
    rfl
  · rw [trace_bind_of_finished hcall, trace_bind_of_finished hs, htrace, ht]
    rfl

theorem attempt_of_ok {response : ChatResponse}
    (ha : (j.backends.chat p).answer = some (.ok response)) (attempts : Nat)
    (last : Option ProviderError) (rest : List Provider) :
    (j.attempt attempts last (p :: rest)).outcome = .finished (.ok (j.annotate p response)) ∧
      (j.attempt attempts last (p :: rest)).trace = j.attemptEvents p := by
  obtain ⟨ho, ht⟩ := tryOne_of_room hroom ha
  constructor
  · exact outcome_bind_of_finished ho
  · exact (trace_bind_of_finished ho).trans (by rw [ht]; rfl)

theorem attempt_of_error {e : ProviderError}
    (ha : (j.backends.chat p).answer = some (.error e)) (attempts : Nat)
    (last : Option ProviderError) (rest : List Provider) :
    (j.attempt attempts last (p :: rest)).outcome =
        (j.attempt (attempts + 1) (some e) rest).outcome ∧
      (j.attempt attempts last (p :: rest)).trace =
        j.attemptEvents p ++ (j.attempt (attempts + 1) (some e) rest).trace := by
  obtain ⟨ho, ht⟩ := tryOne_of_room hroom ha
  constructor
  · exact outcome_bind_of_finished ho
  · exact (trace_bind_of_finished ho).trans (by rw [ht])

/-! ## All attempts -/

/-- The first provider that answers is the last one asked. -/
theorem attempt_of_first_ok {failing : List Provider} {response : ChatResponse}
    (hf : ∀ q ∈ failing, ∃ e, (j.backends.chat q).answer = some (.error e))
    (ha : (j.backends.chat p).answer = some (.ok response)) (rest : List Provider)
    (attempts : Nat) (last : Option ProviderError) :
    (j.attempt attempts last (failing ++ p :: rest)).outcome =
        .finished (.ok (j.annotate p response)) ∧
      (j.attempt attempts last (failing ++ p :: rest)).trace =
        (failing ++ [p]).flatMap j.attemptEvents := by
  induction failing generalizing attempts last with
  | nil => simpa using attempt_of_ok hroom ha attempts last rest
  | cons q failing ih =>
    obtain ⟨⟨e, hq⟩, hf⟩ := List.forall_mem_cons.1 hf
    obtain ⟨ho, ht⟩ := attempt_of_error hroom hq attempts last (failing ++ p :: rest)
    obtain ⟨ho', ht'⟩ := ih hf (attempts + 1) (some e)
    exact ⟨ho.trans ho', ht.trans (by rw [ht']; rfl)⟩

/-- When all fail, the last error is reported. -/
theorem attempt_of_all_error {failing : List Provider} {e : ProviderError}
    (hf : ∀ q ∈ failing, ∃ e, (j.backends.chat q).answer = some (.error e))
    (ha : (j.backends.chat p).answer = some (.error e)) (attempts : Nat)
    (last : Option ProviderError) :
    (j.attempt attempts last (failing ++ [p])).outcome =
        .finished (.error (.allProvidersFailed (attempts + (failing ++ [p]).length) e)) ∧
      (j.attempt attempts last (failing ++ [p])).trace =
        (failing ++ [p]).flatMap j.attemptEvents := by
  induction failing generalizing attempts last with
  | nil =>
    obtain ⟨ho, ht⟩ := attempt_of_error hroom ha attempts last []
    exact ⟨ho, ht⟩
  | cons q failing ih =>
    obtain ⟨⟨e', hq⟩, hf⟩ := List.forall_mem_cons.1 hf
    obtain ⟨ho, ht⟩ := attempt_of_error hroom hq attempts last (failing ++ [p])
    obtain ⟨ho', ht'⟩ := ih hf (attempts + 1) (some e')
    refine ⟨ho.trans (ho'.trans ?_), ht.trans (by rw [ht']; rfl)⟩
    have hcount : attempts + 1 + (failing ++ [p]).length =
        attempts + (q :: failing ++ [p]).length := by
      simp only [List.cons_append, List.length_cons]
      omega
    rw [hcount]

end Room

/-- Where no window can be made, the first attempt is the last. -/
theorem attempt_of_no_room (hroom : LatencyHistory.largestCapacity <
      j.reads.signals.latency.capacity) {result : Except ProviderError ChatResponse}
    (ha : (j.backends.chat p).answer = some result) (attempts : Nat)
    (last : Option ProviderError) (rest : List Provider) :
    (j.attempt attempts last (p :: rest)).outcome = .faulted .windowTooLarge ∧
      (j.attempt attempts last (p :: rest)).trace = [.called (.chat p)] := by
  have hcall : (j.tryOne p).outcome = .faulted .windowTooLarge ∧
      (j.tryOne p).log = [.seen (.called (.chat p))] := by
    unfold tryOne sample
    rw [LatencyHistory.ensureRoom_of_lt hroom]
    simp only [outcome_bind, log_bind, Backends.callChat, outcome, log, log_await, outcome_await,
      ha]
    exact ⟨rfl, rfl⟩
  have ho : (j.attempt attempts last (p :: rest)).outcome = .faulted .windowTooLarge :=
    (bind_of_faulted hcall.1).1
  have hl : (j.attempt attempts last (p :: rest)).log = (j.tryOne p).log :=
    (bind_of_faulted hcall.1).2
  exact ⟨ho, by rw [trace, hl, hcall.2]; rfl⟩

/-! ## The request -/

/-- `j.FailsOver answer cs attempted result`: with these answers of the providers, this is who is
asked along the plan `cs`, and what comes of it. -/
inductive FailsOver (j : Job) (answer : Provider → Except ProviderError ChatResponse) :
    List Provider → List Provider → Except GatewayError ChatResponse → Prop
  | answered {failing rest : List Provider} {p : Provider} {response : ChatResponse} :
    (∀ q ∈ failing, ∃ e, answer q = .error e) → answer p = .ok response →
    FailsOver j answer (failing ++ p :: rest) (failing ++ [p]) (.ok (j.annotate p response))
  | exhausted {failing : List Provider} {p : Provider} {e : ProviderError} :
    (∀ q ∈ failing, ∃ e, answer q = .error e) → answer p = .error e →
    FailsOver j answer (failing ++ [p]) (failing ++ [p])
      (.error (.allProvidersFailed (failing ++ [p]).length e))

variable {answer : Provider → Except ProviderError ChatResponse} {cs : List Provider}

theorem exists_error_of_not_isOk {r : Except ProviderError ChatResponse} (h : ¬r.isOk = true) :
    ∃ e, r = .error e := by
  cases r with
  | error e => exact ⟨e, rfl⟩
  | ok response => exact absurd rfl h

/-- Whatever the answers, something comes of a plan. -/
theorem exists_failsOver (j : Job) (answer : Provider → Except ProviderError ChatResponse)
    (hne : cs ≠ []) : ∃ attempted result, j.FailsOver answer cs attempted result := by
  cases hfind : cs.find? fun p => (answer p).isOk with
  | some p =>
    obtain ⟨hp, failing, rest, rfl, hf⟩ := List.find?_eq_some_iff_append.1 hfind
    have herror : ∀ q ∈ failing, ∃ e, answer q = .error e := fun q hq =>
      exists_error_of_not_isOk (by simpa using hf q hq)
    cases ha : answer p with
    | error e =>
      rw [ha] at hp
      cases hp
    | ok response => exact ⟨_, _, .answered herror ha⟩
  | none =>
    have herror : ∀ q ∈ cs, ∃ e, answer q = .error e := fun q hq =>
      exists_error_of_not_isOk (List.find?_eq_none.1 hfind q hq)
    obtain ⟨e, he⟩ := herror (cs.getLast hne) (List.getLast_mem hne)
    rw [← List.dropLast_concat_getLast hne]
    exact ⟨_, _, .exhausted (fun q hq => herror q (List.dropLast_subset cs hq)) he⟩

theorem FailsOver.isOk_iff {attempted : List Provider} {result : Except GatewayError ChatResponse}
    (h : j.FailsOver answer cs attempted result) :
    (∃ r, result = .ok r) ↔ ∃ p ∈ cs, ∃ r, answer p = .ok r := by
  cases h with
  | @answered failing rest p response hf ha =>
    exact ⟨fun _ => ⟨p, by simp, response, ha⟩, fun _ => ⟨_, rfl⟩⟩
  | @exhausted failing p e hf ha =>
    refine ⟨fun ⟨_, hr⟩ => (nomatch hr), fun ⟨q, hq, r, hr⟩ => ?_⟩
    rcases List.mem_append.1 hq with hq | hq
    · obtain ⟨e', he⟩ := hf q hq
      rw [hr] at he
      cases he
    · rw [List.mem_singleton.1 hq, ha] at hr
      cases hr

theorem FailsOver.provider_eq {attempted : List Provider} {r : ChatResponse}
    (h : j.FailsOver answer cs attempted (.ok r)) :
    r.provider = attempted.getLast?.map (·.name) := by
  cases h
  simp [annotate]

/-- A plan is gone along as its answers say. -/
theorem attempt_of_failsOver {attempted : List Provider}
    {result : Except GatewayError ChatResponse}
    (hroom : j.reads.signals.latency.capacity ≤ LatencyHistory.largestCapacity)
    (ha : ∀ p ∈ cs, (j.backends.chat p).answer = some (answer p))
    (h : j.FailsOver answer cs attempted result) :
    (j.attempt 0 none cs).outcome = .finished result ∧
      (j.attempt 0 none cs).trace = attempted.flatMap j.attemptEvents := by
  have failed : ∀ failing : List Provider, (∀ q ∈ failing, q ∈ cs) →
      (∀ q ∈ failing, ∃ e, answer q = .error e) →
      ∀ q ∈ failing, ∃ e, (j.backends.chat q).answer = some (.error e) := by
    intro failing hsub hf q hq
    obtain ⟨e, he⟩ := hf q hq
    exact ⟨e, by rw [ha q (hsub q hq), he]⟩
  cases h with
  | @answered failing rest p response hf hp =>
    have hpick : (j.backends.chat p).answer = some (.ok response) := by rw [ha p (by simp), hp]
    exact attempt_of_first_ok hroom (failed failing (by simp_all) hf) hpick rest 0 none
  | @exhausted failing p e hf hp =>
    have hlast : (j.backends.chat p).answer = some (.error e) := by rw [ha p (by simp), hp]
    simpa using attempt_of_all_error hroom (failed failing (by simp_all) hf) hlast 0 none

theorem route_of_plan (hplan : j.plan.outcome = .finished (.ok cs)) :
    j.route.outcome = (j.attempt 0 none cs).outcome ∧
      j.route.trace = j.plan.trace ++ (j.attempt 0 none cs).trace := by
  have hshield : j.plan.shield.outcome = .finished (.ok cs) := by rw [outcome_shield, hplan]
  exact ⟨outcome_bind_of_finished hshield,
    (trace_bind_of_finished hshield).trans (by rw [trace_shield])⟩

/-- **Failover is exact.** Unless it is cancelled, a request asks the providers of its plan in order
until one answers; it ends with that answer, or with the error of the last provider if there is
none. Every attempt leaves its sample before the next one begins. Where no window can be made for
samples, the first attempt ends in a fault. -/
theorem route_settles (hplan : j.plan.outcome = .finished (.ok cs)) (hne : cs ≠ [])
    (ha : ∀ p ∈ cs, (j.backends.chat p).answer = some (answer p)) :
    (∀ e ∈ j.plan.trace, e.prepares = true) ∧
    (j.reads.signals.latency.capacity ≤ LatencyHistory.largestCapacity →
      ∃ attempted result, j.FailsOver answer cs attempted result ∧
        j.route.Settles (j.plan.trace ++ attempted.flatMap j.attemptEvents) (.finished result) ∧
        ((∃ r, result = .ok r) ↔ ∃ p ∈ cs, ∃ r, answer p = .ok r) ∧
        (∀ r, result = .ok r → r.provider = attempted.getLast?.map (·.name)) ∧
        ∀ g : Gateway,
          (g.absorb (j.plan.trace ++ attempted.flatMap j.attemptEvents)).signals.latency =
            attempted.foldl (fun h p => h.push p.name (j.backends.elapsed p)) g.signals.latency) ∧
    (LatencyHistory.largestCapacity < j.reads.signals.latency.capacity →
      j.route.Settles (j.plan.trace ++ [.called (.chat (cs.head hne))])
        (.faulted .windowTooLarge)) := by
  have hsettles := j.quiet_route.settles
  obtain ⟨ho, ht⟩ := route_of_plan hplan
  refine ⟨j.prepares_plan.events, fun hroom => ?_, fun hroom => ?_⟩
  · obtain ⟨attempted, result, hover⟩ := exists_failsOver j answer hne
    obtain ⟨ho', ht'⟩ := attempt_of_failsOver hroom ha hover
    refine ⟨attempted, result, hover, ?_, hover.isOk_iff, ?_, fun g => ?_⟩
    · rwa [ho, ht, ho', ht'] at hsettles
    · rintro r rfl
      exact hover.provider_eq
    · rw [Gateway.absorb_append, Gateway.latency_absorb_attempts,
        Gateway.latency_absorb_of_prepares j.prepares_plan.events]
  · obtain ⟨p, rest, rfl⟩ := List.exists_cons_of_ne_nil hne
    obtain ⟨ho', ht'⟩ := attempt_of_no_room hroom (ha p List.mem_cons_self) 0 none rest
    rwa [ho, ht, ho', ht'] at hsettles

end Job

/-! ## Two providers of which one is broken -/

/-- What a provider answers when one of them is broken. -/
def brokenAnswer (p : Provider) : Except ProviderError ChatResponse :=
  if p.name = "broken" then .error (.remote "down") else .ok (.ofText "id" "model" p.name {})

/-- The providers that are registered. -/
def brokenFirst : List Provider :=
  [⟨{ name := "broken", models := [] }, .server 0⟩, ⟨{ name := "sound", models := [] }, .server 1⟩]

/-- A request that the broken provider is picked for. -/
def brokenJob (latencyCapacity : Nat) : Job where
  settings :=
    { probes := [], bufferCapacity := 1, emptyStreamIsError := true, strictSelection := false }
  services := {}
  backends :=
    { health := fun _ => .now (.ok ())
      chat := fun p => .now (brokenAnswer p)
      stream := fun _ => .now (.ok [])
      elapsed := fun _ => .oneSecond }
  reads :=
    { selecting := brokenFirst, kind := .balanced, rules := none
      signals := ⟨[], ⟨latencyCapacity, []⟩⟩, rotation := {}, probing := brokenFirst
      billing := [] }
  caller := none
  request := { model := "model", messages := [] }

theorem broken_is_passed_over :
    (brokenJob 100).plan.outcome = .finished (.ok brokenFirst) ∧ brokenFirst ≠ [] ∧
      (∀ p ∈ brokenFirst, ((brokenJob 100).backends.chat p).answer = some (brokenAnswer p)) ∧
      ∃ attempted result, (brokenJob 100).FailsOver brokenAnswer brokenFirst attempted result ∧
        (brokenJob 100).route.Settles
          ((brokenJob 100).plan.trace ++ attempted.flatMap (brokenJob 100).attemptEvents)
          (.finished result) ∧
        ∃ r, result = .ok r := by
  have hplan : (brokenJob 100).plan.outcome = .finished (.ok brokenFirst) := rfl
  have hne : brokenFirst ≠ [] := by decide
  have ha : ∀ p ∈ brokenFirst, ((brokenJob 100).backends.chat p).answer = some (brokenAnswer p) :=
    fun _ _ => rfl
  obtain ⟨-, hroom, -⟩ := Job.route_settles hplan hne ha
  obtain ⟨attempted, result, hover, hs, hok, -⟩ := hroom (by decide)
  exact ⟨hplan, hne, ha, attempted, result, hover, hs, hok.2 ⟨_, .tail _ (.head _), _, rfl⟩⟩

/-- **Failover is not exact without room for samples**: then the request does not come to an answer
or an error. -/
theorem no_failover_without_room :
    ¬∀ (j : Job) (cs : List Provider) (answer : Provider → Except ProviderError ChatResponse),
      j.plan.outcome = .finished (.ok cs) → cs ≠ [] →
      (∀ p ∈ cs, (j.backends.chat p).answer = some (answer p)) →
      ∃ attempted result, j.FailsOver answer cs attempted result ∧
        j.route.Settles (j.plan.trace ++ attempted.flatMap j.attemptEvents)
          (.finished result) := by
  intro h
  obtain ⟨attempted, result, -, enough, hs⟩ :=
    h (brokenJob (2 ^ 59)) brokenFirst brokenAnswer rfl (by decide) fun _ _ => rfl
  have hover : ((Machine.start (brokenJob (2 ^ 59)).route).run 1
      (List.replicate 20 .work)).course = .fault .windowTooLarge := rfl
  have hrun : (Machine.start (brokenJob (2 ^ 59)).route).run 1
      (List.replicate 20 .work ++ List.replicate enough .work) =
        (Machine.start (brokenJob (2 ^ 59)).route).run 1 (List.replicate 20 .work) := by
    rw [Machine.run_append, Machine.run_of_over (by rw [hover]; rfl)]
  obtain ⟨-, hend⟩ := hs 1 (List.replicate 20 .work ++ List.replicate enough .work)
    (by rw [hrun]; rfl)
  have hcount : enough ≤
      (List.replicate 20 Act.work ++ List.replicate enough Act.work).count Act.work := by
    rw [List.count_append, List.count_replicate_self, List.count_replicate_self]
    omega
  obtain ⟨-, hend⟩ := hend hcount
  rw [hrun, hover] at hend
  cases hend

end ChatGateway
