import ChatGateway.Proofs.Gateway.Interruption
import ChatGateway.Proofs.Gateway.Succession

/-!
# What a request is answered with

A request is answered when an attempt succeeds, and only then, whatever the schedule and wherever
the request is cancelled (`Job.answered_iff`). The answer is the response of the provider that was
asked last, under its name and with the time it took (`Job.Annotated`). Where the response counts
tokens, the answer has the cost of these tokens. Where it counts none, the answer keeps what the
provider has put in the place of the cost, and that need not be nothing (`prefilled_cost_is_kept`).
-/

namespace ChatGateway

open Course

namespace Job

variable {j : Job}

/-! ## What the gateway adds -/

/-- `j.Annotated p response r`: the answer `r` is the response of `p` with what the gateway
adds. -/
structure Annotated (j : Job) (p : Provider) (response r : ChatResponse) : Prop where
  provider : r.provider = some p.name
  latency : r.latencyMs = some (j.backends.elapsed p).millis
  /-- Tokens are charged, whatever stood in the place of the cost. -/
  charged : 0 < response.usage.totalTokens →
    r.cost = some (j.reads.billing.actual p.name response.model response.usage)
  /-- Without tokens nothing is put there. -/
  uncharged : response.usage.totalTokens = 0 → r.cost = response.cost
  id : r.id = response.id
  model : r.model = response.model
  choices : r.choices = response.choices
  usage : r.usage = response.usage

theorem annotated_annotate (j : Job) (p : Provider) (response : ChatResponse) :
    j.Annotated p response (j.annotate p response) where
  provider := rfl
  latency := rfl
  charged := fun h => if_pos h
  uncharged := fun h => if_neg (by simp [h])
  id := rfl
  model := rfl
  choices := rfl
  usage := rfl

/-- Nothing is left open of an answer. -/
theorem annotated_iff {p : Provider} {response r : ChatResponse} :
    j.Annotated p response r ↔ r = j.annotate p response := by
  refine ⟨fun h => ?_, fun h => h ▸ j.annotated_annotate p response⟩
  have hcost : r.cost = (j.annotate p response).cost := by
    by_cases htokens : response.usage.totalTokens = 0
    · rw [h.uncharged htokens, (j.annotated_annotate p response).uncharged htokens]
    · have hpos : 0 < response.usage.totalTokens := UInt32.pos_iff_ne_zero.2 htokens
      rw [h.charged hpos, (j.annotated_annotate p response).charged hpos]
  obtain ⟨id, model, choices, usage, provider, latencyMs, cost⟩ := r
  obtain ⟨hprovider, hlatency, -, -, hid, hmodel, hchoices, husage⟩ := h
  subst hprovider hlatency hid hmodel hchoices husage hcost
  rfl

/-! ## The last attempt -/

/-- `j.Succeeds p response events`: the last of the events are those of an attempt with `p`, which
has answered with `response`. -/
def Succeeds (j : Job) (p : Provider) (response : ChatResponse) (events : List Event) : Prop :=
  (j.backends.chat p).answer = some (.ok response) ∧ j.attemptEvents p <:+ events

variable {events : List Event} {p q : Provider} {response : ChatResponse}

theorem attemptEvents_suffix_iff (j : Job) (events : List Event) (p q : Provider) :
    j.attemptEvents q <:+ events ++ j.attemptEvents p ↔ q = p := by
  refine ⟨fun h => ?_, fun h => h ▸ List.suffix_append _ _⟩
  have hp : j.attemptEvents p <:+ events ++ j.attemptEvents p := List.suffix_append _ _
  have heq : j.attemptEvents q = j.attemptEvents p :=
    (List.suffix_of_suffix_length_le h hp (Nat.le_refl 2)).eq_of_length rfl
  simpa [attemptEvents] using (List.cons.inj heq).1

/-- After an attempt that has left its sample it is known which one succeeds, if any. -/
theorem succeeds_after_attempt :
    j.Succeeds q response (events ++ j.attemptEvents p) ↔
      q = p ∧ (j.backends.chat p).answer = some (.ok response) := by
  rw [Succeeds, attemptEvents_suffix_iff, and_comm]
  exact and_congr_right fun h => h ▸ Iff.rfl

/-- The last event of an attempt is its sample. -/
theorem Succeeds.sampled (h : j.Succeeds p response events) :
    events.getLast? = some (.sampled p.name (j.backends.elapsed p)) := by
  obtain ⟨before, rfl⟩ := h.2
  simp [attemptEvents]

/-- No attempt has succeeded last. -/
def Unanswered (j : Job) (events : List Event) : Prop :=
  ∀ p response, ¬j.Succeeds p response events

theorem unanswered_of_prepares (h : ∀ e ∈ events, e.prepares = true) : j.Unanswered events := by
  intro p response hs
  have hsample := h _ (List.mem_of_getLast? hs.sampled)
  cases hsample

theorem unanswered_of_called (j : Job) (events : List Event) (call : Call) :
    j.Unanswered (events ++ [.called call]) := by
  intro p response hs
  have hlast := hs.sampled
  rw [List.getLast?_concat] at hlast
  cases hlast

theorem unanswered_of_error {e : ProviderError}
    (he : (j.backends.chat p).answer = some (.error e)) (events : List Event) :
    j.Unanswered (events ++ j.attemptEvents p) := by
  intro q response hs
  have ha := (succeeds_after_attempt.1 hs).2
  rw [he] at ha
  cases ha

/-! ## All attempts -/

/-- `j.Reports result events`: what is reported after these events is an answer if and only if the
last attempt has succeeded. -/
def Reports (j : Job) (result : Except GatewayError ChatResponse) (events : List Event) : Prop :=
  ∀ r, result = .ok r ↔ ∃ p response, j.Succeeds p response events ∧ r = j.annotate p response

theorem reports_error (h : j.Unanswered events) (e : GatewayError) :
    j.Reports (.error e) events := by
  intro r
  refine iff_of_false (fun hr => nomatch hr) ?_
  rintro ⟨p, response, hs, -⟩
  exact h p response hs

theorem reports_answer (ha : (j.backends.chat p).answer = some (.ok response))
    (events : List Event) :
    j.Reports (.ok (j.annotate p response)) (events ++ j.attemptEvents p) := by
  intro r
  constructor
  · intro hr
    cases hr
    exact ⟨p, response, succeeds_after_attempt.2 ⟨rfl, ha⟩, rfl⟩
  · rintro ⟨q, response', hs, rfl⟩
    obtain ⟨rfl, ha'⟩ := succeeds_after_attempt.1 hs
    obtain rfl : response = response' := by simpa [ha] using ha'
    rfl

/-- Short of its end a request is unanswered, and at its end it reports the last attempt. -/
theorem attempt_reports (j : Job) (attempts : Nat) (last : Option ProviderError)
    (ps : List Provider) {h : List Mark} (hh : j.Unanswered (Mark.events h)) :
    (j.attempt attempts last ps).Ensures (fun _ s => j.Unanswered (Mark.events s))
      (fun result s => j.Reports result (Mark.events s)) h := by
  induction ps generalizing attempts last h with
  | nil => exact reports_error hh _
  | cons p rest ih =>
    rw [attempt_cons]
    have hcalled : j.Unanswered (Mark.events (h ++ [.seen (.called (.chat p))])) := by
      rw [Mark.events_append]
      exact j.unanswered_of_called _ _
    refine ⟨hh, hh, hh, ?_⟩
    rw [ensures_bind]
    refine ensures_await (fun _ => hcalled) fun result ha => ?_
    rw [ensures_bind]
    refine j.sample_leaves p (fun _ => hcalled) ?_
    have hevents : Mark.events (h ++ [.seen (.called (.chat p))] ++
        [.seen (.sampled p.name (j.backends.elapsed p))]) =
          Mark.events h ++ j.attemptEvents p := by
      simp [attemptEvents]
    cases result with
    | ok response =>
      change j.Reports _ _
      rw [hevents]
      exact reports_answer ha _
    | error e =>
      refine ih (attempts + 1) (some e) ?_
      rw [hevents]
      exact unanswered_of_error ha _

theorem route_reports (j : Job) :
    j.route.Ensures (fun _ s => j.Unanswered (Mark.events s))
      (fun result s => j.Reports result (Mark.events s)) [] := by
  have hplan : ∀ s, s <+: j.plan.shield.log → j.Unanswered (Mark.events s) := by
    intro s hs
    refine unanswered_of_prepares fun e he => j.prepares_plan.events e ?_
    rw [← trace_shield]
    exact (hs.filterMap _).subset he
  rw [route_eq, ensures_bind]
  refine j.prepares_plan.quiet.shield.ensures (fun _ s hs => hplan s hs) fun result _ => ?_
  have hmade := hplan _ (List.prefix_refl _)
  cases result with
  | error e => exact reports_error hmade e
  | ok cs => exact j.attempt_reports 0 none cs hmade

/-- **A request is answered if and only if its last attempt succeeds**, and then with the response
of that attempt, annotated. This is so at every moment of every run. -/
theorem answered_iff (j : Job) (capacity : Nat) (cancelled : Bool) (schedule : List Act)
    (r : ChatResponse) :
    ((Machine.start j.route cancelled).run capacity schedule).course = .done (.ok r) ↔
      ∃ p response, (j.backends.chat p).answer = some (.ok response) ∧
        j.attemptEvents p <:+
          ((Machine.start j.route cancelled).run capacity schedule).events ∧
        j.Annotated p response r := by
  obtain ⟨h, hb, hm⟩ := Machine.run_ensures j.route_reports capacity cancelled schedule
  rw [hb.events_eq]
  have hiff : ((Machine.start j.route cancelled).run capacity schedule).course = .done (.ok r) ↔
      ∃ p response, j.Succeeds p response (Mark.events h) ∧ r = j.annotate p response := by
    split at hm
    · rename_i result hcourse
      rw [hcourse]
      simpa using hm r
    all_goals
      refine iff_of_false (fun hr => by simp_all) ?_
      rintro ⟨p, response, hs, -⟩
      exact hm p response hs
  simp only [hiff, Succeeds, annotated_iff, and_assoc]

end Job

/-! ## A cost that nobody computed -/

/-- The provider of a response that has a cost. -/
def prefillingProvider : Provider := ⟨{ name := "prefilling", models := [] }, .server 0⟩

/-- That response; it counts no tokens. -/
def prefilled : ChatResponse := { id := "id", model := "model", choices := [], cost := some 0.5 }

/-- A request to that provider. -/
def prefillingJob : Job where
  settings :=
    { probes := [], bufferCapacity := 1, emptyStreamIsError := true, strictSelection := false }
  services := {}
  backends :=
    { health := fun _ => .now (.ok ())
      chat := fun _ => .now (.ok prefilled)
      stream := fun _ => .now (.ok [])
      elapsed := fun _ => .oneSecond }
  reads :=
    { selecting := [prefillingProvider], kind := .balanced, rules := none
      signals := ⟨[], .ofCapacity 1⟩, rotation := {}, probing := [prefillingProvider]
      billing := [] }
  caller := none
  request := { model := "model", messages := [] }

/-- An answer without tokens may have a cost all the same: that of the provider. -/
theorem prefilled_cost_is_kept :
    ¬∀ (j : Job) (capacity : Nat) (cancelled : Bool) (schedule : List Act) (r : ChatResponse),
      ((Machine.start j.route cancelled).run capacity schedule).course = .done (.ok r) →
        ¬0 < r.usage.totalTokens → r.cost = none := by
  intro h
  have hrun : ((Machine.start prefillingJob.route).run 1 (List.replicate 20 .work)).course =
      .done (.ok (prefillingJob.annotate prefillingProvider prefilled)) := rfl
  have hcost := h prefillingJob 1 false (List.replicate 20 .work) _ hrun (by decide)
  cases hcost

end ChatGateway
