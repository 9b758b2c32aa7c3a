import ChatGateway.Proofs.Course.Delivery
import ChatGateway.Proofs.Gateway.Succession

/-!
# Failover of streams

A request for a stream whose first provider streams asks the providers of its plan in order, as far
as those before fail early (`Job.stream_fails_over`). This is seen of every run (`Job.KeepsOrder`),
and undisturbed runs come to the end that the last one asked decides.
-/

namespace ChatGateway

open Course

namespace Job

variable {j : Job} {p : Provider}

/-! ## The request -/

/-- The providers that may be asked for a stream. A model of a local engine is asked of the first
provider only. -/
def candidates (j : Job) (first : Provider) (rest : List Provider) : List Provider :=
  if j.request.isLocalModel then [first] else first :: rest

theorem streamAlong_of_streaming {first : Provider} (hs : first.streaming = true)
    (rest : List Provider) :
    j.streamAlong (first :: rest) = j.streamAttempt 0 none (j.candidates first rest) := by
  rw [streamAlong, if_neg (by simp [hs]), candidates]

theorem stream_of_plan {cs : List Provider} (hplan : j.plan.outcome = .finished (.ok cs)) :
    j.stream.outcome = (j.streamAlong cs).outcome ∧
      j.stream.trace = j.plan.trace ++ (j.streamAlong cs).trace ∧
      j.stream.output = (j.streamAlong cs).output := by
  have hquiet := output_of_quiet j.prepares_plan.quiet
  rw [output] at hquiet
  rw [stream, trace, output, log, outcome]
  rw [outcome_bind_of_finished hplan, log_bind_of_finished hplan]
  simp [hquiet, trace, output]

/-- Until there is a plan nothing happens but that it is made. -/
theorem stream_ensures_of_plan {cs : List Provider} {stop : Cut → List Mark → Prop}
    {post : Except GatewayError Unit → List Mark → Prop}
    (hplan : j.plan.outcome = .finished (.ok cs))
    (hstop : ∀ cut s, Mark.chunks s = [] → Mark.events s <+: j.plan.trace → stop cut s)
    (halong : ∀ h, Mark.events h = j.plan.trace → Mark.chunks h = [] →
      (j.streamAlong cs).Ensures stop post h) : j.stream.Ensures stop post [] := by
  have hquiet := j.prepares_plan.quiet
  have begun (cut : Cut) : stop cut [] := hstop cut [] rfl List.nil_prefix
  refine ⟨begun _, fun _ => begun _, ?_⟩
  rw [ensures_bind]
  refine hquiet.ensures (fun cut s hprefix => ?_) fun r hr => ?_
  · rw [log_of_quiet hquiet] at hprefix
    obtain ⟨hchunks, hevents⟩ := Mark.of_prefix_seen hprefix
    exact hstop cut s hchunks hevents
  · rw [hplan] at hr
    cases hr
    exact halong _ rfl (output_of_quiet hquiet)

/-- What can be seen of a request at any moment if `asked` are the providers that are asked, and
`error?` is the error of the last one if all of them fail early. -/
structure KeepsOrder (j : Job) (asked : List Provider) (error? : Option ProviderError)
    (capacity : Nat) (m : Machine (Except GatewayError Unit)) : Prop where
  events_prefix : m.events <+: j.plan.trace ++ asked.flatMap j.streamEvents
  /-- Nobody is asked any more once a chunk was passed on. -/
  held : m.received ≠ [] ∨ m.queue ≠ [] → ∀ later,
    (m.run capacity later).events.filter Event.isAttempt =
      asked.map fun p => .called (.stream p)
  /-- A request that comes to its end has asked all of them, and recorded a sample of each. -/
  sampled : ∀ report, m.course = .done report →
    m.events = j.plan.trace ++ asked.flatMap j.streamEvents
  all_failed : ∀ attempts e, m.course = .done (.error (.allProvidersFailed attempts e)) →
    attempts = asked.length ∧ error? = some e

theorem attempts_of_asked (j : Job) (asked : List Provider) :
    (j.plan.trace ++ asked.flatMap j.streamEvents).filter Event.isAttempt =
      asked.map fun p => .called (.stream p) := by
  rw [List.filter_append, j.prepares_plan.filter_isAttempt, List.nil_append]
  induction asked with
  | nil => rfl
  | cons p asked ih =>
    rw [List.flatMap_cons, List.filter_append, ih]
    rfl

section Along

variable {first : Provider} {rest asked : List Provider} {error? : Option ProviderError}
  (hplan : j.plan.outcome = .finished (.ok (first :: rest))) (hs : first.streaming = true)
  (ha : j.Asks (j.candidates first rest) asked error?)
include hplan hs ha

theorem stream_keeps :
    j.stream.Ensures (fun _ => Underway (j.plan.trace ++ asked.flatMap j.streamEvents))
      (Through (j.plan.trace ++ asked.flatMap j.streamEvents) asked.length error?) [] := by
  refine stream_ensures_of_plan hplan (fun _ s hchunks hevents => ?_) fun h hevents hchunks => ?_
  · exact underway_of_silent hchunks (hevents.trans (List.prefix_append _ _))
  · rw [streamAlong_of_streaming hs]
    rw [← Nat.zero_add asked.length]
    exact asks_ensures ha 0 none hchunks (by rw [hevents])

/-- **Runs keep the order.** -/
theorem run_keepsOrder (capacity : Nat) (cancelled : Bool) (schedule : List Act) :
    j.KeepsOrder asked error? capacity
      ((Machine.start j.stream cancelled).run capacity schedule) := by
  have hkeeps := stream_keeps hplan hs ha
  have under (schedule : List Act) :
      ∃ h, ((Machine.start j.stream cancelled).run capacity schedule).Bears h ∧
        Underway (j.plan.trace ++ asked.flatMap j.streamEvents) h := by
    obtain ⟨h, hb, hm⟩ := Machine.run_ensures hkeeps capacity cancelled schedule
    refine ⟨h, hb, ?_⟩
    split at hm
    · exact ⟨by simp [hm.events_eq], fun _ => by rw [hm.events_eq]⟩
    · exact hm
    · exact hm
    · exact hm
  obtain ⟨h, hb, hu⟩ := under schedule
  have through {report : Except GatewayError Unit}
      (hdone : ((Machine.start j.stream cancelled).run capacity schedule).course = .done report) :
      ∃ h, ((Machine.start j.stream cancelled).run capacity schedule).Bears h ∧
        Through (j.plan.trace ++ asked.flatMap j.streamEvents) asked.length error? report h := by
    obtain ⟨h, hb, hm⟩ := Machine.run_ensures hkeeps capacity cancelled schedule
    rw [hdone] at hm
    exact ⟨h, hb, hm⟩
  refine ⟨?_, fun hsent later => ?_, fun report hdone => ?_, fun attempts e hdone => ?_⟩
  · rw [hb.events_eq]
    exact hu.events_prefix
  · have hall := hu.held (hb.chunks_ne_nil (Machine.run_gone_queue _ _ _ _) hsent)
    rw [← hb.events_eq, attempts_of_asked] at hall
    obtain ⟨h', hb', hu'⟩ := under (schedule ++ later)
    rw [← Machine.run_append]
    have hgrow : (asked.map fun p => Event.called (.stream p)) <+:
        ((Machine.start j.stream cancelled).run capacity (schedule ++ later)).events.filter
          Event.isAttempt := by
      rw [← hall, Machine.run_append]
      exact (Machine.events_prefix_run _ _ _).filter _
    have hbound : ((Machine.start j.stream cancelled).run capacity
        (schedule ++ later)).events.filter Event.isAttempt <+:
          asked.map fun p => Event.called (.stream p) := by
      rw [hb'.events_eq, ← j.attempts_of_asked asked]
      exact hu'.events_prefix.filter _
    exact hbound.eq_of_length_le hgrow.length_le
  · obtain ⟨h, hb, ht⟩ := through hdone
    rw [hb.events_eq]
    exact ht.events_eq
  · obtain ⟨h, hb, ht⟩ := through hdone
    exact ht.all_failed attempts e rfl

section Room

variable (hroom : j.reads.signals.latency.capacity ≤ LatencyHistory.largestCapacity)
include hroom

theorem stream_settles_of_all_early {e : ProviderError} (he : error? = some e) :
    j.stream.Settles (j.plan.trace ++ asked.flatMap j.streamEvents)
      (.finished (.error (.allProvidersFailed asked.length e))) := by
  subst he
  obtain ⟨hout, htrace, houtput⟩ := stream_of_plan hplan
  obtain ⟨ho, hl⟩ := streamAttempt_of_all_early hroom ha 0 none
  rw [streamAlong_of_streaming hs] at hout htrace houtput
  have ht : (j.streamAttempt 0 none (j.candidates first rest)).trace =
      asked.flatMap j.streamEvents := by rw [trace, hl, Mark.events_map_seen]
  have hquiet : j.stream.Quiet := quiet_of_output (by rw [houtput, output, hl]; simp)
  have hsettles := hquiet.settles
  rw [hout, ho, htrace, ht, Nat.zero_add] at hsettles
  exact hsettles

theorem stream_delivers_of_held {p : Provider} (hlast : asked.getLast? = some p)
    (hp : ∀ e, ¬j.FailsEarly p e) {items : List (Reply Delivery)} (ho : j.Opens p items) :
    j.stream.Delivers
      (j.plan.trace ++ (asked.dropLast.flatMap j.streamEvents ++ j.eventsOf p items))
      (relayed p items) (j.endingOf p items) := by
  obtain rfl := ha.eq_none_of_last hlast hp
  obtain ⟨hout, htrace, houtput⟩ := stream_of_plan hplan
  obtain ⟨ho', ht', hc'⟩ := streamAttempt_of_held hroom ha hlast ho 0 none
  rw [streamAlong_of_streaming hs] at hout htrace houtput
  have hdelivers := j.stream.delivers
  rw [hout, ho', htrace, ht', houtput, hc'] at hdelivers
  exact hdelivers

end Room

end Along

/-- Where no window can be made for samples, a run stops at the first attempt. -/
theorem run_stops_of_no_room {first : Provider} {rest : List Provider}
    (hplan : j.plan.outcome = .finished (.ok (first :: rest))) (hs : first.streaming = true)
    (hroom : LatencyHistory.largestCapacity < j.reads.signals.latency.capacity) (capacity : Nat)
    (cancelled : Bool) (schedule : List Act) :
    ((Machine.start j.stream cancelled).run capacity schedule).events <+:
        j.plan.trace ++ [.called (.stream first)] ∧
      ∀ report, ((Machine.start j.stream cancelled).run capacity schedule).course ≠
        .done report := by
  have hkeeps : j.stream.Ensures
      (fun _ s => Mark.events s <+: j.plan.trace ++ [.called (.stream first)])
      (fun _ _ => False) [] := by
    refine stream_ensures_of_plan hplan (fun _ s _ hevents => ?_) fun h hevents _ => ?_
    · exact hevents.trans (List.prefix_append _ _)
    · rw [streamAlong_of_streaming hs, ← hevents, candidates]
      split <;> exact streamAttempt_keeps_of_no_room hroom 0 none _
  obtain ⟨h, hb, hm⟩ := Machine.run_ensures hkeeps capacity cancelled schedule
  rw [hb.events_eq]
  split at hm
  · exact hm.elim
  all_goals
    rename_i hcourse
    exact ⟨hm, fun report hdone => by simp_all⟩

/-- Once the stream of the first provider is over, there is the fault instead of its sample. -/
theorem stream_delivers_of_no_room {first : Provider} {rest : List Provider}
    (hplan : j.plan.outcome = .finished (.ok (first :: rest))) (hs : first.streaming = true)
    (hroom : LatencyHistory.largestCapacity < j.reads.signals.latency.capacity)
    {ending : RelayEnd} (hend : (j.relayFrom first).outcome = .finished ending) :
    j.stream.Delivers (j.plan.trace ++ [.called (.stream first)]) (j.relayFrom first).output
      (.faulted .windowTooLarge) := by
  have hsample : (j.sample first).outcome = .faulted .windowTooLarge ∧
      (j.sample first).log = [] := by
    rw [sample, LatencyHistory.ensureRoom_of_lt hroom]
    exact ⟨rfl, rfl⟩
  obtain ⟨later, hcandidates⟩ : ∃ later, j.candidates first rest = first :: later := by
    unfold candidates
    split <;> exact ⟨_, rfl⟩
  have hattempt : (j.streamAlong (first :: rest)).outcome = .faulted .windowTooLarge ∧
      (j.streamAlong (first :: rest)).log = (j.relayFrom first).log := by
    obtain ⟨ho, hl⟩ := bind_of_faulted (f := fun _ => j.afterRelay 0 first later ending) hsample.1
    rw [streamAlong_of_streaming hs, hcandidates, streamAttempt_cons,
      outcome_bind_of_finished hend, log_bind_of_finished hend, ho, hl, hsample.2]
    exact ⟨rfl, List.append_nil _⟩
  have ht : (j.streamAlong (first :: rest)).trace = [.called (.stream first)] := by
    rw [trace, hattempt.2, ← trace, j.relayFrom_trace]
  have hc : (j.streamAlong (first :: rest)).output = (j.relayFrom first).output := by
    rw [output, hattempt.2, ← output]
  obtain ⟨hout, htrace, houtput⟩ := stream_of_plan hplan
  have hdelivers := j.stream.delivers
  rw [hout, htrace, houtput, hattempt.1, ht, hc] at hdelivers
  exact hdelivers

/-- **Streams fail over in order.** If the first provider of the plan streams, it is settled who is
asked for a stream. In every run these are asked in their order, and nobody any more once a chunk
was passed on. If all of them fail early, nobody is left that could be asked, and the request ends
with the error of the last one. Every attempt leaves its sample, unless no window can be made for
samples: then the first attempt is the last, and ends in a fault. -/
theorem stream_fails_over {first : Provider} {rest : List Provider}
    (hplan : j.plan.outcome = .finished (.ok (first :: rest))) (hs : first.streaming = true) :
    (∀ e ∈ j.plan.trace, e.prepares = true) ∧
    (∃ asked error?, j.Asks (j.candidates first rest) asked error? ∧
      asked <+: j.candidates first rest ∧
      (∀ capacity cancelled schedule, j.KeepsOrder asked error? capacity
        ((Machine.start j.stream cancelled).run capacity schedule)) ∧
      (∀ g : Gateway,
        (g.absorb (j.plan.trace ++ asked.flatMap j.streamEvents)).signals.latency =
          asked.foldl (fun h p => h.push p.name (j.backends.elapsed p)) g.signals.latency) ∧
      (j.reads.signals.latency.capacity ≤ LatencyHistory.largestCapacity →
        ((∀ p ∈ asked, ∃ e, j.FailsEarly p e) → asked = j.candidates first rest ∧
          ∃ p e, asked.getLast? = some p ∧ j.FailsEarly p e ∧
            j.stream.Settles (j.plan.trace ++ asked.flatMap j.streamEvents)
              (.finished (.error (.allProvidersFailed asked.length e)))) ∧
        ∀ p items, asked.getLast? = some p → (∀ e, ¬j.FailsEarly p e) → j.Opens p items →
          streamEnd items ≠ .endless →
            j.stream.Delivers (j.plan.trace ++ asked.flatMap j.streamEvents) (relayed p items)
              (j.endingOf p items))) ∧
    (LatencyHistory.largestCapacity < j.reads.signals.latency.capacity →
      (∀ capacity cancelled schedule,
        ((Machine.start j.stream cancelled).run capacity schedule).events <+:
            j.plan.trace ++ [.called (.stream first)] ∧
          ∀ report, ((Machine.start j.stream cancelled).run capacity schedule).course ≠
            .done report) ∧
        ∀ ending, (j.relayFrom first).outcome = .finished ending →
          j.stream.Delivers (j.plan.trace ++ [.called (.stream first)])
            (j.relayFrom first).output (.faulted .windowTooLarge)) := by
  refine ⟨j.prepares_plan.events, ?_, fun hroom => ⟨run_stops_of_no_room hplan hs hroom,
    fun _ => stream_delivers_of_no_room hplan hs hroom⟩⟩
  have hne : j.candidates first rest ≠ [] := by
    unfold candidates
    split <;> simp
  obtain ⟨asked, error?, ha⟩ := j.exists_asks hne
  refine ⟨asked, error?, ha, ha.prefix, run_keepsOrder hplan hs ha, fun g => ?_,
    fun hroom => ⟨fun hall => ?_, fun p items hlast hp ho hend => ?_⟩⟩
  · rw [Gateway.absorb_append]
    refine (Gateway.latency_absorb_calls .stream j.backends.elapsed asked _).trans ?_
    rw [Gateway.latency_absorb_of_prepares j.prepares_plan.events]
  · obtain ⟨e, rfl⟩ := ha.exists_error hall
    obtain ⟨heq, -, p, hlast, he⟩ := ha.all_early
    exact ⟨heq, p, e, heq ▸ hlast, he, stream_settles_of_all_early hplan hs ha hroom rfl⟩
  · have hdelivers := stream_delivers_of_held hplan hs ha hroom hlast hp ho
    obtain ⟨before, rfl⟩ := List.getLast?_eq_some_iff.1 hlast
    simpa [eventsOf, hend] using hdelivers

end Job

/-! ## A stream that is refused, and one after it -/

/-- A provider that streams. -/
def streamingProvider (name : String) (serial : Nat) : Provider :=
  ⟨{ name, models := [], streaming := true, streamEntry := true }, .server serial⟩

/-- The providers that are registered. -/
def mutedFirst : List Provider := [streamingProvider "muted" 0, streamingProvider "sound" 1]

/-- The deliveries of the second one. -/
def soundItems : List (Reply Delivery) := [.now (.chunk (.delta "id" "text"))]

/-- A request that the provider is picked for that refuses its streams. -/
def mutedJob (latencyCapacity : Nat) : Job where
  settings :=
    { probes := [], bufferCapacity := 1, emptyStreamIsError := true, strictSelection := false }
  services := {}
  backends :=
    { health := fun _ => .now (.ok ())
      chat := fun _ => .now (.error (.remote "down"))
      stream := fun p => .now (if p.name = "muted" then .error (.remote "down") else .ok soundItems)
      elapsed := fun _ => .oneSecond }
  reads :=
    { selecting := mutedFirst, kind := .balanced, rules := none
      signals := ⟨[], ⟨latencyCapacity, []⟩⟩, rotation := {}, probing := mutedFirst, billing := [] }
  caller := none
  request := { model := "model", messages := [] }

theorem muted_fails_early (latencyCapacity : Nat) :
    (mutedJob latencyCapacity).FailsEarly (streamingProvider "muted" 0) (.remote "down") :=
  .refused rfl rfl

theorem sound_opens (latencyCapacity : Nat) :
    (mutedJob latencyCapacity).Opens (streamingProvider "sound" 1) soundItems :=
  ⟨rfl, rfl⟩

theorem muted_is_followed :
    (mutedJob 100).plan.outcome = .finished (.ok mutedFirst) ∧
      (streamingProvider "muted" 0).streaming = true ∧
      (mutedJob 100).stream.Delivers
        ((mutedJob 100).plan.trace ++ mutedFirst.flatMap (mutedJob 100).streamEvents)
        (relayed (streamingProvider "sound" 1) soundItems) (.finished (.ok ())) := by
  have hplan : (mutedJob 100).plan.outcome = .finished (.ok mutedFirst) := rfl
  have hs : (streamingProvider "muted" 0).streaming = true := rfl
  have hsound : ∀ e, ¬(mutedJob 100).FailsEarly (streamingProvider "sound" 1) e := fun e he =>
    absurd ((Job.failsEarly_iff_of_opens (sound_opens 100)).1 he).1 (by decide)
  obtain ⟨-, ⟨asked, error?, ha, -, -, -, hroom⟩, -⟩ := Job.stream_fails_over hplan hs
  obtain rfl : asked = mutedFirst := by
    cases ha with
    | held h => exact absurd (muted_fails_early 100) (h _)
    | next _ ha =>
      cases ha with
      | held _ => rfl
      | last he => exact absurd he (hsound _)
      | next he _ => exact absurd he (hsound _)
  exact ⟨hplan, hs, (hroom (by decide)).2 _ _ rfl hsound (sound_opens 100) (by decide)⟩

/-- **No samples without room**: then a request is over after the first call for a stream. -/
theorem no_stream_samples_without_room :
    ¬∀ (j : Job) (first : Provider) (rest : List Provider),
      j.plan.outcome = .finished (.ok (first :: rest)) → first.streaming = true →
      ∃ asked error?, j.Asks (j.candidates first rest) asked error? ∧
        ∀ capacity schedule,
          ((Machine.start j.stream).run capacity schedule).cancelled = false →
          ((Machine.start j.stream).run capacity schedule).course.isOver = true →
          ((Machine.start j.stream).run capacity schedule).events =
            j.plan.trace ++ asked.flatMap j.streamEvents := by
  intro h
  obtain ⟨asked, error?, ha, hrun⟩ :=
    h (mutedJob (2 ^ 59)) (streamingProvider "muted" 0) [streamingProvider "sound" 1] rfl rfl
  have hevents : ((Machine.start (mutedJob (2 ^ 59)).stream).run 1
      (List.replicate 20 .work)).events =
        (mutedJob (2 ^ 59)).plan.trace ++ [.called (.stream (streamingProvider "muted" 0))] := rfl
  have hall := hevents.symm.trans (hrun 1 (List.replicate 20 .work) rfl rfl)
  obtain ⟨p, more, rfl⟩ := List.exists_cons_of_ne_nil ha.ne_nil
  have hshort := List.append_cancel_left hall
  simp [Job.streamEvents] at hshort

end ChatGateway
