import ChatGateway.Proofs.Course.Guarantee
import ChatGateway.Proofs.Gateway.Failover
import ChatGateway.Proofs.Gateway.Streaming

/-!
# Who follows whom in a stream

The providers of a plan are asked for a stream in order, and one is followed by the next only if it
fails before its stream brings anything (`Job.FailsEarly`). So it is settled beforehand who is asked
(`Job.Asks`). The order is kept wherever a request may be found, whoever cancels it and whether or
not its chunks are taken (`Job.asks_ensures`). Where it is not disturbed all of them are asked, and
the last one decides what comes of it (`Job.streamAttempt_of_held`,
`Job.streamAttempt_of_all_early`).
-/

namespace ChatGateway

open Course

/-! ## Failing early -/

/-- Whether an event begins an attempt at an answer. -/
def Event.isAttempt : Event → Bool
  | .called call => call.isAttempt
  | _ => false

theorem Event.isAttempt_of_prepares {e : Event} (h : e.prepares = true) : e.isAttempt = false := by
  cases e with
  | called call => simpa [Event.prepares, Event.isAttempt] using h
  | _ => rfl

/-- Making a plan makes no attempt. -/
theorem Course.Prepares.filter_isAttempt {α : Type} {c : Course α} (hc : c.Prepares) :
    c.trace.filter Event.isAttempt = [] :=
  List.filter_eq_nil_iff.2 fun e he => by
    simp [Event.isAttempt_of_prepares (hc.events e he)]

namespace Job

variable {j : Job} {p : Provider}

/-- The events of an attempt at a stream. -/
def streamEvents (j : Job) (p : Provider) : List Event :=
  [.called (.stream p), .sampled p.name (j.backends.elapsed p)]

/-- `j.FailsEarly p e`: asked for a stream, the provider fails with `e` before it brings
anything. -/
inductive FailsEarly (j : Job) (p : Provider) : ProviderError → Prop
  /-- It has no streams to give. -/
  | unsupported : p.streamEntry = false → FailsEarly j p (.streamingUnsupported p.name)
  /-- It gives none. -/
  | refused {e : ProviderError} :
    p.streamEntry = true → (j.backends.stream p).answer = some (.error e) → FailsEarly j p e
  /-- The one that it gives breaks before the first chunk. -/
  | broken {e : ProviderError} {items : List (Reply Delivery)} :
    j.Opens p items → streamChunks items = [] → streamEnd items = .broken e → FailsEarly j p e

theorem Opens.unique {items items' : List (Reply Delivery)} (h : j.Opens p items)
    (h' : j.Opens p items') : items = items' := by
  have heq := h.2.symm.trans h'.2
  injection heq with heq
  injection heq

/-- Of a provider that gives a stream, this decides whether it fails early. -/
theorem failsEarly_iff_of_opens {items : List (Reply Delivery)} (ho : j.Opens p items)
    {e : ProviderError} :
    j.FailsEarly p e ↔ streamChunks items = [] ∧ streamEnd items = .broken e := by
  refine ⟨fun h => ?_, fun ⟨hc, he⟩ => .broken ho hc he⟩
  cases h with
  | unsupported hentry => exact absurd ho.1 (by simp [hentry])
  | refused _ ha =>
    rw [ho.2] at ha
    cases ha
  | broken ho' hc he => exact ho.unique ho' ▸ ⟨hc, he⟩

/-- A stream that fails early leaves nothing but the call for it. -/
theorem relayFrom_of_failsEarly {e : ProviderError} (h : j.FailsEarly p e) :
    (j.relayFrom p).log = [.seen (.called (.stream p))] ∧
      (j.relayFrom p).outcome = .finished (.failedEarly e) := by
  cases h with
  | unsupported hentry =>
    have hcall : j.backends.callStream p =
        .emit (.called (.stream p)) (.done (.error (.streamingUnsupported p.name))) := by
      rw [Backends.callStream, if_neg (by simp [hentry])]
    rw [relayFrom, hcall]
    exact ⟨rfl, rfl⟩
  | refused hentry ha =>
    have hcall : (j.backends.callStream p).log = [.seen (.called (.stream p))] ∧
        (j.backends.callStream p).outcome = .finished (.error e) := by
      rw [Backends.callStream, if_pos hentry]
      simp [log_await, outcome_await, ha]
    rw [relayFrom, outcome_bind_of_finished hcall.2, log_bind_of_finished hcall.2, hcall.1]
    exact ⟨rfl, rfl⟩
  | broken ho hc he =>
    obtain ⟨hlog, hout⟩ := relayFrom_of_opens ho
    rw [hlog, hout, relayed_eq_nil hc, hc, he]
    exact ⟨rfl, rfl⟩

/-! ## Who is asked -/

/-- `j.Asks cs asked error?`: of the providers `cs` those of `asked` are asked for a stream. Each is
asked only if all before it fail early; if the last one fails early as well there is nobody left,
and `error?` is its error. -/
inductive Asks (j : Job) : List Provider → List Provider → Option ProviderError → Prop
  | held {p : Provider} {rest : List Provider} :
    (∀ e, ¬j.FailsEarly p e) → Asks j (p :: rest) [p] none
  | last {p : Provider} {e : ProviderError} : j.FailsEarly p e → Asks j [p] [p] (some e)
  | next {p : Provider} {e : ProviderError} {rest asked : List Provider}
    {error? : Option ProviderError} :
    j.FailsEarly p e → Asks j rest asked error? → Asks j (p :: rest) (p :: asked) error?

section Asks

variable {cs asked : List Provider} {error? : Option ProviderError}

theorem exists_asks (j : Job) (hne : cs ≠ []) : ∃ asked error?, j.Asks cs asked error? := by
  induction cs with
  | nil => exact absurd rfl hne
  | cons p rest ih =>
    by_cases h : ∃ e, j.FailsEarly p e
    · obtain ⟨e, he⟩ := h
      cases rest with
      | nil => exact ⟨[p], some e, .last he⟩
      | cons q rest =>
        obtain ⟨asked, error?, ha⟩ := ih (List.cons_ne_nil q rest)
        exact ⟨p :: asked, error?, .next he ha⟩
    · exact ⟨[p], none, .held fun e he => h ⟨e, he⟩⟩

theorem Asks.prefix (h : j.Asks cs asked error?) : asked <+: cs := by
  induction h with
  | held _ => simp
  | last _ => exact List.prefix_refl _
  | next _ _ ih => exact (List.prefix_cons_inj _).2 ih

theorem Asks.ne_nil (h : j.Asks cs asked error?) : asked ≠ [] := by
  cases h <;> exact List.cons_ne_nil _ _

/-- If all fail early so does the last one. -/
theorem Asks.exists_error (h : j.Asks cs asked error?)
    (hall : ∀ p ∈ asked, ∃ e, j.FailsEarly p e) : ∃ e, error? = some e := by
  induction h with
  | @held p rest hp =>
    obtain ⟨e, he⟩ := hall p List.mem_cons_self
    exact absurd he (hp e)
  | @last p e _ => exact ⟨e, rfl⟩
  | next _ _ ih => exact ih (List.forall_mem_cons.1 hall).2

/-- Those who fail early are passed over. -/
theorem Asks.append_left {failing : List Provider} (hf : ∀ q ∈ failing, ∃ e, j.FailsEarly q e)
    (h : j.Asks cs asked error?) : j.Asks (failing ++ cs) (failing ++ asked) error? := by
  induction failing with
  | nil => exact h
  | cons q failing ih =>
    obtain ⟨⟨e, he⟩, hf⟩ := List.forall_mem_cons.1 hf
    exact .next he (ih hf)

/-- If the last one fails early everybody is asked, and all fail early. -/
theorem Asks.all_early {e : ProviderError} (h : j.Asks cs asked (some e)) :
    asked = cs ∧ (∀ p ∈ cs, ∃ e, j.FailsEarly p e) ∧
      ∃ p, cs.getLast? = some p ∧ j.FailsEarly p e := by
  generalize herror : some e = error? at h
  induction h with
  | held _ => cases herror
  | @last p e he =>
    cases herror
    exact ⟨rfl, List.forall_mem_singleton.2 ⟨e, he⟩, p, rfl, he⟩
  | @next p e' rest asked error? he ha ih =>
    obtain ⟨rfl, hall, q, hq, hlast⟩ := ih herror
    refine ⟨rfl, List.forall_mem_cons.2 ⟨⟨e', he⟩, hall⟩, q, ?_, hlast⟩
    rw [List.getLast?_cons_of_ne_nil ha.ne_nil, hq]

theorem Asks.eq_none_of_last (h : j.Asks cs asked error?) (hlast : asked.getLast? = some p)
    (hp : ∀ e, ¬j.FailsEarly p e) : error? = none := by
  induction h with
  | held _ => rfl
  | @last q e he =>
    obtain rfl : q = p := by simpa using hlast
    exact absurd he (hp e)
  | next _ ha ih =>
    rw [List.getLast?_cons_of_ne_nil ha.ne_nil] at hlast
    exact ih hlast

end Asks

/-! ## The order is kept -/

/-- Where a request may be found of which these are all events. Nobody is asked any more once a
chunk was sent. -/
structure Underway (trace : List Event) (s : List Mark) : Prop where
  events_prefix : Mark.events s <+: trace
  held : Mark.chunks s ≠ [] →
    (Mark.events s).filter Event.isAttempt = trace.filter Event.isAttempt

theorem underway_of_silent {trace : List Event} {s : List Mark} (hs : Mark.chunks s = [])
    (h : Mark.events s <+: trace) : Underway trace s :=
  ⟨h, fun hc => absurd hs hc⟩

end Job

/-- A relay leaves no events, and fails early only if the stream does. -/
theorem relay_keeps (p : Provider) (forwarded : Nat) (lastId : String)
    (items : List (Reply Delivery)) (h : List Mark) :
    (relay p forwarded lastId items).Ensures (fun _ s => Mark.events s = Mark.events h)
      (fun ending s => Mark.events s = Mark.events h ∧ ∀ e, ending = .failedEarly e →
        forwarded = 0 ∧ streamChunks items = [] ∧ streamEnd items = .broken e) h := by
  induction items generalizing forwarded lastId h with
  | nil =>
    unfold relay
    split <;> simp
  | cons item rest ih =>
    rw [relay, ensures_bind]
    refine ensures_await (fun _ => rfl) fun delivery hd => ?_
    cases delivery with
    | nothing =>
      have hchunks : streamChunks (item :: rest) = streamChunks rest := by simp [streamChunks, hd]
      have hend : streamEnd (item :: rest) = streamEnd rest := by simp [streamEnd, hd]
      rw [hchunks, hend]
      exact ih forwarded lastId h
    | failure e =>
      by_cases hf : forwarded = 0 <;> simp [hf, streamChunks, streamEnd, hd]
    | chunk c =>
      refine ⟨rfl, rfl, ?_, by simp⟩
      split
      · simp
      · refine (ih (forwarded + 1) c.id _).mono (fun _ s hs => ?_) fun ending s hs => ?_
        · simpa using hs
        · exact ⟨by simpa using hs.1, fun e he => absurd (hs.2 e he).1 (Nat.succ_ne_zero _)⟩

namespace Job

variable {j : Job} {p : Provider} {trace : List Event} {h : List Mark}

/-- Once the last one that is asked is called nobody else will be. -/
theorem underway_of_called {s : List Mark} (ht : trace = Mark.events h ++ j.streamEvents p)
    (hs : Mark.events s = Mark.events h ++ [.called (.stream p)]) : Underway trace s := by
  refine ⟨?_, fun _ => ?_⟩
  · rw [hs, ht]
    simp [streamEvents]
  · rw [hs, ht, List.filter_append, List.filter_append]
    rfl

/-- A stream leaves no events but the call for it, and nothing at all before that. -/
theorem relayFrom_keeps (j : Job) (p : Provider) (h : List Mark) :
    (j.relayFrom p).Ensures
      (fun _ s => s = h ∨ Mark.events s = Mark.events h ++ [.called (.stream p)])
      (fun ending s => Mark.events s = Mark.events h ++ [.called (.stream p)] ∧
        ∀ e, ending = .failedEarly e → j.FailsEarly p e) h := by
  have hcalled : Mark.events (h ++ [.seen (.called (.stream p))]) =
      Mark.events h ++ [.called (.stream p)] := by simp
  rw [relayFrom, ensures_bind, Backends.callStream]
  refine ⟨.inl rfl, ?_⟩
  cases hentry : p.streamEntry with
  | false =>
    refine ⟨hcalled, fun e he => ?_⟩
    cases he
    exact .unsupported hentry
  | true =>
    rw [if_pos rfl]
    refine ensures_await (fun _ => .inr hcalled) fun r hr => ?_
    cases r with
    | error e =>
      refine ⟨hcalled, fun e' he => ?_⟩
      cases he
      exact .refused hentry hr
    | ok items =>
      refine (relay_keeps p 0 "" items _).mono (fun _ s hs => .inr (hs.trans hcalled))
        fun ending s hs => ?_
      refine ⟨hs.1.trans hcalled, fun e he => ?_⟩
      obtain ⟨-, hc, hend⟩ := hs.2 e he
      exact .broken ⟨hentry, hr⟩ hc hend

/-- A sample is recorded or cannot be. -/
theorem sample_leaves {stop : Cut → List Mark → Prop} {post : Unit → List Mark → Prop}
    (j : Job) (p : Provider) (hstop : ∀ cut, stop cut h)
    (hpost : post () (h ++ [.seen (.sampled p.name (j.backends.elapsed p))])) :
    (j.sample p).Ensures stop post h := by
  unfold sample
  cases j.reads.signals.latency.ensureRoom with
  | ok _ => exact ⟨hstop _, hpost⟩
  | error cause => exact hstop _

/-- One that does not fail early is the last that is asked. -/
theorem streamAttempt_keeps_of_held (hp : ∀ e, ¬j.FailsEarly p e) (hh : Mark.chunks h = [])
    (ht : trace = Mark.events h ++ j.streamEvents p) (attempts : Nat)
    (last : Option ProviderError) (rest : List Provider) :
    (j.streamAttempt attempts last (p :: rest)).Ensures (fun _ => Underway trace)
      (fun report s => Mark.events s = trace ∧
        ∀ n e, report ≠ .error (.allProvidersFailed n e)) h := by
  have held {s : List Mark}
      (hs : s = h ∨ Mark.events s = Mark.events h ++ [.called (.stream p)]) :
      Underway trace s := by
    rcases hs with rfl | hs
    · exact underway_of_silent hh (by simp [ht])
    · exact underway_of_called ht hs
  rw [streamAttempt_cons, ensures_bind]
  refine (j.relayFrom_keeps p h).mono (fun _ _ => held) fun ending s ⟨hs, hending⟩ => ?_
  have hdone : Mark.events (s ++ [.seen (.sampled p.name (j.backends.elapsed p))]) = trace := by
    rw [ht, Mark.events_append, hs]
    simp [streamEvents]
  rw [ensures_bind]
  refine j.sample_leaves p (fun _ => held (.inr hs)) ?_
  match ending with
  | .finished 0 => exact ⟨hdone, fun n e => by split <;> simp⟩
  | .finished (_ + 1) => exact ⟨hdone, by simp⟩
  | .abandoned => exact ⟨hdone, by simp⟩
  | .failedLate e => exact ⟨hdone, by simp⟩
  | .failedEarly e => exact absurd (hending e rfl) (hp e)

/-- After one that fails early it depends on the others. -/
theorem streamAttempt_keeps_of_early {e : ProviderError} (he : j.FailsEarly p e)
    (hh : Mark.chunks h = []) (ht : Mark.events h ++ j.streamEvents p <+: trace)
    {post : Except GatewayError Unit → List Mark → Prop} {attempts : Nat}
    {last : Option ProviderError} {rest : List Provider}
    (hrest : (j.streamAttempt (attempts + 1) (some e) rest).Ensures (fun _ => Underway trace) post
      (h ++ (j.streamEvents p).map .seen)) :
    (j.streamAttempt attempts last (p :: rest)).Ensures (fun _ => Underway trace) post h := by
  obtain ⟨hlog, hout⟩ := relayFrom_of_failsEarly he
  have hquiet : (j.relayFrom p).Quiet := quiet_of_output (by rw [output, hlog]; rfl)
  have silent {s : List Mark} (hs : s <+: (j.streamEvents p).map .seen) :
      Underway trace (h ++ s) := by
    obtain ⟨hchunks, hevents⟩ := Mark.of_prefix_seen hs
    refine underway_of_silent (by simp [hh, hchunks]) (.trans ?_ ht)
    rw [Mark.events_append, List.prefix_append_right_inj]
    exact hevents
  rw [streamAttempt_cons, ensures_bind]
  refine hquiet.ensures (fun _ s hs => silent (hs.trans ?_)) fun ending hending => ?_
  · rw [hlog]
    exact ⟨_, rfl⟩
  · rw [hout] at hending
    cases hending
    rw [ensures_bind, hlog]
    refine j.sample_leaves p (fun _ => silent ⟨_, rfl⟩) ?_
    simpa [streamEvents, afterRelay] using hrest

/-- What holds of a request that has come to its end, if these are its events. All providers failed
only if so many were asked and the last one failed early as well. -/
structure Through (trace : List Event) (attempts : Nat) (error? : Option ProviderError)
    (report : Except GatewayError Unit) (s : List Mark) : Prop where
  events_eq : Mark.events s = trace
  all_failed : ∀ n e, report = .error (.allProvidersFailed n e) → n = attempts ∧ error? = some e

/-- **The order is kept.** Along the providers of a plan nothing else is ever seen than attempts
with those who are asked, in their order, and nobody is asked any more once a chunk was sent. -/
theorem asks_ensures {cs asked : List Provider} {error? : Option ProviderError}
    (ha : j.Asks cs asked error?) (attempts : Nat) (last : Option ProviderError)
    (hh : Mark.chunks h = []) (ht : trace = Mark.events h ++ asked.flatMap j.streamEvents) :
    (j.streamAttempt attempts last cs).Ensures (fun _ => Underway trace)
      (Through trace (attempts + asked.length) error?) h := by
  induction ha generalizing attempts last h with
  | @held p rest hp =>
    rw [List.flatMap_singleton] at ht
    refine (streamAttempt_keeps_of_held hp hh ht attempts last rest).mono (fun _ _ => id)
      fun report s hs => ⟨hs.1, fun n e hr => absurd hr (hs.2 n e)⟩
  | @last p e he =>
    rw [List.flatMap_singleton] at ht
    refine streamAttempt_keeps_of_early he hh (by simp [ht]) ⟨by simp [ht], fun n e' hr => ?_⟩
    cases hr
    exact ⟨rfl, rfl⟩
  | @next p e rest asked error? he ha ih =>
    rw [List.flatMap_cons] at ht
    have hlater := ih (attempts + 1) (some e) (h := h ++ (j.streamEvents p).map .seen)
      (by simp [hh]) (by simp [ht])
    rw [Nat.add_right_comm, Nat.add_assoc] at hlater
    exact streamAttempt_keeps_of_early he hh (by simp [ht]) hlater

/-- Where no window can be made for samples, the first one that is asked is the last, and nothing
comes of it. -/
theorem streamAttempt_keeps_of_no_room (hroom : LatencyHistory.largestCapacity <
      j.reads.signals.latency.capacity) (attempts : Nat) (last : Option ProviderError)
    (rest : List Provider) :
    (j.streamAttempt attempts last (p :: rest)).Ensures
      (fun _ s => Mark.events s <+: Mark.events h ++ [.called (.stream p)])
      (fun _ _ => False) h := by
  rw [streamAttempt_cons, ensures_bind]
  refine (j.relayFrom_keeps p h).mono (fun _ s hs => ?_) fun ending s ⟨hs, _⟩ => ?_
  · rcases hs with rfl | hs
    · exact List.prefix_append _ _
    · simp [hs]
  · rw [ensures_bind, sample, LatencyHistory.ensureRoom_of_lt hroom]
    change Mark.events s <+: _
    simp [hs]

/-! ## All are asked -/

/-- The events of an attempt at a stream with these deliveries, as far as it comes to an end. -/
def eventsOf (j : Job) (p : Provider) (items : List (Reply Delivery)) : List Event :=
  if streamEnd items = .endless then [.called (.stream p)] else j.streamEvents p

/-- How a streamed request ends whose chunks are those of a stream with these deliveries. -/
def endingOf (j : Job) (p : Provider) (items : List (Reply Delivery)) :
    Ending (Except GatewayError Unit) :=
  match streamEnd items with
  | .closed => .finished (.ok ())
  | .exhausted =>
    .finished (if streamChunks items = [] ∧ j.settings.emptyStreamIsError then .error .emptyStream
      else .ok ())
  | .broken e => .finished (.error (.streamInterrupted p.name e))
  | .endless => .stalled

theorem afterRelay_of_opens {items : List (Reply Delivery)} (ho : j.Opens p items)
    (hp : ∀ e, ¬j.FailsEarly p e) (hend : streamEnd items ≠ .endless) :
    ∃ ending report, relayEnding (streamChunks items).length (streamEnd items) = .finished ending ∧
      (∀ attempts rest, j.afterRelay attempts p rest ending = .done report) ∧
      j.endingOf p items = .finished report := by
  unfold endingOf
  cases he : streamEnd items with
  | closed =>
    have hne := streamChunks_ne_nil_of_closed he
    obtain ⟨n, hn⟩ := Nat.exists_eq_succ_of_ne_zero fun h => hne (List.length_eq_zero_iff.1 h)
    rw [hn]
    exact ⟨_, _, rfl, fun _ _ => rfl, rfl⟩
  | exhausted =>
    cases hc : streamChunks items with
    | nil => exact ⟨_, _, rfl, fun _ _ => rfl, by simp⟩
    | cons c cs => exact ⟨_, _, rfl, fun _ _ => rfl, by simp⟩
  | broken e =>
    cases hc : streamChunks items with
    | nil => exact absurd (.broken ho hc he) (hp e)
    | cons c cs => exact ⟨_, _, rfl, fun _ _ => rfl, rfl⟩
  | endless => exact absurd he hend

section Room

variable (hroom : j.reads.signals.latency.capacity ≤ LatencyHistory.largestCapacity)
include hroom

/-- Once the stream of a provider is over its sample is recorded. -/
theorem streamAttempt_of_ending {ending : RelayEnd}
    (hout : (j.relayFrom p).outcome = .finished ending) (attempts : Nat)
    (last : Option ProviderError) (rest : List Provider) :
    (j.streamAttempt attempts last (p :: rest)).outcome =
        (j.afterRelay attempts p rest ending).outcome ∧
      (j.streamAttempt attempts last (p :: rest)).log =
        (j.relayFrom p).log ++ .seen (.sampled p.name (j.backends.elapsed p)) ::
          (j.afterRelay attempts p rest ending).log := by
  obtain ⟨hs, ht⟩ := sample_of_room hroom p
  have hl := log_of_quiet (j.quiet_sample p)
  rw [ht] at hl
  rw [streamAttempt_cons]
  constructor
  · rw [outcome_bind_of_finished hout, outcome_bind_of_finished hs]
  · rw [log_bind_of_finished hout, log_bind_of_finished hs, hl]
    rfl

theorem streamAttempt_of_early {e : ProviderError} (he : j.FailsEarly p e) (attempts : Nat)
    (last : Option ProviderError) (rest : List Provider) :
    (j.streamAttempt attempts last (p :: rest)).outcome =
        (j.streamAttempt (attempts + 1) (some e) rest).outcome ∧
      (j.streamAttempt attempts last (p :: rest)).log =
        (j.streamEvents p).map .seen ++ (j.streamAttempt (attempts + 1) (some e) rest).log := by
  obtain ⟨hlog, hout⟩ := relayFrom_of_failsEarly he
  obtain ⟨ho, hl⟩ := streamAttempt_of_ending hroom hout attempts last rest
  exact ⟨ho, by rw [hl, hlog]; rfl⟩

/-- A stream that does not fail early decides what comes of the request. -/
theorem streamAttempt_of_opens {items : List (Reply Delivery)} (ho : j.Opens p items)
    (hp : ∀ e, ¬j.FailsEarly p e) (attempts : Nat) (last : Option ProviderError)
    (rest : List Provider) :
    (j.streamAttempt attempts last (p :: rest)).outcome = j.endingOf p items ∧
      (j.streamAttempt attempts last (p :: rest)).trace = j.eventsOf p items ∧
      (j.streamAttempt attempts last (p :: rest)).output = relayed p items := by
  obtain ⟨hlog, hout⟩ := relayFrom_of_opens ho
  by_cases hend : streamEnd items = .endless
  · rw [hend] at hout
    obtain ⟨ho', hl'⟩ := bind_of_stalled hout
    rw [streamAttempt_cons, trace, output, ho', hl', hlog]
    simp [endingOf, eventsOf, hend]
  · obtain ⟨ending, report, hrelay, hafter, hreport⟩ := afterRelay_of_opens ho hp hend
    obtain ⟨ho', hl'⟩ := streamAttempt_of_ending hroom (hout.trans hrelay) attempts last rest
    rw [trace, output, ho', hl', hafter, hlog, hreport]
    simp [eventsOf, hend, streamEvents]

/-- **All are asked.** Along the providers of a plan the last one that is asked decides what comes
of the request, if its stream is given and does not fail early. -/
theorem streamAttempt_of_held {cs asked : List Provider} (ha : j.Asks cs asked none)
    (hlast : asked.getLast? = some p) {items : List (Reply Delivery)} (ho : j.Opens p items)
    (attempts : Nat) (last : Option ProviderError) :
    (j.streamAttempt attempts last cs).outcome = j.endingOf p items ∧
      (j.streamAttempt attempts last cs).trace =
        asked.dropLast.flatMap j.streamEvents ++ j.eventsOf p items ∧
      (j.streamAttempt attempts last cs).output = relayed p items := by
  generalize herror : (none : Option ProviderError) = error? at ha
  induction ha generalizing attempts last with
  | @held q rest hq =>
    obtain rfl : q = p := by simpa using hlast
    simpa using streamAttempt_of_opens hroom ho hq attempts last rest
  | last he => cases herror
  | @next q e rest asked error? he ha ih =>
    obtain ⟨hout, hlog⟩ := streamAttempt_of_early hroom he attempts last rest
    rw [List.getLast?_cons_of_ne_nil ha.ne_nil] at hlast
    obtain ⟨ho', ht', hc'⟩ := ih hlast (attempts + 1) (some e) herror
    rw [List.dropLast_cons_of_ne_nil ha.ne_nil, hout, ho', trace, output, hlog]
    simp only [Mark.events_append, Mark.chunks_append, Mark.events_map_seen, Mark.chunks_map_seen]
    rw [trace] at ht'
    rw [output] at hc'
    simp [ht', hc']

/-- Where all fail early their number and the error of the last one are reported. -/
theorem streamAttempt_of_all_early {cs asked : List Provider} {e : ProviderError}
    (ha : j.Asks cs asked (some e)) (attempts : Nat) (last : Option ProviderError) :
    (j.streamAttempt attempts last cs).outcome =
        .finished (.error (.allProvidersFailed (attempts + asked.length) e)) ∧
      (j.streamAttempt attempts last cs).log = (asked.flatMap j.streamEvents).map .seen := by
  generalize herror : some e = error? at ha
  induction ha generalizing attempts last with
  | held hp => cases herror
  | @last p e he =>
    cases herror
    obtain ⟨hout, hlog⟩ := streamAttempt_of_early hroom he attempts last []
    refine ⟨hout, ?_⟩
    rw [hlog]
    simp [streamAttempt]
  | @next p e' rest asked error? he ha ih =>
    obtain ⟨hout, hlog⟩ := streamAttempt_of_early hroom he attempts last rest
    obtain ⟨ho', hl'⟩ := ih (attempts + 1) (some e') herror
    refine ⟨?_, by rw [hlog, hl', List.flatMap_cons, List.map_append]⟩
    rw [hout, ho', List.length_cons, Nat.add_right_comm, Nat.add_assoc]

end Room

end Job

end ChatGateway
