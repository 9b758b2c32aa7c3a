import ChatGateway.Proofs.Course.Unheard
import ChatGateway.Proofs.Gateway.Report
import ChatGateway.Proofs.Gateway.StreamFailover

/-!
# When the receiver goes away

A streamed request learns that its receiver went away only from a chunk that is refused. Then it
gives in: nobody is called any more, and no error is reported (`Course.GivesIn`,
`Job.stream_givesIn`). Until then it goes on as if there were a receiver, and if no chunk is due any
more it does so until its end. So it depends on where the receiver goes away what is still called
and reported (`Job.departure`), and a stream that breaks after its last chunk still comes to an
error (`departure_is_not_quiet`).
-/

namespace ChatGateway

open Course

/-- Whether an event is a call of a provider, or of the factory. -/
def Event.isCall : Event → Bool
  | .called _ => true
  | _ => false

/-! ## Giving in -/

namespace Course

/-- Once a chunk is to be sent nobody is called any more, whether it is taken or refused; and if it
is refused there is no error. -/
structure GivesIn (next refused : Course (Except GatewayError Unit)) : Prop where
  calls_next : next.trace.filter Event.isCall = []
  calls_refused : refused.unheard.trace.filter Event.isCall = []
  outcome_refused : refused.unheard.outcome = .finished (.ok ()) ∨
    ∃ cause, refused.unheard.outcome = .faulted cause

variable {d : Course (Except GatewayError Unit)}

/-- Heard or not, the same providers are called. -/
theorem calls_unheard (h : d.AtSends GivesIn) :
    d.unheard.trace.filter Event.isCall = d.trace.filter Event.isCall := by
  unfold trace
  induction d with
  | emit event next ih =>
    change (event :: Mark.events next.unheard.log).filter _ =
      (event :: Mark.events next.log).filter _
    rw [List.filter_cons, List.filter_cons, ih h]
  | ask query shielded next ih => exact ih h
  | cancel next ih => exact ih h
  | check next ih => exact ih h
  | pause shielded next ih => exact ih h
  | send chunk next refused _ _ => exact h.1.calls_refused.trans h.1.calls_next.symm
  | _ => rfl

/-- A course that has a chunk to send comes to no error if nobody hears it. -/
theorem outcome_unheard (h : d.AtSends GivesIn) (hout : d.output ≠ []) :
    d.unheard.outcome = .finished (.ok ()) ∨ ∃ cause, d.unheard.outcome = .faulted cause := by
  unfold output at hout
  induction d with
  | emit event next ih => exact ih h hout
  | ask query shielded next ih => exact ih h hout
  | cancel next ih => exact ih h hout
  | check next ih => exact ih h hout
  | pause shielded next ih => exact ih h hout
  | send chunk next refused _ _ => exact h.1.outcome_refused
  | _ => exact absurd rfl hout

/-- Nobody is called any more once a chunk was sent. -/
theorem calls_after_chunk (h : d.AtSends GivesIn) {s t : List Mark} (hlog : d.log = s ++ t)
    (hs : Mark.chunks s ≠ []) : (Mark.events t).filter Event.isCall = [] := by
  induction d generalizing s with
  | emit _ next ih | ask _ _ next ih =>
    cases s with
    | nil => exact absurd rfl hs
    | cons _ s =>
      obtain ⟨rfl, htail⟩ := List.cons.inj hlog
      exact ih h htail hs
  | cancel next ih => exact ih h hlog hs
  | check next ih => exact ih h hlog hs
  | pause shielded next ih => exact ih h hlog hs
  | send chunk next refused _ _ =>
    cases s with
    | nil => exact absurd rfl hs
    | cons _ s =>
      obtain ⟨rfl, htail⟩ := List.cons.inj hlog
      have hcalls : (Mark.events next.log).filter Event.isCall = [] := h.1.calls_next
      rw [htail, List.append_eq, Mark.events_append, List.filter_append] at hcalls
      exact (List.append_eq_nil_iff.1 hcalls).2
  | _ =>
    obtain ⟨rfl, -⟩ := List.nil_eq_append_iff.1 hlog
    exact absurd rfl hs

end Course

/-! ## A streamed request gives in -/

/-- Nothing is seen of a relay but the chunks that it passes on. -/
theorem relay_trace (p : Provider) (forwarded : Nat) (lastId : String)
    (items : List (Reply Delivery)) : (relay p forwarded lastId items).trace = [] := by
  rw [trace, (relay_eq p forwarded lastId items).1, Mark.events_map_sent]

/-- After a chunk was passed on it is too late to fail early. -/
theorem relay_not_early (p : Provider) {forwarded : Nat} (hf : forwarded ≠ 0) (lastId : String)
    (items : List (Reply Delivery)) (e : ProviderError) :
    (relay p forwarded lastId items).outcome ≠ .finished (.failedEarly e) := by
  rw [(relay_eq p forwarded lastId items).2]
  cases streamEnd items <;> simp [relayEnding, hf]

/-- Once a relay passes on a chunk it does not fail early, and it is abandoned if the chunk is
refused. -/
structure Abandons (next refused : Course RelayEnd) : Prop where
  refused_eq : refused = .done .abandoned
  trace_next : next.trace = []
  outcome_next : ∀ e, next.outcome ≠ .finished (.failedEarly e)

theorem relay_abandons (p : Provider) (forwarded : Nat) (lastId : String)
    (items : List (Reply Delivery)) : (relay p forwarded lastId items).AtSends Abandons := by
  induction items generalizing forwarded lastId with
  | nil =>
    unfold relay
    split
    · trivial
    · exact ⟨⟨rfl, rfl, by simp⟩, trivial⟩
  | cons item rest ih =>
    rw [relay]
    refine (quiet_await item).atSends.bind fun delivery => ?_
    cases delivery with
    | nothing => exact ih forwarded lastId
    | failure e => trivial
    | chunk c =>
      dsimp only
      split
      · exact ⟨⟨rfl, rfl, by simp⟩, trivial⟩
      · exact ⟨⟨rfl, relay_trace _ _ _ _, relay_not_early p (Nat.succ_ne_zero _) _ _⟩, ih _ _⟩

namespace Job

variable (j : Job)

theorem relayFrom_abandons (p : Provider) : (j.relayFrom p).AtSends Abandons := by
  refine (j.quiet_callStream p).atSends.bind fun r => ?_
  cases r with
  | error e => trivial
  | ok items => exact relay_abandons p 0 "" items

/-- A sample is no call, and there may be no room for it. -/
theorem sample_bind_cases (p : Provider) (r : Except GatewayError Unit) :
    ((j.sample p >>= fun _ => .done r).trace.filter Event.isCall = []) ∧
      ((j.sample p >>= fun _ => .done r).outcome = .finished r ∨
        ∃ cause, (j.sample p >>= fun _ => .done r).outcome = .faulted cause) := by
  rcases j.sample_cases p with ⟨ho, hl⟩ | ⟨cause, ho, hl⟩
  · rw [trace, log_bind_of_finished ho, outcome_bind_of_finished ho, hl]
    exact ⟨rfl, .inl rfl⟩
  · obtain ⟨ho', hl'⟩ := bind_of_faulted (f := fun _ => Course.done r) ho
    rw [trace, hl', ho', hl]
    exact ⟨rfl, .inr ⟨cause, rfl⟩⟩

/-- A relay that is abandoned lets the whole attempt give in. -/
theorem givesIn_of_abandons (attempts : Nat) (p : Provider) (rest : List Provider)
    {next refused : Course RelayEnd} (h : Abandons next refused) :
    GivesIn (next >>= fun ending => j.sample p >>= fun _ => j.afterRelay attempts p rest ending)
      (refused >>= fun ending =>
        j.sample p >>= fun _ => j.afterRelay attempts p rest ending) := by
  obtain ⟨rfl, htrace, hout⟩ := h
  have hrefused := j.sample_bind_cases p (.ok ())
  have hquiet : (j.sample p >>= fun _ =>
      Course.done (Except.ok () : Except GatewayError Unit)).Quiet :=
    (j.quiet_sample p).bind fun _ => trivial
  rw [← unheard_of_quiet hquiet] at hrefused
  refine ⟨?_, hrefused.1, hrefused.2⟩
  rw [trace, log_bind, Mark.events_append, ← trace, htrace, List.nil_append]
  cases ho : next.outcome with
  | finished ending =>
    rcases j.afterRelay_cases attempts p rest ending with ⟨r, hr⟩ | ⟨e, rfl, -⟩
    · dsimp only
      rw [hr]
      exact (j.sample_bind_cases p r).1
    · exact absurd ho (hout e)
  | _ => rfl

theorem streamAttempt_givesIn (ps : List Provider) (attempts : Nat)
    (last : Option ProviderError) : (j.streamAttempt attempts last ps).AtSends GivesIn := by
  induction ps generalizing attempts last with
  | nil => trivial
  | cons p rest ih =>
    rw [streamAttempt_cons]
    refine ((j.relayFrom_abandons p).mono fun _ _ => j.givesIn_of_abandons attempts p rest).bind
      fun ending => (j.quiet_sample p).atSends.bind fun _ => ?_
    rcases j.afterRelay_cases attempts p rest ending with ⟨r, hr⟩ | ⟨e, -, hr⟩
    · rw [hr]
      trivial
    · rw [hr]
      exact ih (attempts + 1) (some e)

theorem streamAlong_givesIn (ps : List Provider) : (j.streamAlong ps).AtSends GivesIn := by
  cases ps with
  | nil => trivial
  | cons p rest =>
    rw [streamAlong]
    split
    · refine (j.quiet_tryOne p).atSends.bind fun r => ?_
      cases r with
      | error e => trivial
      | ok response => exact ⟨⟨rfl, rfl, .inl rfl⟩, trivial⟩
    · exact j.streamAttempt_givesIn _ 0 none

/-- **A streamed request gives in** wherever a chunk of it is refused. -/
theorem stream_givesIn : j.stream.AtSends GivesIn := by
  refine AtSends.bind (c := j.plan) j.prepares_plan.quiet.atSends fun r => ?_
  cases r with
  | error e => trivial
  | ok cs => exact j.streamAlong_givesIn cs

/-! ## After the receiver went away -/

/-- What can be seen of a streamed request whose receiver went away when it was at `m`. -/
structure Departed (j : Job) (m m' : Machine (Except GatewayError Unit)) : Prop where
  /-- Nobody is called who would not have been called anyway. -/
  calls_prefix : m'.events.filter Event.isCall <+: j.stream.trace.filter Event.isCall
  /-- If a chunk was sent before, nobody is called any more. -/
  held : m.received ++ m.queue ≠ [] → m'.events.filter Event.isCall = m.events.filter Event.isCall
  /-- If a chunk was still to come, there is no error. -/
  quiet : m.received ++ m.queue ≠ j.stream.output → ∀ ending, m'.course.ending? = some ending →
    ending = .finished (.ok ()) ∨ ∃ cause, ending = .faulted cause
  /-- If none was, it ends as if the receiver had stayed. -/
  unmoved : m.received ++ m.queue = j.stream.output → ∀ ending, m'.course.ending? = some ending →
    ending = j.stream.outcome
  /-- A request that comes to its end has called all who were to be called. -/
  called : ∀ ending, m'.course.ending? = some ending →
    m'.events.filter Event.isCall = j.stream.trace.filter Event.isCall

variable {j}

/-- What follows from where the request stood, with the marks `h` behind it and `d` before it. -/
theorem departed_of_goesOn {m m' : Machine (Except GatewayError Unit)} {h : List Mark}
    {d : Course (Except GatewayError Unit)} (hb : m.Bears h) (hstay : m.receiving = true)
    (ht : j.stream.Trail h d) (hgrows : m.events <+: m'.events)
    (hgoes : m.GoesOn m' d.unheard.trace d.unheard.outcome) : j.Departed m m' := by
  obtain ⟨hchunks, hunrefused⟩ := hb.chunks_eq hstay
  obtain ⟨hlog, hout⟩ := ht.log hunrefused
  have hgives : d.AtSends GivesIn := ht.atSends hunrefused j.stream_givesIn
  have hcalls : (m.events ++ d.unheard.trace).filter Event.isCall =
      j.stream.trace.filter Event.isCall := by
    rw [List.filter_append, calls_unheard hgives, ← List.filter_append, hb.events_eq, trace, trace,
      ← Mark.events_append, hlog]
  have houtput : j.stream.output = (m.received ++ m.queue) ++ d.output := by
    rw [output, hlog, Mark.chunks_append, ← hchunks, output]
  exact {
    calls_prefix := hcalls ▸ hgoes.events_prefix.filter _
    held := fun hne => by
      have hnone : d.unheard.trace.filter Event.isCall = [] := by
        rw [calls_unheard hgives]
        exact calls_after_chunk j.stream_givesIn hlog (hchunks ▸ hne)
      have hprefix := hgoes.events_prefix.filter Event.isCall
      rw [List.filter_append, hnone, List.append_nil] at hprefix
      exact hprefix.eq_of_length_le (hgrows.filter _).length_le
    quiet := fun hdue ending hending => by
      rw [(hgoes.ended ending hending).1]
      refine outcome_unheard hgives fun hnil => hdue ?_
      rw [houtput, hnil, List.append_nil]
    unmoved := fun hall ending hending => by
      have hnil : d.output = [] := by simpa [hall] using houtput
      rw [(hgoes.ended ending hending).1, unheard_of_quiet (quiet_of_output hnil), hout]
    called := fun ending hending => by rw [(hgoes.ended ending hending).2, hcalls] }

/-- **When the receiver goes away**, a streamed request that is not cancelled gives in at its next
chunk, and only there; and if it works often enough after that it comes to its end. -/
theorem departure (j : Job) (capacity : Nat) {before : List Act} (hd : Act.drop ∉ before) :
    ∃ enough : Nat, ∀ later : List Act,
      ((Machine.start j.stream).run capacity (before ++ .drop :: later)).cancelled = false →
        j.Departed ((Machine.start j.stream).run capacity before)
            ((Machine.start j.stream).run capacity (before ++ .drop :: later)) ∧
          (enough ≤ later.count .work → ∃ ending,
            ((Machine.start j.stream).run capacity (before ++ .drop :: later)).course.ending? =
              some ending) := by
  have htrail := Machine.run_trail capacity j.stream false before
  have hstay : ((Machine.start j.stream).run capacity before).receiving = true :=
    Machine.run_receiving hd
  simp only [Machine.run_append]
  generalize (Machine.start j.stream).run capacity before = m at htrail hstay ⊢
  obtain ⟨h, d, ht, hb, hm⟩ := htrail
  obtain ⟨enough, hgone⟩ := Machine.run_gone (m := m.drop) rfl
  refine ⟨enough, fun later hx => ?_⟩
  change (m.drop.run capacity later).cancelled = false at hx
  have hrest : m.drop.rest = d := by
    rcases hm with hm | ⟨-, hx', -⟩
    · exact hm
    · have hx'' : m.drop.cancelled = false := Machine.cancelled_of_run hx
      exact absurd (hx'.symm.trans hx'') (by simp)
  obtain ⟨hgoes, henough⟩ := hgone capacity later hx
  rw [hrest] at hgoes
  exact ⟨departed_of_goesOn hb hstay ht (Machine.events_prefix_run capacity m.drop later)
    ⟨hgoes.events_prefix, hgoes.ended⟩, fun hn => ⟨_, henough hn⟩⟩

end Job

/-! ## Going away too early and too late -/

/-- The receiver goes away before anything happens. Both providers are called all the same, and when
the chunk of the second one is refused the stream ends well. -/
theorem sound_is_called_unheard :
    Act.drop ∉ [Act.work] ∧
      ((Machine.start (mutedJob 100).stream).run 1
        ([.work] ++ .drop :: List.replicate 12 .work)).cancelled = false ∧
      (mutedJob 100).Departed ((Machine.start (mutedJob 100).stream).run 1 [.work])
        ((Machine.start (mutedJob 100).stream).run 1
          ([.work] ++ .drop :: List.replicate 12 .work)) ∧
      ((Machine.start (mutedJob 100).stream).run 1
        ([.work] ++ .drop :: List.replicate 12 .work)).course = .done (.ok ()) := by
  have hd : Act.drop ∉ [Act.work] := by decide
  have hx : ((Machine.start (mutedJob 100).stream).run 1
      ([.work] ++ .drop :: List.replicate 12 .work)).cancelled = false := rfl
  obtain ⟨_, hlater⟩ := Job.departure (mutedJob 100) 1 hd
  exact ⟨hd, hx, (hlater (List.replicate 12 .work) hx).1, rfl⟩

/-- **Departure is not quiet**: a receiver that goes away when it has the last chunk of a stream
that breaks does not keep the stream from an error. -/
theorem departure_is_not_quiet :
    ¬∀ (j : Job) (capacity : Nat) (before later : List Act), Act.drop ∉ before →
      ((Machine.start j.stream).run capacity (before ++ .drop :: later)).cancelled = false →
        ((Machine.start j.stream).run capacity
            (before ++ .drop :: later)).events.filter Event.isCall =
          ((Machine.start j.stream).run capacity before).events.filter Event.isCall ∧
        ∀ e, ((Machine.start j.stream).run capacity (before ++ .drop :: later)).course ≠
          .done (.error e) := by
  intro h
  have herror : ((Machine.start tornJob.stream).run 1
      (eagerSchedule 6 ++ .drop :: [.work, .work])).course =
        .done (.error (.streamInterrupted "torn" (.streaming "cut"))) := rfl
  exact (h tornJob 1 (eagerSchedule 6) [.work, .work] (by decide) rfl).2 _ herror

end ChatGateway
