import ChatGateway.Gateway.Route
import ChatGateway.Gateway.Stream
import ChatGateway.Proofs.Course.Guarantee
import ChatGateway.Proofs.Gateway.Planning

/-!
# Who is asked

Whatever the schedule, whoever cancels the request and whether or not the chunks are taken, a
request asks only providers of its plan for an answer (`Job.within_route`, `Job.within_stream`).
More generally, what holds of the making of the plan and of asking its providers holds of all that
happens (`Job.route_within`, `Job.stream_within`).
-/

namespace ChatGateway

open Course

/-- A provider that is asked for an answer is of a kind. -/
def Event.AsksOnly (ok : Provider → Prop) : Event → Prop
  | .called (.chat p) => ok p
  | .called (.stream p) => ok p
  | _ => True

theorem Event.asksOnly_of_prepares {e : Event} (h : e.prepares = true) (ok : Provider → Prop) :
    e.AsksOnly ok := by
  cases e with
  | called call =>
    cases call with
    | chat p => cases h
    | stream p => cases h
    | _ => trivial
  | _ => trivial

variable {ok : Event → Prop}

theorem within_relay {p : Provider} (forwarded : Nat) (lastId : String)
    (items : List (Reply Delivery)) : (relay p forwarded lastId items).Within ok := by
  induction items generalizing forwarded lastId with
  | nil =>
    unfold relay
    split
    · exact within_done _
    · exact within_send (within_done _) (within_done _)
  | cons item rest ih =>
    refine (within_await item).bind fun delivery => ?_
    cases delivery with
    | nothing => exact ih forwarded lastId
    | failure e => exact within_done _
    | chunk c =>
      refine within_send ?_ (within_done _)
      split
      · exact within_done _
      · exact ih (forwarded + 1) c.id

namespace Job

/-- All that comes of asking a provider for an answer is of a kind. -/
structure Admits (j : Job) (ok : Event → Prop) (p : Provider) : Prop where
  chat : ok (.called (.chat p))
  stream : ok (.called (.stream p))
  sample : ok (.sampled p.name (j.backends.elapsed p))

variable {j : Job} {p : Provider}

theorem admits_asksOnly {ask : Provider → Prop} (h : ask p) :
    j.Admits (Event.AsksOnly ask) p :=
  ⟨h, h, trivial⟩

theorem quiet_sample (j : Job) (p : Provider) : (j.sample p).Quiet :=
  (quiet_ofExcept _).bind fun _ => trivial

theorem quiet_tryOne (j : Job) (p : Provider) : (j.tryOne p).Quiet := by
  have call : (j.backends.callChat p).Quiet := quiet_await _
  exact call.bind fun _ => (j.quiet_sample p).bind fun _ => trivial

theorem quiet_callStream (j : Job) (p : Provider) : (j.backends.callStream p).Quiet := by
  unfold Backends.callStream
  split
  · exact quiet_await _
  · trivial

theorem within_sample (hp : j.Admits ok p) : (j.sample p).Within ok :=
  (within_ofExcept _).bind fun _ => within_emit hp.sample (within_done _)

theorem within_tryOne (hp : j.Admits ok p) : (j.tryOne p).Within ok := by
  have call : (j.backends.callChat p).Within ok := within_emit hp.chat (within_await _)
  exact call.bind fun _ => (within_sample hp).bind fun _ => within_done _

theorem within_attempt {ps : List Provider} (hps : ∀ p ∈ ps, j.Admits ok p) (attempts : Nat)
    (last : Option ProviderError) : (j.attempt attempts last ps).Within ok := by
  induction ps generalizing attempts last with
  | nil => exact within_done _
  | cons p rest ih =>
    obtain ⟨hp, hrest⟩ := List.forall_mem_cons.1 hps
    refine within_check ((within_tryOne hp).bind fun result => ?_)
    cases result with
    | ok response => exact within_done _
    | error e => exact ih hrest (attempts + 1) (some e)

theorem within_relayFrom (hp : j.Admits ok p) : (j.relayFrom p).Within ok := by
  have call : (j.backends.callStream p).Within ok := by
    refine within_emit hp.stream ?_
    split
    · exact within_await _
    · exact within_done _
  refine call.bind fun items => ?_
  cases items with
  | error e => exact within_done _
  | ok items => exact within_relay 0 "" items

theorem within_streamAttempt {ps : List Provider} (hps : ∀ p ∈ ps, j.Admits ok p)
    (attempts : Nat) (last : Option ProviderError) :
    (j.streamAttempt attempts last ps).Within ok := by
  induction ps generalizing attempts last with
  | nil => exact within_done _
  | cons p rest ih =>
    obtain ⟨hp, hrest⟩ := List.forall_mem_cons.1 hps
    refine (within_relayFrom hp).bind fun ending => (within_sample hp).bind fun _ => ?_
    match ending with
    | .finished 0 => exact within_done _
    | .finished (_ + 1) => exact within_done _
    | .abandoned => exact within_done _
    | .failedLate e => exact within_done _
    | .failedEarly e => exact ih hrest (attempts + 1) (some e)

theorem within_streamAlong {ps : List Provider} (hps : ∀ p ∈ ps, j.Admits ok p) :
    (j.streamAlong ps).Within ok := by
  cases ps with
  | nil => exact within_done _
  | cons p rest =>
    have hp : j.Admits ok p := hps p List.mem_cons_self
    rw [streamAlong]
    split
    · refine (within_tryOne hp).bind fun result => ?_
      cases result with
      | error e => exact within_done _
      | ok response => exact within_send (within_done _) (within_done _)
    · split
      · exact within_streamAttempt (List.forall_mem_singleton.2 hp) 0 none
      · exact within_streamAttempt hps 0 none

/-- All events of a request are of a kind if those of its plan are and all that comes of asking the
providers of the plan. -/
theorem route_within (hplan : ∀ e ∈ j.plan.trace, ok e)
    (hp : ∀ cs, j.plan.outcome = .finished (.ok cs) → ∀ p ∈ cs, j.Admits ok p) :
    j.route.Within ok := by
  refine within_bind_of_quiet j.prepares_plan.quiet.shield (fun e he => ?_) fun result hr => ?_
  · rw [trace_shield] at he
    exact hplan e he
  · rw [outcome_shield] at hr
    cases result with
    | error e => exact within_done _
    | ok cs => exact within_attempt (hp cs hr) 0 none

theorem stream_within (hplan : ∀ e ∈ j.plan.trace, ok e)
    (hp : ∀ cs, j.plan.outcome = .finished (.ok cs) → ∀ p ∈ cs, j.Admits ok p) :
    j.stream.Within ok := by
  refine within_pause (within_bind_of_quiet j.prepares_plan.quiet hplan fun result hr => ?_)
  cases result with
  | error e => exact within_done _
  | ok cs => exact within_streamAlong (hp cs hr)

variable (j) {ask : Provider → Prop}

/-- **Routing asks only providers of the plan.** -/
theorem within_route (hp : ∀ cs, j.plan.outcome = .finished (.ok cs) → ∀ p ∈ cs, ask p) :
    j.route.Within (Event.AsksOnly ask) :=
  route_within (fun e he => Event.asksOnly_of_prepares (j.prepares_plan.events e he) ask)
    fun cs hcs p hpcs => admits_asksOnly (hp cs hcs p hpcs)

/-- **Streaming asks only providers of the plan.** -/
theorem within_stream (hp : ∀ cs, j.plan.outcome = .finished (.ok cs) → ∀ p ∈ cs, ask p) :
    j.stream.Within (Event.AsksOnly ask) :=
  stream_within (fun e he => Event.asksOnly_of_prepares (j.prepares_plan.events e he) ask)
    fun cs hcs p hpcs => admits_asksOnly (hp cs hcs p hpcs)

end Job

end ChatGateway
