import ChatGateway.Gateway.State
import ChatGateway.Proofs.Course.Confluence
import ChatGateway.Proofs.Gateway.Report

/-!
# Room for chunks on their way

How many chunks may be on their way to the receiver of a stream is a matter of the configuration
alone, and it makes no difference to what comes of a request: two streams of the same request that
have come to their end, over channels of any two capacities and under any two schedules, have
brought the same chunks and the same error or none (`Job.buffer_makes_no_difference`). There are
never more chunks on their way than the channel has room for.
-/

namespace ChatGateway

open Course

/-- The configuration with another number of chunks that may be on their way. -/
def RoutingConfig.withBuffer (config : RoutingConfig) (n : Nat) : RoutingConfig :=
  { config with streamBuffer := n }

namespace Job

/-- A request to a gateway of a configuration, with whatever it reads of the state of the gateway.
-/
def under (config : RoutingConfig) (services : Services) (backends : Backends) (reads : Reads)
    (caller : Option CallerId) (request : ChatRequest) : Job where
  settings := (Gateway.ofConfig config services).settings
  services := services
  backends := backends
  reads := reads
  caller := caller
  request := request

/-- The streamed request after a schedule, if a channel can be made for it. -/
def streamAfter (j : Job) (schedule : List Act) :
    Except Fault (Machine (Except GatewayError Unit)) :=
  j.openStream.map fun course =>
    (Machine.start course).run j.settings.bufferCapacity schedule

theorem streamAfter_eq_ok {j : Job} {schedule : List Act}
    {m : Machine (Except GatewayError Unit)} (h : j.streamAfter schedule = .ok m) :
    m = (Machine.start j.stream).run j.settings.bufferCapacity schedule := by
  unfold streamAfter openStream at h
  split at h
  · exact (Except.ok.inj h).symm
  · cases h

variable (config : RoutingConfig) (services : Services) (backends : Backends) (reads : Reads)
  (caller : Option CallerId) (request : ChatRequest)

theorem streamAlong_withBuffer (n : Nat) (ps : List Provider) :
    (under (config.withBuffer n) services backends reads caller request).streamAlong ps =
      (under config services backends reads caller request).streamAlong ps :=
  streamAlong_congr (under config services backends reads caller request)
    (under (config.withBuffer n) services backends reads caller request) rfl rfl rfl rfl ps

/-- The course of a request does not depend on the capacity of its channel. -/
theorem stream_withBuffer (n : Nat) :
    (under (config.withBuffer n) services backends reads caller request).stream =
      (under config services backends reads caller request).stream := by
  refine congrArg (fun f => Course.pause false (_ >>= f)) (funext fun result => ?_)
  cases result with
  | error e => rfl
  | ok cs => exact streamAlong_withBuffer config services backends reads caller request n cs

/-- **The buffer makes no difference.** Of a request whose stream is opened there are never more
chunks on their way than the configuration says, or one if it says none. And if nobody goes away and
nothing is cancelled, a stream that has come to its end, with all chunks taken, shows what comes of
the same request with any other buffer under any other schedule: while it goes on its receiver has a
beginning of the same chunks, and at its end it has the same chunks and the same error or none. It
does come to its end, once the receiver and the request have taken turns often enough. -/
theorem buffer_makes_no_difference (n n' : Nat) :
    (∀ (schedule : List Act) (m : Machine (Except GatewayError Unit)),
      (under (config.withBuffer n) services backends reads caller request).streamAfter schedule =
          .ok m →
        m.queue.length ≤ max n 1) ∧
    ∀ (schedule : List Act) (m : Machine (Except GatewayError Unit)),
      (under (config.withBuffer n) services backends reads caller request).streamAfter schedule =
          .ok m →
        Undisturbed schedule → m.cancelled = false → m.Drained →
          ∃ enough : Nat, ∀ (schedule' : List Act) (m' : Machine (Except GatewayError Unit)),
            (under (config.withBuffer n') services backends reads caller request).streamAfter
                schedule' = .ok m' →
              Undisturbed schedule' →
                m'.DecidedBy m ∧
                  ((List.replicate enough [Act.receive, .work]).flatten.Sublist schedule' →
                    m'.Drained) := by
  refine ⟨fun schedule m h => ?_, fun schedule m h hs hx hm => ?_⟩
  · rw [streamAfter_eq_ok h]
    exact Machine.run_queue_le _ false schedule
  · obtain rfl := streamAfter_eq_ok h
    obtain ⟨enough, hdecides⟩ := hm.decides hs hx
    refine ⟨enough, fun schedule' m' h' hs' => ?_⟩
    obtain rfl := streamAfter_eq_ok h'
    have hcap : 0 < max n' 1 := by omega
    have hsame := hdecides (max n' 1) schedule' hcap hs'
    simp only [stream_withBuffer] at hsame ⊢
    exact hsame

end Job

/-! ## A stream over two channels -/

/-- A provider that sends three chunks, gives way before the last of them, and then breaks. -/
def chattyBackends : Backends :=
  { tornJob.backends with
    stream := fun _ => .now (.ok
      [.now (.chunk (.delta "id" "a")), .now (.chunk (.delta "id" "b")),
        { beats := [.wait], answer := some (.chunk (.delta "id" "c")) },
        .now (.failure (.streaming "cut"))]) }

/-- A request to that provider, over a channel for so many chunks. -/
def chattyJob (n : Nat) : Job :=
  .under (({} : RoutingConfig).withBuffer n) {} chattyBackends tornJob.reads none tornJob.request

/-- What comes of the request over the smallest channel, when each chunk is taken at once. -/
def chattyEnd : Machine (Except GatewayError Unit) :=
  (Machine.start (chattyJob 0).stream).run 1 (eagerSchedule 16)

/-- What comes of it over a larger one, when nothing is taken before the end. -/
def chattyLateEnd : Machine (Except GatewayError Unit) :=
  (Machine.start (chattyJob 3).stream).run 3 (List.replicate 16 .work ++ List.replicate 3 .receive)

/-- No chunk is lost over the smallest channel, and the break is reported over both. -/
theorem chatty_is_heard_alike :
    (chattyJob 0).streamAfter (eagerSchedule 16) = .ok chattyEnd ∧
      (chattyJob 3).streamAfter (List.replicate 16 .work ++ List.replicate 3 .receive) =
        .ok chattyLateEnd ∧
      chattyEnd.received.map (·.content) = ["a", "b", "c"] ∧
      chattyEnd.course.ending? =
        some (.finished (.error (.streamInterrupted "torn" (.streaming "cut")))) ∧
      chattyLateEnd.received = chattyEnd.received ∧
      chattyLateEnd.course.ending? = chattyEnd.course.ending? := by
  have hend : (chattyJob 0).streamAfter (eagerSchedule 16) = .ok chattyEnd := rfl
  have hlate : (chattyJob 3).streamAfter
      (List.replicate 16 .work ++ List.replicate 3 .receive) = .ok chattyLateEnd := rfl
  have hdrained : chattyEnd.Drained := ⟨rfl, rfl⟩
  have hlateDrained : chattyLateEnd.Drained := ⟨rfl, rfl⟩
  obtain ⟨-, hdecides⟩ := Job.buffer_makes_no_difference {} {} chattyBackends tornJob.reads none
    tornJob.request 0 3
  obtain ⟨_, hothers⟩ := hdecides _ chattyEnd hend (by decide) rfl hdrained
  obtain ⟨hreceived, hending⟩ := (hothers _ chattyLateEnd hlate (by decide)).1.same hlateDrained
  exact ⟨hend, hlate, rfl, rfl, hreceived, hending⟩

end ChatGateway
