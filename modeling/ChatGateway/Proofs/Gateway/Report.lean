import ChatGateway.Proofs.Course.Guarantee
import ChatGateway.Proofs.Gateway.Streaming

/-!
# What a streamed request reports

A receiver that stays until the end knows what it has: a last chunk came if and only if something
came and no error is reported, and an error says how much came (`Job.Agrees`,
`Job.report_agrees`). What carries this over cancellations is that a course is never called off
once a last chunk was sent (`Job.stream_ensures`).
-/

namespace ChatGateway

open Course

/-! ## No cancellation after a last chunk -/

/-- No last chunk was sent. -/
def NoneDone (h : List Mark) : Prop := ∀ c ∈ Mark.chunks h, c.done = false

/-- A course is called off only before a last chunk. -/
def BeforeDone (cut : Cut) (h : List Mark) : Prop := cut = .interrupted → NoneDone h

theorem beforeDone_of_noneDone {h : List Mark} (hn : NoneDone h) (cut : Cut) : BeforeDone cut h :=
  fun _ => hn

theorem beforeDone_running (h : List Mark) : BeforeDone .running h := fun hc => nomatch hc

theorem beforeDone_faulted (cause : Fault) (h : List Mark) : BeforeDone (.faulted cause) h :=
  fun hc => nomatch hc

theorem NoneDone.append {h s : List Mark} (hh : NoneDone h) (hs : NoneDone s) :
    NoneDone (h ++ s) := by
  intro c hc
  rw [Mark.chunks_append, List.mem_append] at hc
  exact hc.elim (hh c) (hs c)

theorem noneDone_seen (e : Event) : NoneDone [.seen e] := fun _ hc => nomatch hc

/-- A quiet course sends no last chunk. -/
theorem Course.Quiet.beforeDone {α : Type} {c : Course α} (hc : c.Quiet) {h : List Mark}
    (hh : NoneDone h) : c.Ensures BeforeDone (fun _ s => NoneDone s) h := by
  have hlog : ∀ s, s <+: c.log → NoneDone (h ++ s) := by
    intro s hs
    refine hh.append fun d hd => ?_
    have hd : d ∈ c.output := (hs.filterMap Mark.chunk?).subset hd
    rw [output_of_quiet hc] at hd
    cases hd
  exact hc.ensures (fun cut s hs => beforeDone_of_noneDone (hlog s hs) cut)
    fun a _ => hlog _ (List.prefix_refl _)

theorem relay_ensures (p : Provider) (forwarded : Nat) (lastId : String)
    (items : List (Reply Delivery)) {h : List Mark} (hh : NoneDone h) :
    (relay p forwarded lastId items).Ensures BeforeDone
      (fun ending s => ∀ e, ending = .failedEarly e → NoneDone s) h := by
  induction items generalizing forwarded lastId h with
  | nil =>
    unfold relay
    split
    · simp
    · exact ⟨beforeDone_running h, beforeDone_of_noneDone hh _, by simp, by simp⟩
  | cons item rest ih =>
    rw [relay, ensures_bind]
    refine ((quiet_await item).beforeDone hh).mono (fun _ _ => id) fun delivery s hs => ?_
    cases delivery with
    | nothing => exact ih forwarded lastId hs
    | failure e => exact fun _ _ => hs
    | chunk c =>
      refine ⟨beforeDone_running s, beforeDone_of_noneDone hs _, ?_, by simp⟩
      split
      · simp
      · rename_i hc
        refine ih (forwarded + 1) c.id (hs.append fun d hd => ?_)
        rw [List.mem_singleton.1 hd]
        change c.done = false
        simpa using hc

namespace Job

variable (j : Job)

/-- A sample is recorded without a wait. -/
theorem sample_ensures (p : Provider) (h : List Mark) :
    (j.sample p).Ensures BeforeDone (fun _ s => NoneDone h → NoneDone s) h := by
  unfold sample
  cases j.reads.signals.latency.ensureRoom with
  | ok _ => exact ⟨beforeDone_running h, fun hh => hh.append (noneDone_seen _)⟩
  | error cause => exact beforeDone_faulted cause h

theorem relayFrom_ensures (p : Provider) {h : List Mark} (hh : NoneDone h) :
    (j.relayFrom p).Ensures BeforeDone
      (fun ending s => ∀ e, ending = .failedEarly e → NoneDone s) h := by
  rw [relayFrom, ensures_bind]
  refine ((j.quiet_callStream p).beforeDone hh).mono (fun _ _ => id) fun r s hs => ?_
  cases r with
  | error e => exact fun _ _ => hs
  | ok items => exact relay_ensures p 0 "" items hs

theorem streamAttempt_ensures (ps : List Provider) (attempts : Nat)
    (last : Option ProviderError) {h : List Mark} (hh : NoneDone h) :
    (j.streamAttempt attempts last ps).Ensures BeforeDone (fun _ _ => True) h := by
  induction ps generalizing attempts last h with
  | nil => trivial
  | cons p rest ih =>
    rw [streamAttempt_cons, ensures_bind]
    refine (j.relayFrom_ensures p hh).mono (fun _ _ => id) fun ending s hs => ?_
    rw [ensures_bind]
    refine (j.sample_ensures p s).mono (fun _ _ => id) fun _ s' hs' => ?_
    rcases j.afterRelay_cases attempts p rest ending with ⟨r, hr⟩ | ⟨e, rfl, hr⟩
    · rw [hr]
      trivial
    · rw [hr]
      exact ih (attempts + 1) (some e) (hs' (hs e rfl))

theorem streamAlong_ensures (ps : List Provider) {h : List Mark} (hh : NoneDone h) :
    (j.streamAlong ps).Ensures BeforeDone (fun _ _ => True) h := by
  cases ps with
  | nil => trivial
  | cons p rest =>
    rw [streamAlong]
    split
    · rw [streamWhole, ensures_bind]
      refine ((j.quiet_tryOne p).beforeDone hh).mono (fun _ _ => id) fun r s hs => ?_
      cases r with
      | error e => trivial
      | ok response =>
        exact ⟨beforeDone_running s, beforeDone_of_noneDone hs _, trivial, trivial⟩
    · exact j.streamAttempt_ensures _ 0 none hh

/-- **A streamed request** is never called off once a last chunk was sent. -/
theorem stream_ensures : j.stream.Ensures BeforeDone (fun _ _ => True) [] := by
  have hnone : NoneDone [] := fun _ hc => nomatch hc
  refine ⟨beforeDone_running [], fun _ => beforeDone_of_noneDone hnone _, ?_⟩
  rw [ensures_bind]
  refine (j.prepares_plan.quiet.beforeDone hnone).mono (fun _ _ => id) fun r s hs => ?_
  cases r with
  | error e => trivial
  | ok cs => exact j.streamAlong_ensures cs hs

/-! ## What the report says -/

/-- The report of a streamed request agrees with what its receiver has. -/
structure Agrees (j : Job) (events : List Event) (received : List StreamChunk)
    (report : Except GatewayError Unit) : Prop where
  /-- A last chunk comes last. -/
  done_last : ∀ before c after, received = before ++ c :: after → c.done = true → after = []
  /-- A last chunk comes if and only if something comes and nothing goes wrong. -/
  done_iff : (∃ c ∈ received, c.done = true) ↔ received ≠ [] ∧ report = .ok ()
  unregistered : report = .error .noProvidersRegistered → received = []
  all_failed : ∀ attempts e, report = .error (.allProvidersFailed attempts e) → received = []
  empty : report = .error .emptyStream → received = []
  /-- An interruption names the provider whose chunks were received, and how its stream failed. -/
  broken : ∀ name e, report = .error (.streamInterrupted name e) →
    received ≠ [] ∧ (∀ c ∈ received, c.done = false ∧ c.provider = some name) ∧
      ∃ p before item after, p.name = name ∧ j.Opens p (before ++ item :: after) ∧
        item.answer = some (.failure e) ∧
        received = (before.filterMap Reply.chunk?).map (·.from p)
  cancelled : report = .error .cancelled → ∀ c ∈ received, c.done = false
  /-- Nothing at all comes only of an empty stream, where that is no error. -/
  silent : received = [] → report = .ok () →
    j.settings.emptyStreamIsError = false ∧
      ∃ before p items, events =
          before ++ [.called (.stream p), .sampled p.name (j.backends.elapsed p)] ∧
        j.Opens p items ∧ ∀ item ∈ items, item.answer = some .nothing

variable {j} {events : List Event} {received : List StreamChunk}
  {report : Except GatewayError Unit}

theorem agrees_of_nil {e : GatewayError} (he : ∀ name source, e ≠ .streamInterrupted name source) :
    j.Agrees events [] (.error e) where
  done_last := by simp
  done_iff := by simp
  unregistered := by simp
  all_failed := by simp
  empty := by simp
  broken := fun name source hr => absurd (Except.error.inj hr) (he name source)
  cancelled := by simp
  silent := by simp

theorem agrees_of_cancelled (hr : ∀ c ∈ received, c.done = false) :
    j.Agrees events received (.error .cancelled) where
  done_last := by
    rintro before c after rfl hc
    rw [hr c (by simp)] at hc
    cases hc
  done_iff := by simpa using hr
  unregistered := by simp
  all_failed := by simp
  empty := by simp
  broken := by simp
  cancelled := fun _ => hr
  silent := by simp

theorem agrees_of_done {init : List StreamChunk} {last : StreamChunk} (hlast : last.done = true)
    (hinit : ∀ c ∈ init, c.done = false) : j.Agrees events (init ++ [last]) (.ok ()) where
  done_last := by
    intro before c after heq hc
    rcases List.append_eq_append_iff.1 heq with ⟨mid, rfl, hmid⟩ | ⟨mid, rfl, hmid⟩
    · cases mid with
      | nil =>
        have hmid : last = c ∧ after = [] := by simpa using hmid
        exact hmid.2
      | cons d mid => simp at hmid
    · cases mid with
      | nil =>
        have hmid : c = last ∧ after = [] := by simpa using hmid
        exact hmid.2
      | cons d mid =>
        -- the chunk would be one of those before the last
        obtain ⟨rfl, -⟩ := List.cons.inj hmid
        rw [hinit c (by simp)] at hc
        cases hc
  done_iff := ⟨fun _ => ⟨by simp, rfl⟩, fun _ => ⟨last, by simp, hlast⟩⟩
  unregistered := by simp
  all_failed := by simp
  empty := by simp
  broken := by simp
  cancelled := by simp
  silent := by simp

theorem agrees_of_broken {p : Provider} {items : List (Reply Delivery)} {e : ProviderError}
    (ho : j.Opens p items) (hne : streamChunks items ≠ []) (he : streamEnd items = .broken e) :
    j.Agrees events (relayed p items) (.error (.streamInterrupted p.name e)) := by
  have hdone : ∀ c ∈ streamChunks items, c.done = false := by
    have hdone := streamChunks_done items
    rwa [if_neg (by simp [he])] at hdone
  have hmap : ∀ c ∈ (streamChunks items).map (·.from p),
      c.done = false ∧ c.provider = some p.name := by
    intro c hc
    obtain ⟨d, hd, rfl⟩ := List.mem_map.1 hc
    exact ⟨hdone d hd, rfl⟩
  obtain ⟨before, item, after, rfl, hitem, hchunks⟩ := streamChunks_of_broken he
  rw [relayed_of_ended (by simp [he])]
  exact {
    done_last := by
      intro pre c post heq hc
      rw [(hmap c (by simp [heq])).1] at hc
      cases hc
    done_iff := by
      constructor
      · rintro ⟨c, hc, hd⟩
        rw [(hmap c hc).1] at hd
        cases hd
      · rintro ⟨-, hr⟩
        cases hr
    unregistered := by simp
    all_failed := by simp
    empty := by simp
    broken := by
      intro name source hr
      obtain ⟨rfl, rfl⟩ := GatewayError.streamInterrupted.inj (Except.error.inj hr)
      exact ⟨by simpa using hne, hmap, p, before, item, after, rfl, ho, hitem, by rw [hchunks]⟩
    cancelled := by simp
    silent := by simp }

theorem Relays.agrees {ps : List Provider} {ending : Ending (Except GatewayError Unit)}
    (h : j.Relays ps events received ending) (hr : ending.result? = some report) :
    j.Agrees events received report := by
  cases h with
  | failed =>
    cases hr
    exact agrees_of_nil fun _ _ => by simp
  | @empty before p items hp ho hc he =>
    obtain rfl : (if j.settings.emptyStreamIsError then .error .emptyStream else .ok ()) = report :=
      Option.some.inj hr
    cases hset : j.settings.emptyStreamIsError with
    | true => exact agrees_of_nil fun _ _ => by simp
    | false =>
      exact {
        done_last := by simp
        done_iff := by simp
        unregistered := by simp
        all_failed := by simp
        empty := by simp
        broken := by simp
        cancelled := by simp
        silent := fun _ _ => ⟨hset, before, p, items, rfl, ho, nothing_of_exhausted hc he⟩ }
  | whole hp ho hc he =>
    cases hr
    obtain ⟨init, last, hrel, hlast, hinit⟩ := relayed_of_whole _ hc he
    rw [hrel]
    exact agrees_of_done hlast hinit
  | broken hp ho hc he =>
    cases hr
    exact agrees_of_broken ho hc he
  | stuck hc he =>
    rw [he] at hr
    cases hr

theorem Streams.agrees {ending : Ending (Except GatewayError Unit)}
    (h : j.Streams events received ending) (hr : ending.result? = some report) :
    j.Agrees events received report := by
  cases h with
  | refused he =>
    cases hr
    refine agrees_of_nil fun name source => ?_
    rcases plan_eq_error he with rfl | ⟨cause, rfl⟩ <;> simp
  | along hplan hs hrelays => exact hrelays.agrees hr
  | @whole first rest r hplan hs ha =>
    cases hr
    change j.Agrees events ([] ++ [r.asChunk first]) (.ok ())
    exact agrees_of_done rfl (by simp)
  | failed =>
    cases hr
    exact agrees_of_nil fun _ _ => by simp
  | stuck he =>
    rw [he] at hr
    cases hr

/-- **The report agrees** with what a receiver has that stays until the end and takes everything,
whatever the schedule and wherever the request is cancelled. -/
theorem report_agrees {j : Job} {capacity : Nat} {cancelled : Bool} {schedule : List Act}
    {report : Except GatewayError Unit} (hd : Act.drop ∉ schedule)
    (hq : ((Machine.start j.stream cancelled).run capacity schedule).queue = [])
    (hr : ((Machine.start j.stream cancelled).run capacity schedule).course.ending?.bind
      Ending.result? = some report) :
    j.Agrees ((Machine.start j.stream cancelled).run capacity schedule).events
      ((Machine.start j.stream cancelled).run capacity schedule).received report := by
  have hkeeps := Machine.run_ensures j.stream_ensures capacity cancelled schedule
  obtain ⟨h, hf⟩ := Machine.run_follows capacity j.stream cancelled hd
  have hstay : ((Machine.start j.stream cancelled).run capacity schedule).receiving = true :=
    Machine.run_receiving hd
  generalize (Machine.start j.stream cancelled).run capacity schedule = m at *
  obtain ⟨ending, hending, hresult⟩ := Option.bind_eq_some_iff.1 hr
  rcases hf.ended ending hending with ⟨hout, hlog⟩ | ⟨rfl, -⟩
  · have hreceived : m.received = j.stream.output := by
      have hchunks := (hf.bears.chunks_eq hstay).1
      rwa [hq, List.append_nil, ← hlog] at hchunks
    have hevents : m.events = j.stream.trace := by rw [hf.bears.events_eq, ← hlog, trace]
    rw [hreceived, hevents]
    exact j.stream_streams.agrees (hout ▸ hresult)
  · -- called off: what was received is a beginning of what was sent before any last chunk
    cases hresult
    obtain ⟨s, hbears, hs⟩ := hkeeps
    have hcourse : m.course = .interrupted := by
      cases hc : m.course <;> rw [hc] at hending <;> cases hending
    rw [hcourse] at hs
    exact agrees_of_cancelled fun c hc => hs rfl c (hbears.received_prefix.subset hc)

end Job

/-! ## A stream that breaks -/

/-- The provider of a stream that breaks. -/
def tornProvider : Provider :=
  ⟨{ name := "torn", models := [], streaming := true, streamEntry := true }, .server 0⟩

/-- A request for that stream. -/
def tornJob : Job where
  settings :=
    { probes := [], bufferCapacity := 1, emptyStreamIsError := true, strictSelection := false }
  services := {}
  backends :=
    { health := fun _ => .now (.ok ())
      chat := fun _ => .now (.error (.remote "down"))
      stream := fun _ => .now (.ok
        [.now (.chunk (.delta "id" "text")), .now (.failure (.streaming "cut"))])
      elapsed := fun _ => .oneSecond }
  reads :=
    { selecting := [tornProvider], kind := .balanced, rules := none
      signals := ⟨[], .ofCapacity 1⟩, rotation := {}, probing := [tornProvider], billing := [] }
  caller := none
  request := { model := "model", messages := [] }

/-- The receiver takes each chunk at once. -/
def eagerSchedule (n : Nat) : List Act := (List.replicate n [Act.work, Act.receive]).flatten

theorem torn_report_agrees :
    Act.drop ∉ eagerSchedule 20 ∧
      ((Machine.start tornJob.stream).run 1 (eagerSchedule 20)).queue = [] ∧
      ((Machine.start tornJob.stream).run 1 (eagerSchedule 20)).course.ending?.bind
        Ending.result? = some (.error (.streamInterrupted "torn" (.streaming "cut"))) ∧
      tornJob.Agrees ((Machine.start tornJob.stream).run 1 (eagerSchedule 20)).events
        ((Machine.start tornJob.stream).run 1 (eagerSchedule 20)).received
        (.error (.streamInterrupted "torn" (.streaming "cut"))) := by
  have hd : Act.drop ∉ eagerSchedule 20 := by decide
  have hq : ((Machine.start tornJob.stream).run 1 (eagerSchedule 20)).queue = [] := rfl
  have hr : ((Machine.start tornJob.stream).run 1 (eagerSchedule 20)).course.ending?.bind
      Ending.result? = some (.error (.streamInterrupted "torn" (.streaming "cut"))) := rfl
  exact ⟨hd, hq, hr, Job.report_agrees hd hq hr⟩

end ChatGateway
