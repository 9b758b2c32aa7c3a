import ChatGateway.Gateway.State
import ChatGateway.Proofs.Course.Following
import ChatGateway.Proofs.Gateway.Attempts
import ChatGateway.Proofs.Gateway.Passing

/-!
# Relayed streams

What a stream brings is read off its deliveries: the chunks up to its end (`streamChunks`) and how
it ends (`streamEnd`). A relay passes on just these chunks, and adds an empty last one where the
stream does not bring one itself (`relayed`, `relay_eq`), which makes them chunks under the name of
their provider and nothing else (`Passes`). Along a plan at most one provider's stream comes through
(`Job.Relays`, `Job.brings_streamAttempt`).
-/

namespace ChatGateway

open Course

/-! ## What a stream brings -/

/-- How a stream ends. -/
inductive StreamEnd where
  /-- With a last chunk. -/
  | closed
  /-- Without one. -/
  | exhausted
  | broken (error : ProviderError)
  /-- It never brings what comes next. -/
  | endless
deriving DecidableEq, Repr

/-- The chunk of a delivery. -/
def Reply.chunk? (r : Reply Delivery) : Option StreamChunk :=
  match r.answer with
  | some (.chunk c) => some c
  | _ => none

/-- The chunks of a stream up to its end. -/
def streamChunks : List (Reply Delivery) → List StreamChunk
  | [] => []
  | item :: rest =>
    match item.answer with
    | some (.chunk c) => if c.done then [c] else c :: streamChunks rest
    | some .nothing => streamChunks rest
    | _ => []

/-- How a stream ends. -/
def streamEnd : List (Reply Delivery) → StreamEnd
  | [] => .exhausted
  | item :: rest =>
    match item.answer with
    | some (.chunk c) => if c.done then .closed else streamEnd rest
    | some .nothing => streamEnd rest
    | some (.failure e) => .broken e
    | none => .endless

/-- A stream that brings no last chunk by itself. -/
theorem streamChunks_of_exhausted {items : List (Reply Delivery)}
    (h : streamEnd items = .exhausted) :
    streamChunks items = items.filterMap Reply.chunk? ∧
      (∀ c ∈ items.filterMap Reply.chunk?, c.done = false) ∧
      ∀ item ∈ items, ∃ d, item.answer = some d ∧ ∀ e, d ≠ .failure e := by
  induction items with
  | nil => exact ⟨rfl, by simp, by simp⟩
  | cons item rest ih =>
    obtain ⟨beats, answer⟩ := item
    match answer with
    | some (.chunk c) =>
      cases hd : c.done with
      | true => simp [streamEnd, hd] at h
      | false =>
        obtain ⟨hc, hdone, hall⟩ := ih (by simpa [streamEnd, hd] using h)
        have hone : (Reply.mk beats (some (.chunk c))).chunk? = some c := rfl
        rw [List.filterMap_cons_some hone]
        refine ⟨?_, List.forall_mem_cons.2 ⟨hd, hdone⟩,
          List.forall_mem_cons.2 ⟨⟨_, rfl, by simp⟩, hall⟩⟩
        simp [streamChunks, hd, hc]
    | some .nothing =>
      obtain ⟨hc, hdone, hall⟩ := ih h
      exact ⟨hc, hdone, List.forall_mem_cons.2 ⟨⟨_, rfl, by simp⟩, hall⟩⟩
    | some (.failure e) => cases h
    | none => cases h

/-- A stream that breaks. -/
theorem streamChunks_of_broken {items : List (Reply Delivery)} {e : ProviderError}
    (h : streamEnd items = .broken e) :
    ∃ before item later, items = before ++ item :: later ∧ item.answer = some (.failure e) ∧
      streamChunks items = before.filterMap Reply.chunk? := by
  induction items with
  | nil => cases h
  | cons item rest ih =>
    obtain ⟨beats, answer⟩ := item
    match answer with
    | some (.chunk c) =>
      cases hd : c.done with
      | true => simp [streamEnd, hd] at h
      | false =>
        obtain ⟨before, item, later, rfl, hitem, hc⟩ := ih (by simpa [streamEnd, hd] using h)
        have hone : (Reply.mk beats (some (.chunk c))).chunk? = some c := rfl
        refine ⟨_ :: before, item, later, rfl, hitem, ?_⟩
        rw [List.filterMap_cons_some hone, ← hc]
        simp [streamChunks, hd]
    | some .nothing =>
      obtain ⟨before, item, later, rfl, hitem, hc⟩ := ih h
      exact ⟨_ :: before, item, later, rfl, hitem, hc⟩
    | some (.failure e') =>
      cases h
      exact ⟨[], _, rest, rfl, rfl, rfl⟩
    | none => cases h

/-- Only a stream that is closed brings a last chunk, and that comes last. -/
theorem streamChunks_done (items : List (Reply Delivery)) :
    if streamEnd items = .closed then
      ∃ init last, streamChunks items = init ++ [last] ∧ last.done = true ∧
        ∀ c ∈ init, c.done = false
    else ∀ c ∈ streamChunks items, c.done = false := by
  induction items with
  | nil => simp [streamEnd, streamChunks]
  | cons item rest ih =>
    obtain ⟨beats, answer⟩ := item
    match answer with
    | some (.chunk c) =>
      cases hd : c.done with
      | true =>
        simp only [streamEnd, streamChunks, hd, if_true]
        exact ⟨[], c, rfl, hd, by simp⟩
      | false =>
        simp only [streamEnd, streamChunks, hd, Bool.false_eq_true, if_false]
        split at ih
        · rename_i hclosed
          rw [if_pos hclosed]
          obtain ⟨init, last, hc, hlast, hinit⟩ := ih
          exact ⟨c :: init, last, by rw [hc]; rfl, hlast, List.forall_mem_cons.2 ⟨hd, hinit⟩⟩
        · rename_i hopen
          rw [if_neg hopen]
          exact List.forall_mem_cons.2 ⟨hd, ih⟩
    | some .nothing => exact ih
    | some (.failure e) => simp [streamEnd, streamChunks]
    | none => simp [streamEnd, streamChunks]

/-! ## What a relay passes on -/

/-- The empty last chunk that a relay adds, if chunks were passed on and the stream just stops.
The last chunk that was passed on before had the identifier `lastId?`. -/
def closing (p : Provider) (lastId? : Option String) (items : List (Reply Delivery)) :
    List StreamChunk :=
  match streamEnd items, ((streamChunks items).getLast?.map (·.id)).or lastId? with
  | .exhausted, some id => [(StreamChunk.terminal id).from p]
  | _, _ => []

/-- The chunks that are passed on. -/
def relayed (p : Provider) (items : List (Reply Delivery)) : List StreamChunk :=
  (streamChunks items).map (·.from p) ++ closing p none items

/-- How a relay ends after so many chunks. -/
def relayEnding (chunks : Nat) : StreamEnd → Ending RelayEnd
  | .closed => .finished (.finished chunks)
  | .exhausted => .finished (.finished chunks)
  | .broken e => .finished (if chunks = 0 then .failedEarly e else .failedLate e)
  | .endless => .stalled

theorem closing_chunk {p : Provider} {lastId? : Option String} {c : StreamChunk}
    {beats : List Beat} {rest : List (Reply Delivery)} (h : c.done = false) :
    closing p lastId? (⟨beats, some (.chunk c)⟩ :: rest) = closing p (some c.id) rest := by
  simp only [closing, streamEnd, streamChunks, h, Bool.false_eq_true, if_false]
  cases hr : streamChunks rest with
  | nil => rfl
  | cons d ds =>
    have hlast : (c :: d :: ds).getLast? = (d :: ds).getLast? := List.getLast?_cons_cons
    rw [hlast, List.getLast?_cons]
    rfl

/-- **A relay** passes on what the stream brings. -/
theorem relay_eq (p : Provider) (forwarded : Nat) (lastId : String)
    (items : List (Reply Delivery)) :
    (relay p forwarded lastId items).log =
        ((streamChunks items).map (·.from p) ++
          closing p (if forwarded = 0 then none else some lastId) items).map .sent ∧
      (relay p forwarded lastId items).outcome =
        relayEnding (forwarded + (streamChunks items).length) (streamEnd items) := by
  induction items generalizing forwarded lastId with
  | nil =>
    unfold relay
    split <;> rename_i h <;> simp [h, closing, streamChunks, streamEnd, relayEnding]
  | cons item rest ih =>
    have hwait : (Course.await item).log = [] := log_await item
    have hanswer := outcome_await item
    obtain ⟨beats, answer⟩ := item
    rw [relay, log_bind, outcome_bind, hwait, hanswer]
    match answer with
    | some (.chunk c) =>
      cases hd : c.done with
      | true => simp [Ending.andThen, closing, streamChunks, streamEnd, relayEnding, hd]
      | false =>
        obtain ⟨hlog, hout⟩ := ih (forwarded + 1) c.id
        rw [closing_chunk hd]
        simp only [Ending.andThen, Option.elim, log, outcome, streamChunks, streamEnd, hd,
          Bool.false_eq_true, if_false, hlog, hout, List.length_cons]
        refine ⟨by simp, ?_⟩
        rw [Nat.add_right_comm, Nat.add_assoc]
    | some .nothing => exact ih forwarded lastId
    | some (.failure e) =>
      by_cases h : forwarded = 0 <;>
        simp [Ending.andThen, closing, streamChunks, streamEnd, relayEnding, h]
    | none => simp [Ending.andThen, closing, streamChunks, streamEnd, relayEnding]

theorem relayed_eq_nil {p : Provider} {items : List (Reply Delivery)}
    (h : streamChunks items = []) : relayed p items = [] := by
  simp only [relayed, closing, h]
  cases streamEnd items <;> rfl

theorem streamChunks_ne_nil_of_closed {items : List (Reply Delivery)}
    (h : streamEnd items = .closed) : streamChunks items ≠ [] := by
  have hdone := streamChunks_done items
  rw [if_pos h] at hdone
  obtain ⟨init, last, hc, -⟩ := hdone
  rw [hc]
  simp

/-- Unless a stream just stops, only its own chunks are passed on. -/
theorem relayed_of_ended {p : Provider} {items : List (Reply Delivery)}
    (h : streamEnd items ≠ .exhausted) :
    relayed p items = (streamChunks items).map (·.from p) := by
  have hnone : closing p none items = [] := by
    unfold closing
    split
    · contradiction
    · rfl
  rw [relayed, hnone, List.append_nil]

/-- If it does, an empty last chunk is added. -/
theorem relayed_of_exhausted (p : Provider) {items : List (Reply Delivery)}
    (hne : streamChunks items ≠ []) (h : streamEnd items = .exhausted) :
    relayed p items = (streamChunks items).map (·.from p) ++
      [(StreamChunk.terminal ((streamChunks items).getLast hne).id).from p] := by
  simp only [relayed, closing, h, List.getLast?_eq_some_getLast hne]
  rfl

/-- What is passed on of a stream that brings something and ends well: a last chunk comes last. -/
theorem relayed_of_whole (p : Provider) {items : List (Reply Delivery)}
    (hne : streamChunks items ≠ []) (h : streamEnd items = .closed ∨ streamEnd items = .exhausted) :
    ∃ init last, relayed p items = init ++ [last] ∧ last.done = true ∧
      ∀ c ∈ init, c.done = false := by
  have hdone := streamChunks_done items
  rcases h with h | h
  · rw [if_pos h] at hdone
    obtain ⟨init, last, hc, hlast, hinit⟩ := hdone
    refine ⟨init.map (·.from p), last.from p, ?_, hlast, ?_⟩
    · have hended : streamEnd items ≠ .exhausted := by simp [h]
      rw [relayed_of_ended hended, hc, List.map_append]
      rfl
    · intro c hc
      obtain ⟨d, hd, rfl⟩ := List.mem_map.1 hc
      exact hinit d hd
  · rw [if_neg (by simp [h])] at hdone
    refine ⟨_, _, relayed_of_exhausted p hne h, rfl, fun c hc => ?_⟩
    obtain ⟨d, hd, rfl⟩ := List.mem_map.1 hc
    exact hdone d hd

/-- `Passes p items chunks`: these chunks are passed on of a stream of `p` that brings something.
They are its own, and an empty last one if it just stops. -/
inductive Passes (p : Provider) (items : List (Reply Delivery)) : List StreamChunk → Prop where
  | ended {passed : List StreamChunk} (ends : streamEnd items ≠ .exhausted)
    (each : List.Forall₂ (StreamChunk.PassedOn p) (streamChunks items) passed) :
    Passes p items passed
  | closed {passed : List StreamChunk} {c last : StreamChunk}
    (ends : streamEnd items = .exhausted)
    (each : List.Forall₂ (StreamChunk.PassedOn p) (streamChunks items) passed)
    (before : (streamChunks items).getLast? = some c) (closes : c.Closes p last) :
    Passes p items (passed ++ [last])

theorem passes_relayed (p : Provider) {items : List (Reply Delivery)}
    (hne : streamChunks items ≠ []) : Passes p items (relayed p items) := by
  have heach := StreamChunk.forall₂_passedOn p (streamChunks items)
  by_cases hend : streamEnd items = .exhausted
  · rw [relayed_of_exhausted p hne hend]
    exact .closed hend heach (List.getLast?_eq_some_getLast hne) (StreamChunk.closes_terminal p _)
  · rw [relayed_of_ended hend]
    exact .ended hend heach

/-- A stream that brings nothing and just stops has nothing in it. -/
theorem nothing_of_exhausted {items : List (Reply Delivery)} (hnil : streamChunks items = [])
    (h : streamEnd items = .exhausted) : ∀ item ∈ items, item.answer = some .nothing := by
  obtain ⟨hc, -, hall⟩ := streamChunks_of_exhausted h
  rw [hnil, eq_comm, List.filterMap_eq_nil_iff] at hc
  intro item hitem
  obtain ⟨d, hd, hne⟩ := hall item hitem
  have hnone := hc item hitem
  cases d with
  | chunk c => simp [Reply.chunk?, hd] at hnone
  | failure e => exact absurd rfl (hne e)
  | nothing => exact hd

/-! ## Along a plan -/

namespace Job

variable {j : Job} {p : Provider}

/-- The provider gives a stream with these deliveries. -/
def Opens (j : Job) (p : Provider) (items : List (Reply Delivery)) : Prop :=
  p.streamEntry = true ∧ (j.backends.stream p).answer = some (.ok items)

/-- What comes of asking for a stream. -/
theorem callStream_cases (j : Job) (p : Provider) :
    (j.backends.callStream p).log = [.seen (.called (.stream p))] ∧
      ((∃ items, j.Opens p items ∧ (j.backends.callStream p).outcome = .finished (.ok items)) ∨
        (j.backends.callStream p).outcome = .stalled ∨
        ∃ e, (j.backends.callStream p).outcome = .finished (.error e)) := by
  unfold Backends.callStream
  cases hentry : p.streamEntry with
  | false => exact ⟨rfl, .inr (.inr ⟨_, rfl⟩)⟩
  | true =>
    refine ⟨by simp [log_await], ?_⟩
    have hout := outcome_await (j.backends.stream p)
    cases hanswer : (j.backends.stream p).answer with
    | none =>
      rw [hanswer] at hout
      exact .inr (.inl hout)
    | some r =>
      rw [hanswer] at hout
      cases r with
      | error e => exact .inr (.inr ⟨e, hout⟩)
      | ok items => exact .inl ⟨items, ⟨hentry, hanswer⟩, hout⟩

/-- What comes of a stream that is given. -/
theorem relayFrom_of_opens {items : List (Reply Delivery)} (h : j.Opens p items) :
    (j.relayFrom p).log = .seen (.called (.stream p)) :: (relayed p items).map .sent ∧
      (j.relayFrom p).outcome = relayEnding (streamChunks items).length (streamEnd items) := by
  obtain ⟨hentry, hanswer⟩ := h
  have hcall : (j.backends.callStream p).log = [.seen (.called (.stream p))] ∧
      (j.backends.callStream p).outcome = .finished (.ok items) := by
    rw [Backends.callStream, if_pos hentry]
    simp [log_await, outcome_await, hanswer]
  obtain ⟨hl, ho⟩ := relay_eq p 0 "" items
  refine ⟨(log_bind_of_finished hcall.2).trans ?_, (outcome_bind_of_finished hcall.2).trans ?_⟩
  · rw [hcall.1]
    exact congrArg _ hl
  · simpa using ho

/-- What comes of the stream of one provider. -/
theorem relayFrom_cases (j : Job) (p : Provider) :
    (∃ items, j.Opens p items ∧
      (j.relayFrom p).log = .seen (.called (.stream p)) :: (relayed p items).map .sent ∧
      (j.relayFrom p).outcome = relayEnding (streamChunks items).length (streamEnd items)) ∨
    (j.relayFrom p).log = [.seen (.called (.stream p))] ∧
      ((j.relayFrom p).outcome = .stalled ∨
        ∃ e, (j.relayFrom p).outcome = .finished (.failedEarly e)) := by
  obtain ⟨hcall, ⟨items, hopen, -⟩ | hout | ⟨e, hout⟩⟩ := j.callStream_cases p
  · exact .inl ⟨items, hopen, relayFrom_of_opens hopen⟩
  · have ho : (j.relayFrom p).outcome = .stalled := (bind_of_stalled hout).1
    have hl : (j.relayFrom p).log = (j.backends.callStream p).log := (bind_of_stalled hout).2
    exact .inr ⟨hl.trans hcall, .inl ho⟩
  · have ho : (j.relayFrom p).outcome = .finished (.failedEarly e) :=
      outcome_bind_of_finished hout
    have hl : (j.relayFrom p).log = (j.backends.callStream p).log ++ [] :=
      log_bind_of_finished hout
    exact .inr ⟨by rw [hl, hcall, List.append_nil], .inr ⟨e, ho⟩⟩

/-- The call is all that is seen of a stream. -/
theorem relayFrom_trace (j : Job) (p : Provider) :
    (j.relayFrom p).trace = [.called (.stream p)] := by
  rcases j.relayFrom_cases p with ⟨items, -, hlog, -⟩ | ⟨hlog, -⟩ <;> simp [trace, hlog]

theorem sample_cases (j : Job) (p : Provider) :
    ((j.sample p).outcome = .finished () ∧
      (j.sample p).log = [.seen (.sampled p.name (j.backends.elapsed p))]) ∨
    ∃ cause, (j.sample p).outcome = .faulted cause ∧ (j.sample p).log = [] := by
  unfold sample
  cases j.reads.signals.latency.ensureRoom with
  | ok _ => exact .inl ⟨rfl, rfl⟩
  | error cause => exact .inr ⟨cause, rfl, rfl⟩

/-- `j.Relays ps trace chunks ending`: this is what comes of streaming along the providers `ps`. At
most one stream comes through. -/
inductive Relays (j : Job) (ps : List Provider) :
    List Event → List StreamChunk → Ending (Except GatewayError Unit) → Prop
  /-- No stream comes through. -/
  | failed {trace : List Event} {attempts : Nat} {e : ProviderError} :
    Relays j ps trace [] (.finished (.error (.allProvidersFailed attempts e)))
  /-- A stream that brings nothing. -/
  | empty {before : List Event} {p : Provider} {items : List (Reply Delivery)} :
    p ∈ ps → j.Opens p items → streamChunks items = [] → streamEnd items = .exhausted →
    Relays j ps (before ++ [.called (.stream p), .sampled p.name (j.backends.elapsed p)]) []
      (.finished (if j.settings.emptyStreamIsError then .error .emptyStream else .ok ()))
  | whole {trace : List Event} {p : Provider} {items : List (Reply Delivery)} :
    p ∈ ps → j.Opens p items → streamChunks items ≠ [] →
    streamEnd items = .closed ∨ streamEnd items = .exhausted →
    Relays j ps trace (relayed p items) (.finished (.ok ()))
  | broken {trace : List Event} {p : Provider} {items : List (Reply Delivery)}
    {e : ProviderError} :
    p ∈ ps → j.Opens p items → streamChunks items ≠ [] → streamEnd items = .broken e →
    Relays j ps trace (relayed p items) (.finished (.error (.streamInterrupted p.name e)))
  /-- The request does not come to its end. -/
  | stuck {trace : List Event} {chunks : List StreamChunk}
    {ending : Ending (Except GatewayError Unit)} :
    chunks = [] ∨ (∃ p ∈ ps, ∃ items, j.Opens p items ∧ chunks = relayed p items) →
    ending.result? = none → Relays j ps trace chunks ending

theorem Relays.mono {ps qs : List Provider} {trace : List Event} {chunks : List StreamChunk}
    {ending : Ending (Except GatewayError Unit)} (h : j.Relays ps trace chunks ending)
    (hsub : ps ⊆ qs) (before : List Event) : j.Relays qs (before ++ trace) chunks ending := by
  cases h with
  | failed => exact .failed
  | @empty mid p items hp ho hc he =>
    rw [← List.append_assoc]
    exact .empty (hsub hp) ho hc he
  | whole hp ho hc he => exact .whole (hsub hp) ho hc he
  | broken hp ho hc he => exact .broken (hsub hp) ho hc he
  | stuck hc he =>
    refine .stuck (hc.imp_right fun ⟨p, hp, h⟩ => ⟨p, hsub hp, h⟩) he

/-- What happens once the stream of a provider is over: an attempt that failed early is followed by
the others, and any other one ends the stream. -/
def afterRelay (j : Job) (attempts : Nat) (p : Provider) (rest : List Provider) :
    RelayEnd → Course (Except GatewayError Unit)
  | .finished 0 => .done (if j.settings.emptyStreamIsError then .error .emptyStream else .ok ())
  | .finished (_ + 1) => .done (.ok ())
  | .abandoned => .done (.ok ())
  | .failedLate e => .done (.error (.streamInterrupted p.name e))
  | .failedEarly e => j.streamAttempt (attempts + 1) (some e) rest

theorem streamAttempt_cons (j : Job) (attempts : Nat) (last : Option ProviderError)
    (p : Provider) (rest : List Provider) :
    j.streamAttempt attempts last (p :: rest) =
      j.relayFrom p >>= fun ending => j.sample p >>= fun _ =>
        j.afterRelay attempts p rest ending := by
  rw [streamAttempt]
  rfl

/-- After an attempt that failed early it depends on the others, and any other one settles what is
reported. -/
theorem afterRelay_cases (j : Job) (attempts : Nat) (p : Provider) (rest : List Provider)
    (ending : RelayEnd) :
    (∃ r, j.afterRelay attempts p rest ending = .done r) ∨
      ∃ e, ending = .failedEarly e ∧
        j.afterRelay attempts p rest ending = j.streamAttempt (attempts + 1) (some e) rest := by
  match ending with
  | .finished 0 => exact .inl ⟨_, rfl⟩
  | .finished (_ + 1) => exact .inl ⟨_, rfl⟩
  | .abandoned => exact .inl ⟨_, rfl⟩
  | .failedLate e => exact .inl ⟨_, rfl⟩
  | .failedEarly e => exact .inr ⟨e, rfl, rfl⟩

/-- Attempts at streams look at nothing but the providers, the room for samples and whether an empty
stream is an error. -/
theorem streamAttempt_congr (j j' : Job) (hbackends : j'.backends = j.backends)
    (hreads : j'.reads = j.reads)
    (hempty : j'.settings.emptyStreamIsError = j.settings.emptyStreamIsError) (attempts : Nat)
    (last : Option ProviderError) (ps : List Provider) :
    j'.streamAttempt attempts last ps = j.streamAttempt attempts last ps := by
  induction ps generalizing attempts last with
  | nil => rfl
  | cons p rest ih =>
    have hafter (ending : RelayEnd) :
        j'.afterRelay attempts p rest ending = j.afterRelay attempts p rest ending := by
      match ending with
      | .failedEarly e => exact ih (attempts + 1) (some e)
      | .finished 0 => simp only [afterRelay, hempty]
      | .finished (_ + 1) => rfl
      | .failedLate e => rfl
      | .abandoned => rfl
    simp only [streamAttempt_cons, hafter, relayFrom, sample, hbackends, hreads]

theorem streamAlong_congr (j j' : Job) (hbackends : j'.backends = j.backends)
    (hreads : j'.reads = j.reads)
    (hempty : j'.settings.emptyStreamIsError = j.settings.emptyStreamIsError)
    (hrequest : j'.request = j.request) (ps : List Provider) :
    j'.streamAlong ps = j.streamAlong ps := by
  cases ps with
  | nil => rfl
  | cons p rest =>
    simp only [streamAlong, streamAttempt_congr j j' hbackends hreads hempty, streamWhole,
      tryOne, sample, hbackends, hreads, hrequest]

/-- Once the stream of a provider is over, its sample stands between it and what follows. -/
theorem streamAttempt_of_relayFrom {chunks : List StreamChunk} {ending : RelayEnd}
    (hlog : (j.relayFrom p).log = .seen (.called (.stream p)) :: chunks.map .sent)
    (hout : (j.relayFrom p).outcome = .finished ending) (attempts : Nat)
    (last : Option ProviderError) (rest : List Provider) :
    (∃ cause, (j.streamAttempt attempts last (p :: rest)).outcome = .faulted cause ∧
      (j.streamAttempt attempts last (p :: rest)).output = chunks) ∨
    (j.streamAttempt attempts last (p :: rest)).outcome =
        (j.afterRelay attempts p rest ending).outcome ∧
      (j.streamAttempt attempts last (p :: rest)).output =
        chunks ++ (j.afterRelay attempts p rest ending).output ∧
      (j.streamAttempt attempts last (p :: rest)).trace =
        [.called (.stream p), .sampled p.name (j.backends.elapsed p)] ++
          (j.afterRelay attempts p rest ending).trace := by
  rw [streamAttempt_cons, output, trace, outcome_bind_of_finished hout, log_bind_of_finished hout,
    hlog]
  rcases j.sample_cases p with ⟨ho, hl⟩ | ⟨cause, ho, hl⟩
  · rw [outcome_bind_of_finished ho, log_bind_of_finished ho, hl]
    exact .inr ⟨rfl, by simp [output], by simp [trace]⟩
  · obtain ⟨ho', hl'⟩ := bind_of_faulted (f := fun _ => j.afterRelay attempts p rest ending) ho
    rw [ho', hl', hl]
    exact .inl ⟨cause, rfl, by simp⟩

/-- What the course leads to is what comes of streaming along the providers. -/
def Brings (j : Job) (ps : List Provider) (c : Course (Except GatewayError Unit)) : Prop :=
  j.Relays ps c.trace c.output c.outcome

section Cons

variable {attempts : Nat} {last : Option ProviderError} {rest : List Provider}

/-- After a provider whose stream is not given, or breaks before it brings anything, it depends on
the others. -/
theorem brings_of_early {e : ProviderError}
    (hlog : (j.relayFrom p).log = [.seen (.called (.stream p))])
    (hout : (j.relayFrom p).outcome = .finished (.failedEarly e))
    (hrest : j.Brings rest (j.streamAttempt (attempts + 1) (some e) rest)) :
    j.Brings (p :: rest) (j.streamAttempt attempts last (p :: rest)) := by
  have hnone : (j.relayFrom p).log =
      .seen (.called (.stream p)) :: ([] : List StreamChunk).map .sent := hlog
  unfold Brings
  rcases streamAttempt_of_relayFrom hnone hout attempts last rest with
    ⟨cause, ho, hc⟩ | ⟨ho, hc, ht⟩
  · rw [ho, hc]
    exact .stuck (.inl rfl) rfl
  · rw [ho, hc, ht]
    exact hrest.mono (List.subset_cons_self p rest) _

/-- A stream that is given and does not fail early is the last one. -/
theorem brings_of_last {items : List (Reply Delivery)} (hopen : j.Opens p items)
    (hlog : (j.relayFrom p).log = .seen (.called (.stream p)) :: (relayed p items).map .sent)
    {ending : RelayEnd} (hout : (j.relayFrom p).outcome = .finished ending)
    {r : Except GatewayError Unit} (hafter : j.afterRelay attempts p rest ending = .done r)
    (hr : j.Relays (p :: rest) [.called (.stream p), .sampled p.name (j.backends.elapsed p)]
      (relayed p items) (.finished r)) :
    j.Brings (p :: rest) (j.streamAttempt attempts last (p :: rest)) := by
  unfold Brings
  rcases streamAttempt_of_relayFrom hlog hout attempts last rest with
    ⟨cause, ho, hc⟩ | ⟨ho, hc, ht⟩
  · rw [ho, hc]
    exact .stuck (.inr ⟨p, List.mem_cons_self, items, hopen, rfl⟩) rfl
  · rw [ho, hc, ht, hafter]
    simpa [output, trace] using hr

/-- Of a stream that is given its end decides, and whether it brings anything before. -/
theorem brings_of_opens {items : List (Reply Delivery)} (hopen : j.Opens p items)
    (hlog : (j.relayFrom p).log = .seen (.called (.stream p)) :: (relayed p items).map .sent)
    (hout : (j.relayFrom p).outcome =
      relayEnding (streamChunks items).length (streamEnd items))
    (hrest : ∀ e, j.Brings rest (j.streamAttempt (attempts + 1) (some e) rest)) :
    j.Brings (p :: rest) (j.streamAttempt attempts last (p :: rest)) := by
  have hp : p ∈ p :: rest := List.mem_cons_self
  cases hend : streamEnd items with
  | endless =>
    rw [hend] at hout
    obtain ⟨ho, hl⟩ := bind_of_stalled hout
    rw [streamAttempt_cons, Brings, output, hl, ho, hlog]
    exact .stuck (.inr ⟨p, hp, items, hopen, by simp⟩) rfl
  | closed =>
    have hne := streamChunks_ne_nil_of_closed hend
    obtain ⟨n, hn⟩ := Nat.exists_eq_succ_of_ne_zero fun h => hne (List.length_eq_zero_iff.1 h)
    rw [hend, hn] at hout
    exact brings_of_last hopen hlog hout rfl (.whole hp hopen hne (.inl hend))
  | exhausted =>
    rw [hend] at hout
    cases hc : streamChunks items with
    | nil =>
      rw [hc] at hout
      refine brings_of_last hopen hlog hout rfl ?_
      rw [relayed_eq_nil hc, ← List.nil_append [Event.called _, _]]
      exact .empty hp hopen hc hend
    | cons c cs =>
      rw [hc] at hout
      exact brings_of_last hopen hlog hout rfl (.whole hp hopen (by simp [hc]) (.inr hend))
  | broken e =>
    rw [hend] at hout
    cases hc : streamChunks items with
    | nil =>
      rw [hc] at hout
      rw [relayed_eq_nil hc] at hlog
      exact brings_of_early hlog hout (hrest e)
    | cons c cs =>
      rw [hc] at hout
      exact brings_of_last hopen hlog hout rfl (.broken hp hopen (by simp [hc]) hend)

end Cons

/-- **Streaming along a plan** brings what one of the streams brings. -/
theorem brings_streamAttempt (j : Job) {ps : List Provider} (attempts : Nat)
    (last : Option ProviderError) (hne : ps ≠ [] ∨ last ≠ none) :
    j.Brings ps (j.streamAttempt attempts last ps) := by
  induction ps generalizing attempts last with
  | nil =>
    cases last with
    | none => simp at hne
    | some e => exact .failed
  | cons p rest ih =>
    have hrest (e : ProviderError) : j.Brings rest (j.streamAttempt (attempts + 1) (some e) rest) :=
      ih (attempts + 1) (some e) (.inr (by simp))
    rcases j.relayFrom_cases p with ⟨items, hopen, hlog, hout⟩ | ⟨hlog, hout | ⟨e, hout⟩⟩
    · exact brings_of_opens hopen hlog hout hrest
    · obtain ⟨ho, hl⟩ := bind_of_stalled hout
      rw [streamAttempt_cons, Brings, trace, output, hl, ho, hlog]
      exact .stuck (.inl rfl) rfl
    · exact brings_of_early hlog hout (hrest e)

end Job

end ChatGateway
