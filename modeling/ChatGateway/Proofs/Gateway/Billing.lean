import ChatGateway.Proofs.Gateway.Failover
import ChatGateway.Proofs.Gateway.Order
import ChatGateway.Proofs.Gateway.OwnProviders
import ChatGateway.Proofs.Routing.Selection

/-!
# Whose key an answer was paid with

A gateway can be asked whether a caller has a key for the provider named in an answer. When the
answer came from a provider built from the caller's own key, they have one; but they may have one
all the same when it did not. The answer was paid with the caller's key exactly if they have a key
under that name and a provider of that name was built from their keys and found healthy
(`Gateway.answered_from_own_key`). A key that has expired shows the difference
(`expired_key_pays_nothing`).
-/

namespace ChatGateway

open Course

/-! ## The instances built for a caller -/

namespace KeyRing

/-- The instances built for the names, numbered from `serial` on. -/
def instancesFrom (k : KeyRing) (caller : CallerId) (serial : Nat) : List String → List Provider
  | [] => []
  | name :: rest =>
    match usableKey (k.keys caller name) with
    | none => k.instancesFrom caller serial rest
    | some key =>
      match k.factory name key with
      | none => k.instancesFrom caller serial rest
      | some profile =>
        ⟨profile, .built name key serial⟩ :: k.instancesFrom caller (serial + 1) rest

/-- The instances built for a caller. -/
def instances (k : KeyRing) (caller : CallerId) : List Provider :=
  k.instancesFrom caller 0 k.probes

theorem outcome_buildAll (k : KeyRing) (caller : CallerId) (serial : Nat) (names : List String) :
    (k.buildAll caller serial names).outcome = .finished (k.instancesFrom caller serial names) := by
  induction names generalizing serial with
  | nil => rfl
  | cons name rest ih =>
    unfold buildAll credential instancesFrom
    cases usableKey (k.keys caller name) with
    | none => exact ih serial
    | some key =>
      simp only [outcome_bind, Course.consult, Course.record, outcome, Ending.andThen]
      cases k.factory name key with
      | none => exact ih serial
      | some profile => exact outcome_bind_of_finished (ih (serial + 1))

theorem outcome_hasKey (k : KeyRing) (caller : CallerId) (name : String) :
    (k.hasKey caller name).outcome = .finished (usableKey (k.keys caller name)).isSome :=
  rfl

end KeyRing

/-! ## Health checks that have come to an end -/

/-- Calls side by side are over once all of them have answered. -/
theorem Reply.isSome_join_iff {α : Type} {rs : List (Reply α)} :
    (Reply.join rs).answer.isSome ↔ ∀ r ∈ rs, r.answer.isSome := by
  induction rs with
  | nil => simp [Reply.join, Reply.now]
  | cons r rest ih =>
    rw [List.forall_mem_cons, ← ih, Reply.join]
    cases r.answer <;> cases (Reply.join rest).answer <;> simp

/-- Whether the check of a provider comes out well. -/
def Backends.passes (b : Backends) (p : Provider) : Bool :=
  (b.health p).answer.any Except.isOk

/-- Once all checks have come to an end, the healthy ones are those whose check comes out well, in
order. -/
theorem Backends.healthy_eq {b : Backends} {ps qs : List Provider}
    (h : (b.healthy ps).outcome = .finished qs) :
    qs = ps.filter b.passes ∧ ∀ p ∈ ps, (b.health p).answer.isSome := by
  obtain ⟨-, -, hchecks⟩ := outcome_bind_eq_finished h
  obtain ⟨checks, hawait, -⟩ := outcome_bind_eq_finished hchecks
  have hanswered : ∀ p ∈ ps, (b.health p).answer.isSome := fun p hp =>
    Reply.isSome_join_iff.1 (Option.isSome_of_eq_some (answer_of_await hawait)) _
      (List.mem_map_of_mem hp)
  let check (p : Provider) : Except ProviderError Unit :=
    (b.health p).answer.getD (.error .cancelled)
  have hcheck : ∀ p ∈ ps, (b.health p).answer = some (check p) := by
    intro p hp
    obtain ⟨result, hresult⟩ := Option.isSome_iff_exists.1 (hanswered p hp)
    change _ = some ((b.health p).answer.getD _)
    rw [hresult]
    rfl
  rw [healthy_outcome hcheck] at h
  obtain rfl := Ending.finished.inj h
  refine ⟨List.filter_congr fun p hp => ?_, hanswered⟩
  rw [passes, hcheck p hp]
  rfl

/-- The healthy ones are those whose check comes out well. -/
theorem Backends.mem_healthy {b : Backends} {ps qs : List Provider}
    (h : (b.healthy ps).outcome = .finished qs) {p : Provider} :
    p ∈ qs ↔ p ∈ ps ∧ (b.health p).answer = some (.ok ()) := by
  rw [(healthy_eq h).1, List.mem_filter]
  refine and_congr_right fun _ => ?_
  unfold passes
  cases (b.health p).answer with
  | none => simp
  | some result => cases result <;> simp [Except.isOk, Except.toBool]

namespace KeyRing

variable {k : KeyRing} {b : Backends} {caller : CallerId} {own : List Provider} {p : Provider}

/-- A caller's own providers are the instances that are healthy. -/
theorem mem_resolve_iff (h : (k.resolve b caller).outcome = .finished own) :
    p ∈ own ↔ p ∈ k.instances caller ∧ (b.health p).answer = some (.ok ()) := by
  obtain ⟨ps, hps, h⟩ := outcome_bind_eq_finished h
  obtain rfl : k.instances caller = ps := by
    rw [outcome_buildAll] at hps
    exact Ending.finished.inj hps
  exact Backends.mem_healthy h

/-- Where the factory builds providers under the names it is asked for, the caller has a key for
every provider built from their keys. -/
theorem outcome_hasKey_of_builds
    (hnames : ∀ name key profile, k.factory name key = some profile → profile.name = name)
    (h : k.Builds caller k.probes p) : (k.hasKey caller p.name).outcome = .finished true := by
  obtain ⟨name, -, key, serial, hkey, hf, -⟩ := h
  obtain rfl : p.name = name := hnames name key _ hf
  rw [outcome_hasKey, hkey]
  rfl

end KeyRing

namespace Job

variable {j : Job} {caller : CallerId} {k : KeyRing}

/-! ## Who is built from a key -/

/-- Of the providers of a plan those are built from the caller's keys for whose name there is a
healthy instance. -/
theorem builds_iff_of_mem_plan (hc : j.caller = some caller)
    (hk : j.services.keyRing? j.settings.probes = some k)
    (hserver : ∀ p, p ∈ j.reads.selecting ∨ p ∈ j.reads.probing →
      ∃ serial, p.origin = .server serial)
    {cs : List Provider} (hcs : j.plan.outcome = .finished (.ok cs)) {p : Provider} (hp : p ∈ cs) :
    k.Builds caller k.probes p ↔
      ∃ q ∈ k.instances caller, q.name = p.name ∧
        (j.backends.health q).answer = some (.ok ()) := by
  obtain ⟨selected, available, hs, ha, rfl⟩ := plan_eq_ok hcs
  have registered {q : Provider} (hq : q ∈ j.reads.selecting ∨ q ∈ j.reads.probing) :
      ¬k.Builds caller k.probes q := by
    rintro ⟨name, -, key, serial, -, -, hbuilt⟩
    obtain ⟨n, hn⟩ := hserver q hq
    rw [hn] at hbuilt
    cases hbuilt
  have hselected : ¬k.Builds caller k.probes selected := registered (.inl (mem_of_pick hs))
  rcases available_eq ha with ⟨own, ho, -, rfl⟩ | ⟨ho, ps, hps, rfl⟩ <;>
    rw [ownProviders_eq hc hk] at ho
  · have hown := ownOrPick_of_mem_attemptOrder hp
    unfold OwnOrPick at hown
    split at hown
    · -- Selection is strict, and the pick has a name that no own provider has.
      rename_i hstrict
      obtain rfl := hown
      refine iff_of_false hselected ?_
      rintro ⟨q, hq, hname, hhealth⟩
      exact hstrict.2 q ((KeyRing.mem_resolve_iff ho).2 ⟨hq, hhealth⟩) hname
    · obtain ⟨hinstance, hhealth⟩ := (KeyRing.mem_resolve_iff ho).1 hown
      exact iff_of_true (KeyRing.mem_resolve ho hown) ⟨p, hinstance, rfl, hhealth⟩
  · have hnot : ¬k.Builds caller k.probes p := by
      rcases mem_of_mem_attemptOrder hp with rfl | hmem
      · exact hselected
      · exact registered (.inr (Backends.healthy_subset hps hmem))
    refine iff_of_false hnot ?_
    rintro ⟨q, hq, -, hhealth⟩
    exact List.not_mem_nil ((KeyRing.mem_resolve_iff ho).2 ⟨hq, hhealth⟩)

/-! ## Who has answered -/

/-- An attempt that comes to an answer leaves its sample. -/
theorem tryOne_eq_finished {p : Provider} {result : Except ProviderError ChatResponse}
    (h : (j.tryOne p).outcome = .finished result) :
    j.reads.signals.latency.capacity ≤ LatencyHistory.largestCapacity ∧
      (j.backends.chat p).answer = some result := by
  obtain ⟨result', hcall, h⟩ := outcome_bind_eq_finished h
  obtain ⟨_, hsample, h⟩ := outcome_bind_eq_finished h
  cases h
  constructor
  · by_contra hroom
    rw [sample, LatencyHistory.ensureRoom_of_lt (Nat.lt_of_not_le hroom)] at hsample
    cases hsample
  · exact answer_of_await hcall

/-- An answer is that of the last provider asked. -/
theorem attempt_eq_ok {attempts : Nat} {last : Option ProviderError} {cs : List Provider}
    {r : ChatResponse} (h : (j.attempt attempts last cs).outcome = .finished (.ok r)) :
    ∃ p ∈ cs, ∃ response, (j.backends.chat p).answer = some (.ok response) ∧
      r = j.annotate p response ∧ j.attemptEvents p <:+ (j.attempt attempts last cs).trace := by
  induction cs generalizing attempts last with
  | nil => cases h
  | cons p rest ih =>
    obtain ⟨result, htry, hrest⟩ := outcome_bind_eq_finished h
    obtain ⟨hroom, ha⟩ := tryOne_eq_finished htry
    cases result with
    | ok response =>
      obtain ⟨-, htrace⟩ := attempt_of_ok hroom ha attempts last rest
      cases hrest
      exact ⟨p, List.mem_cons_self, response, ha, rfl, htrace ▸ List.suffix_rfl⟩
    | error e =>
      obtain ⟨-, htrace⟩ := attempt_of_error hroom ha attempts last rest
      obtain ⟨q, hq, response, hanswer, hr, hsuffix⟩ := ih hrest
      refine ⟨q, List.mem_cons_of_mem p hq, response, hanswer, hr, ?_⟩
      rw [htrace]
      exact hsuffix.trans (List.suffix_append _ _)

/-- The answer to a request is that of a provider of its plan, the last one asked. -/
theorem route_eq_ok {r : ChatResponse} (h : j.route.outcome = .finished (.ok r)) :
    ∃ cs, j.plan.outcome = .finished (.ok cs) ∧ ∃ p ∈ cs, ∃ response,
      (j.backends.chat p).answer = some (.ok response) ∧ r = j.annotate p response ∧
        j.attemptEvents p <:+ j.route.trace := by
  obtain ⟨result, hplan, hattempt⟩ := outcome_bind_eq_finished h
  rw [outcome_shield] at hplan
  cases result with
  | error e => cases hattempt
  | ok cs =>
    obtain ⟨p, hp, response, ha, hr, hsuffix⟩ := attempt_eq_ok hattempt
    refine ⟨cs, hplan, p, hp, response, ha, hr, ?_⟩
    rw [(route_of_plan hplan).2]
    exact hsuffix.trans (List.suffix_append _ _)

end Job

namespace Gateway

/-- A request to the gateway that reads these parts of its state. -/
def jobReading (g : Gateway) (reads : Reads) (backends : Backends) (caller : Option CallerId)
    (request : ChatRequest) : Job :=
  { g.job backends caller request with reads }

theorem outcome_callerHasKey {g : Gateway} {k : KeyRing}
    (hk : g.services.keyRing? g.settings.probes = some k) (caller : CallerId) (name : String) :
    (g.callerHasKey (some caller) name).outcome = (k.hasKey caller name).outcome := by
  unfold callerHasKey
  rw [hk]
  exact outcome_shield _

/-- **Whose key an answer was paid with.** Let the factory build providers under the names it is
asked for, and let the registered providers not be built for a caller. Then the provider that has
answered a request was built from the caller's own key exactly if the caller has a key under the
name in the answer and an instance of that name was built from their keys and found healthy. To have
a key means that one is stored that is not blank, and no more. -/
theorem answered_from_own_key {g : Gateway} {k : KeyRing}
    (hk : g.services.keyRing? g.settings.probes = some k)
    (hnames : ∀ name key profile, k.factory name key = some profile → profile.name = name)
    {reads : Reads}
    (hserver : ∀ p, p ∈ reads.selecting ∨ p ∈ reads.probing → ∃ serial, p.origin = .server serial)
    (backends : Backends) (caller : CallerId) (request : ChatRequest) (capacity : Nat)
    (cancelled : Bool) (schedule : List Act) {r : ChatResponse}
    (hr : ((Machine.start (g.jobReading reads backends (some caller) request).route cancelled).run
      capacity schedule).course = .done (.ok r)) :
    ∃ p response, r.provider = some p.name ∧
      (backends.chat p).answer = some (.ok response) ∧
      (g.jobReading reads backends (some caller) request).attemptEvents p <:+
        ((Machine.start (g.jobReading reads backends (some caller) request).route cancelled).run
          capacity schedule).events ∧
      (g.callerHasKey (some caller) p.name).outcome =
        .finished (KeyRing.usableKey (k.keys caller p.name)).isSome ∧
      (k.Builds caller k.probes p ↔
        (g.callerHasKey (some caller) p.name).outcome = .finished true ∧
          ∃ q ∈ k.instances caller, q.name = p.name ∧
            (backends.health q).answer = some (.ok ())) := by
  obtain ⟨h, hf⟩ := Machine.run_follows_of_quiet capacity
    (Job.quiet_route (g.jobReading reads backends (some caller) request)) cancelled schedule
  rcases hf.ended (.finished (.ok r)) (by rw [hr]; rfl) with ⟨ho, hlog⟩ | ⟨he, -⟩
  · obtain ⟨cs, hplan, p, hp, response, ha, rfl, hsuffix⟩ := Job.route_eq_ok ho
    have hbuilds := Job.builds_iff_of_mem_plan rfl hk hserver hplan hp
    refine ⟨p, response, rfl, ha, ?_, outcome_callerHasKey hk caller p.name, ?_⟩
    · rw [hf.bears.events_eq, ← hlog]
      exact hsuffix
    · rw [outcome_callerHasKey hk]
      constructor
      · intro hb
        exact ⟨KeyRing.outcome_hasKey_of_builds hnames hb, hbuilds.1 hb⟩
      · rintro ⟨-, hinstance⟩
        exact hbuilds.2 hinstance
  · cases he

end Gateway

/-! ## A key that works, and one that has expired -/

/-- The provider that is registered. -/
def openServer : Provider := ⟨{ name := "openai", models := [] }, .server 0⟩

/-- The provider built from the caller's key. -/
def openOwn : Provider := ⟨{ name := "openai", models := [] }, .built "openai" "key" 0⟩

/-- The key ring of a caller with a key for a provider that is registered as well. -/
def openKeys : KeyRing where
  probes := ["openai"]
  keys := fun _ _ => .value (some "key")
  factory := fun name _ => some { name, models := [] }

/-- A gateway with that provider. -/
def openGateway : Gateway where
  settings :=
    { probes := openKeys.probes, bufferCapacity := 1, emptyStreamIsError := true
      strictSelection := false }
  services := { keys := some openKeys.keys, factory := some openKeys.factory }
  registry := ({} : Registry).register openServer
  standard := ⟨.balanced, none⟩
  signals := ⟨[], .ofCapacity 1⟩

/-- Every provider answers; those that are built from a key are healthy if it has not expired. -/
def openBackends (expired : Bool) : Backends where
  health := fun p =>
    .now (if expired && p.origin ≠ .server 0 then .error (.remote "expired") else .ok ())
  chat := fun p => .now (.ok (.ofText "id" "model" p.name {}))
  stream := fun _ => .now (.ok [])
  elapsed := fun _ => .oneSecond

/-- A request of the caller. -/
def openJob (expired : Bool) : Job :=
  openGateway.jobReading openGateway.reads (openBackends expired) (some ⟨0⟩)
    { model := "model", messages := [] }

theorem openServer_registered (p : Provider)
    (h : p ∈ openGateway.reads.selecting ∨ p ∈ openGateway.reads.probing) :
    ∃ serial, p.origin = .server serial := by
  rcases h with h | h <;> exact ⟨0, List.mem_singleton.1 h ▸ rfl⟩

theorem openKeys_names (name key : String) (profile : Profile)
    (h : openKeys.factory name key = some profile) : profile.name = name := by
  cases h
  rfl

/-- A key that works pays for the answer. -/
theorem working_key_pays :
    openGateway.services.keyRing? openGateway.settings.probes = some openKeys ∧
      ∃ r p, ((Machine.start (openJob false).route).run 1 (List.replicate 20 .work)).course =
          .done (.ok r) ∧ r.provider = some p.name ∧
        (openGateway.callerHasKey (some ⟨0⟩) p.name).outcome = .finished true ∧
        openKeys.Builds ⟨0⟩ openKeys.probes p := by
  refine ⟨rfl, (openJob false).annotate openOwn (.ofText "id" "model" "openai" {}), ?_⟩
  obtain ⟨p, response, hname, -, -, -, hbuilds⟩ := Gateway.answered_from_own_key
    (g := openGateway) (k := openKeys) rfl openKeys_names openServer_registered
    (openBackends false) ⟨0⟩ { model := "model", messages := [] } 1 false (List.replicate 20 .work)
    (r := (openJob false).annotate openOwn (.ofText "id" "model" "openai" {})) rfl
  have hopen : p.name = "openai" := (Option.some.inj hname).symm
  have hkey : (openGateway.callerHasKey (some ⟨0⟩) p.name).outcome = .finished true := rfl
  exact ⟨p, rfl, hname, hkey, hbuilds.2 ⟨hkey, openOwn, by decide, hopen.symm, rfl⟩⟩

/-- **An expired key pays nothing**, but the caller has it all the same: that the caller has a key
for the provider that has answered does not mean that it was built from that key. -/
theorem expired_key_pays_nothing :
    ¬∀ (g : Gateway) (k : KeyRing) (reads : Reads) (backends : Backends) (caller : CallerId)
      (request : ChatRequest) (capacity : Nat) (cancelled : Bool) (schedule : List Act)
      (r : ChatResponse) (p : Provider) (response : ChatResponse),
      g.services.keyRing? g.settings.probes = some k →
      (∀ name key profile, k.factory name key = some profile → profile.name = name) →
      (∀ p, p ∈ reads.selecting ∨ p ∈ reads.probing → ∃ serial, p.origin = .server serial) →
      ((Machine.start (g.jobReading reads backends (some caller) request).route cancelled).run
        capacity schedule).course = .done (.ok r) →
      r.provider = some p.name → (backends.chat p).answer = some (.ok response) →
      (g.jobReading reads backends (some caller) request).attemptEvents p <:+
        ((Machine.start (g.jobReading reads backends (some caller) request).route cancelled).run
          capacity schedule).events →
      ((g.callerHasKey (some caller) p.name).outcome = .finished true ↔
        k.Builds caller k.probes p) := by
  intro h
  have hbuilds := (h openGateway openKeys openGateway.reads (openBackends true) ⟨0⟩
    { model := "model", messages := [] } 1 false (List.replicate 20 .work)
    ((openJob true).annotate openServer (.ofText "id" "model" "openai" {})) openServer
    (.ofText "id" "model" "openai" {}) rfl openKeys_names openServer_registered rfl rfl rfl
    (by decide)).1 rfl
  obtain ⟨name, -, key, serial, -, -, hbuilt⟩ := hbuilds
  cases hbuilt

end ChatGateway
