import ChatGateway.Proofs.Gateway.OwnProviders
import ChatGateway.Proofs.Gateway.Relay
import ChatGateway.Proofs.Routing.Selection

/-!
# Callers kept apart

What is stored for other callers makes no difference to a request: with services that say the same
about its caller it is the same course (`Services.AgreesFor`, `Job.isolated`), so all that can be
seen of it is the same under every schedule. Nothing that is stored makes a difference to a request
without a caller. Every question of a request about a caller is about its own caller, every provider
is built from a key of that caller, and nobody is called but such providers and registered ones
(`Job.Keeps`).
-/

namespace ChatGateway

open Course

/-! ## Services that agree on a caller -/

/-- Two sets of services say the same when a request for `caller` is made. About other callers they
may say what they like, and about any if there is no caller. -/
structure Services.AgreesFor (s s' : Services) (caller : Option CallerId) : Prop where
  lock : s.policy.map (·.isLocked caller) = s'.policy.map (·.isLocked caller)
  preference : ∀ c ∈ caller, s.preferences.map (· c) = s'.preferences.map (· c)
  rules : ∀ c ∈ caller, s.rules.map (· c) = s'.rules.map (· c)
  keys : ∀ c ∈ caller, s.keys.map (· c) = s'.keys.map (· c)
  factory : ∀ c ∈ caller, s.factory = s'.factory

namespace Services.AgreesFor

variable {s s' : Services} {caller : Option CallerId} (h : s.AgreesFor s' caller)
include h

theorem askLock_eq : s.askLock caller = s'.askLock caller := by
  have hlock := h.lock
  unfold askLock
  cases hs : s.policy <;> cases hs' : s'.policy <;> simp_all

theorem askPreference_eq : s.askPreference caller = s'.askPreference caller := by
  cases caller with
  | none => rfl
  | some c =>
    have hpreference := h.preference c rfl
    unfold askPreference
    cases hs : s.preferences <;> cases hs' : s'.preferences <;> simp_all

theorem askRules_eq : s.askRules caller = s'.askRules caller := by
  cases caller with
  | none => rfl
  | some c =>
    have hrules := h.rules c rfl
    unfold askRules
    cases hs : s.rules <;> cases hs' : s'.rules <;> simp_all

theorem strategyKind_eq (standard : StrategyKind) :
    s.strategyKind standard caller = s'.strategyKind standard caller := by
  unfold strategyKind
  rw [h.askLock_eq, h.askPreference_eq]

/-- Either there is no key ring, or there are two that agree on the caller. -/
theorem keyRing?_cases {c : CallerId} (hc : c ∈ caller) (probes : List String) :
    (s.keyRing? probes = none ∧ s'.keyRing? probes = none) ∨
      ∃ k k', s.keyRing? probes = some k ∧ s'.keyRing? probes = some k' ∧ k.probes = k'.probes ∧
        k.keys c = k'.keys c ∧ k.factory = k'.factory := by
  have hkeys := h.keys c hc
  unfold keyRing?
  rw [← h.factory c hc]
  cases hs : s.keys <;> cases hs' : s'.keys <;> cases hf : s.factory <;> simp_all

end Services.AgreesFor

namespace KeyRing

variable {k k' : KeyRing} {caller : CallerId}

theorem buildAll_congr (hkeys : k.keys caller = k'.keys caller) (hfactory : k.factory = k'.factory)
    (serial : Nat) (names : List String) :
    k.buildAll caller serial names = k'.buildAll caller serial names := by
  induction names generalizing serial with
  | nil => rfl
  | cons name rest ih =>
    unfold buildAll credential
    rw [hkeys, hfactory, ih serial, ih (serial + 1)]

/-- The providers of a caller are built from their own keys alone. -/
theorem resolve_congr (b : Backends) (hprobes : k.probes = k'.probes)
    (hkeys : k.keys caller = k'.keys caller) (hfactory : k.factory = k'.factory) :
    k.resolve b caller = k'.resolve b caller := by
  unfold resolve
  rw [hprobes, buildAll_congr hkeys hfactory]

end KeyRing

namespace Job

/-! ## The same request with other services -/

/-- The request with other services. -/
def withServices (j : Job) (s : Services) : Job := { j with services := s }

section

variable {j : Job} {s : Services} (h : s.AgreesFor j.services j.caller)
include h

theorem strategy_withServices : (j.withServices s).strategy = j.strategy := by
  have hkind : (j.withServices s).services.strategyKind j.reads.kind j.caller =
      j.services.strategyKind j.reads.kind j.caller := h.strategyKind_eq _
  have hrules : (j.withServices s).services.askRules j.caller = j.services.askRules j.caller :=
    h.askRules_eq
  unfold strategy
  change (((j.withServices s).services.strategyKind j.reads.kind j.caller) >>= fun kind => _) = _
  rw [hkind]
  refine congrArg (_ >>= ·) (funext fun kind => ?_)
  cases kind with
  | custom =>
    change ((j.withServices s).services.askRules j.caller >>= fun own => _) = _
    rw [hrules]
    rfl
  | _ => rfl

theorem ownProviders_withServices : (j.withServices s).ownProviders = j.ownProviders := by
  cases hc : j.caller with
  | none => rw [ownProviders_of_anonymous hc, ownProviders_of_anonymous (j := j.withServices s) hc]
  | some c =>
    rcases h.keyRing?_cases hc j.settings.probes with
      ⟨hk, hk'⟩ | ⟨k, k', hk, hk', hprobes, hkeys, hfactory⟩
    · rw [ownProviders_of_no_keyRing hk', ownProviders_of_no_keyRing (j := j.withServices s) hk]
    · rw [ownProviders_eq hc hk', ownProviders_eq (j := j.withServices s) hc hk]
      exact KeyRing.resolve_congr j.backends hprobes hkeys hfactory

theorem available_withServices : (j.withServices s).available = j.available := by
  unfold available
  rw [ownProviders_withServices h]
  rfl

theorem pick_withServices : (j.withServices s).pick = j.pick := by
  unfold pick
  rw [strategy_withServices h]
  rfl

theorem plan_withServices : (j.withServices s).plan = j.plan := by
  unfold plan
  rw [pick_withServices h, available_withServices h]
  rfl

end

variable (j : Job) (s : Services)

/-! ## Attempts consult nobody -/

theorem attempt_withServices (attempts : Nat) (last : Option ProviderError) (ps : List Provider) :
    (j.withServices s).attempt attempts last ps = j.attempt attempts last ps := by
  induction ps generalizing attempts last with
  | nil => rfl
  | cons p rest ih =>
    refine congrArg (fun f => Course.check (j.tryOne p >>= f)) (funext fun result => ?_)
    cases result with
    | ok response => rfl
    | error e => exact ih (attempts + 1) (some e)

variable {j s}

theorem route_withServices (h : s.AgreesFor j.services j.caller) :
    (j.withServices s).route = j.route := by
  unfold route
  rw [plan_withServices h]
  refine congrArg (j.plan.shield >>= ·) (funext fun result => ?_)
  cases result with
  | error e => rfl
  | ok cs => exact j.attempt_withServices s 0 none cs

theorem stream_withServices (h : s.AgreesFor j.services j.caller) :
    (j.withServices s).stream = j.stream := by
  unfold stream
  rw [plan_withServices h]
  refine congrArg (fun f => Course.pause false (j.plan >>= f)) (funext fun result => ?_)
  cases result with
  | error e => rfl
  | ok cs => exact streamAlong_congr j (j.withServices s) rfl rfl rfl rfl cs

/-! ## What a request keeps to -/

/-- The provider is registered, or was built from a key of the caller. -/
def MayCall (j : Job) (p : Provider) : Prop :=
  p ∈ j.reads.selecting ∨ p ∈ j.reads.probing ∨
    ∃ caller k, j.caller = some caller ∧ j.services.keyRing? j.settings.probes = some k ∧
      k.Builds caller k.probes p

/-- An event keeps to the caller: a question about a caller is about this one, a provider is built
from a key of this one, and whoever is called is registered or was built like that. -/
def Keeps (j : Job) : Event → Prop
  | .asked (.preference caller) => j.caller = some caller
  | .asked (.rules caller) => j.caller = some caller
  | .asked (.key caller _) => j.caller = some caller
  | .called (.build name key) => ∃ caller k, j.caller = some caller ∧
    j.services.keyRing? j.settings.probes = some k ∧ name ∈ k.probes ∧
    KeyRing.usableKey (k.keys caller name) = some key
  | .called (.health p) => j.MayCall p
  | .called (.chat p) => j.MayCall p
  | .called (.stream p) => j.MayCall p
  | _ => True

end Job

theorem Backends.forall_trace_healthy {ok : Event → Prop} {b : Backends} {ps : List Provider}
    (h : ∀ p ∈ ps, ok (.called (.health p))) : ∀ e ∈ (b.healthy ps).trace, ok e := by
  apply forall_trace_bind
  · rw [trace_recordAll]
    intro e he
    obtain ⟨p, hp, rfl⟩ := List.mem_map.1 he
    exact h p hp
  · intro _ _
    apply forall_trace_bind
    · rw [trace, log_await]
      exact List.forall_mem_nil _
    · intro _ _
      exact forall_trace_done _

theorem KeyRing.forall_trace_buildAll {ok : Event → Prop} {k : KeyRing} {caller : CallerId}
    {names : List String} (hask : ∀ name, ok (.asked (.key caller name)))
    (hbuild : ∀ name ∈ names, ∀ key, usableKey (k.keys caller name) = some key →
      ok (.called (.build name key))) (serial : Nat) :
    ∀ e ∈ (k.buildAll caller serial names).trace, ok e := by
  induction names generalizing serial with
  | nil => exact forall_trace_done _
  | cons name rest ih =>
    obtain ⟨hname, hrest⟩ := List.forall_mem_cons.1 hbuild
    apply forall_trace_bind (forall_trace_consult (hask name))
    intro key? hanswer
    have hkey : usableKey (k.keys caller name) = key? := Ending.finished.inj hanswer
    cases key? with
    | none => exact ih hrest serial
    | some key =>
      refine forall_trace_bind (forall_trace_record (hname key hkey)) ?_
      intro _ _
      split
      · exact ih hrest serial
      · exact forall_trace_bind (ih hrest (serial + 1)) fun _ _ => forall_trace_done _

namespace Job

variable {j : Job}

section Pick

variable {ok : Event → Prop} (hlock : ok (.asked .isLocked))
  (hpreference : ∀ c, j.caller = some c → ok (.asked (.preference c)))
  (hrules : ∀ c, j.caller = some c → ok (.asked (.rules c)))
include hlock hpreference hrules

theorem forall_trace_strategy : ∀ e ∈ j.strategy.trace, ok e := by
  have lock : ∀ e ∈ (j.services.askLock j.caller).trace, ok e := by
    unfold Services.askLock
    split
    · exact forall_trace_done _
    · exact forall_trace_consult hlock
  have preference : ∀ e ∈ (j.services.askPreference j.caller).trace, ok e := by
    unfold Services.askPreference
    split
    · exact forall_trace_done _
    · split
      · exact forall_trace_done _
      · exact forall_trace_consult (hpreference _ (by assumption))
  have rules : ∀ e ∈ (j.services.askRules j.caller).trace, ok e := by
    unfold Services.askRules
    split
    · exact forall_trace_done _
    · split
      · exact forall_trace_done _
      · exact forall_trace_consult (hrules _ (by assumption))
  have kind : ∀ e ∈ (j.services.strategyKind j.reads.kind j.caller).trace, ok e := by
    apply forall_trace_bind lock
    intro locked _
    split
    · exact forall_trace_done _
    · exact forall_trace_bind preference fun _ _ => forall_trace_done _
  apply forall_trace_bind kind
  intro kind _
  split
  · exact forall_trace_bind rules fun _ _ => forall_trace_done _
  · exact forall_trace_done _

/-- For a pick the services are asked about the strategy, and a turn may be used up. -/
theorem forall_trace_pick (hturn : ok .turned) : ∀ e ∈ j.pick.trace, ok e := by
  apply forall_trace_bind (forall_trace_strategy hlock hpreference hrules)
  intro strategy _
  apply forall_trace_bind
  · rw [trace, log_ofExcept]
    exact List.forall_mem_nil _
  · intro selection _
    change ∀ e ∈ (if strategy.takesTurn j.reads.selecting then
      Course.record .turned >>= fun _ => pure selection else pure selection).trace, ok e
    split
    · exact forall_trace_bind (forall_trace_record hturn) fun _ _ => forall_trace_done _
    · exact forall_trace_done _

end Pick

theorem keeps_pick : ∀ e ∈ j.pick.trace, j.Keeps e :=
  forall_trace_pick trivial (fun _ hc => hc) (fun _ hc => hc) trivial

/-- A caller's own providers were built from their keys. -/
theorem mayCall_of_own {own : List Provider} {p : Provider}
    (h : j.ownProviders.outcome = .finished own) (hp : p ∈ own) : j.MayCall p := by
  unfold ownProviders at h
  split at h
  · rename_i caller k hc hk
    exact .inr (.inr ⟨caller, k, hc, hk, KeyRing.mem_resolve h hp⟩)
  · cases h
    cases hp

theorem keeps_ownProviders : ∀ e ∈ j.ownProviders.trace, j.Keeps e := by
  unfold ownProviders
  split
  · rename_i caller k hc hk
    have hbuild : ∀ name ∈ k.probes, ∀ key, KeyRing.usableKey (k.keys caller name) = some key →
        j.Keeps (.called (.build name key)) := by
      intro name hname key hkey
      exact ⟨caller, k, hc, hk, hname, hkey⟩
    apply forall_trace_bind (KeyRing.forall_trace_buildAll (fun _ => hc) hbuild 0)
    intro ps hps
    apply Backends.forall_trace_healthy
    intro p hp
    exact .inr (.inr ⟨caller, k, hc, hk, KeyRing.mem_buildAll hps hp⟩)
  · exact forall_trace_done _

theorem keeps_available : ∀ e ∈ j.available.trace, j.Keeps e := by
  apply forall_trace_bind keeps_ownProviders
  intro own _
  split
  · have hhealthy : ∀ e ∈ (j.backends.healthy j.reads.probing).trace, j.Keeps e :=
      Backends.forall_trace_healthy fun p hp => .inr (.inl hp)
    exact forall_trace_bind hhealthy fun _ _ => forall_trace_done _
  · exact forall_trace_done _

theorem keeps_plan : ∀ e ∈ j.plan.trace, j.Keeps e := by
  unfold plan
  split
  · exact forall_trace_done _
  · apply forall_trace_bind keeps_pick
    intro selection _
    split
    · exact forall_trace_done _
    · exact forall_trace_bind keeps_available fun _ _ => forall_trace_done _

/-- Everybody on a plan is registered or was built from a key of the caller. -/
theorem mayCall_of_mem_plan {cs : List Provider} {p : Provider}
    (h : j.plan.outcome = .finished (.ok cs)) (hp : p ∈ cs) : j.MayCall p := by
  obtain ⟨selected, available, hs, ha, rfl⟩ := plan_eq_ok h
  have hselected : j.MayCall selected := .inl (mem_of_pick hs)
  have havailable : ∀ q ∈ available.providers, j.MayCall q := by
    intro q hq
    rcases available_eq ha with ⟨own, ho, -, rfl⟩ | ⟨-, ps, hps, rfl⟩
    · exact mayCall_of_own ho hq
    · exact .inr (.inl (Backends.healthy_subset hps hq))
  rcases mem_of_mem_attemptOrder hp with rfl | hmem
  · exact hselected
  · exact havailable p hmem

/-- Every event of every run of a request keeps to its caller. -/
theorem keeps_of_run (capacity : Nat) (cancelled : Bool) (schedule : List Act) {e : Event}
    (he : e ∈ ((Machine.start j.route cancelled).run capacity schedule).events ∨
      e ∈ ((Machine.start j.stream cancelled).run capacity schedule).events) : j.Keeps e := by
  have hp : ∀ cs, j.plan.outcome = .finished (.ok cs) → ∀ p ∈ cs, j.Admits j.Keeps p := by
    intro cs hcs p hp
    have hcall : j.MayCall p := mayCall_of_mem_plan hcs hp
    exact ⟨hcall, hcall, trivial⟩
  rcases he with he | he
  · exact Machine.events_within (route_within keeps_plan hp) capacity cancelled schedule he
  · exact Machine.events_within (stream_within keeps_plan hp) capacity cancelled schedule he

/-- **Callers are kept apart.** With services that agree on the caller, the strategy, the caller's
own providers, the plan and the whole request are the same, streamed or not. Without a caller it
makes no difference what is stored. And in every run each question about a caller, each key that a
provider is built from and each provider that is called belong to the caller or to all. -/
theorem isolated (j : Job) :
    (∀ s : Services, s.AgreesFor j.services j.caller →
      s.strategyKind j.reads.kind j.caller = j.services.strategyKind j.reads.kind j.caller ∧
      (j.withServices s).strategy = j.strategy ∧
      (j.withServices s).ownProviders = j.ownProviders ∧
      (j.withServices s).plan = j.plan ∧
      (j.withServices s).route = j.route ∧
      (j.withServices s).stream = j.stream) ∧
    (j.caller = none → ∀ preferences rules keys,
      (j.withServices { j.services with preferences, rules, keys }).plan = j.plan ∧
      (j.withServices { j.services with preferences, rules, keys }).route = j.route ∧
      (j.withServices { j.services with preferences, rules, keys }).stream = j.stream) ∧
    ∀ (capacity : Nat) (cancelled : Bool) (schedule : List Act) (e : Event),
      e ∈ ((Machine.start j.route cancelled).run capacity schedule).events ∨
        e ∈ ((Machine.start j.stream cancelled).run capacity schedule).events → j.Keeps e := by
  refine ⟨?agreeing, ?anonymous, ?events⟩
  case agreeing =>
    intro s h
    exact ⟨h.strategyKind_eq _, strategy_withServices h, ownProviders_withServices h,
      plan_withServices h, route_withServices h, stream_withServices h⟩
  case anonymous =>
    intro hc preferences rules keys
    have h : { j.services with preferences, rules, keys }.AgreesFor j.services j.caller := by
      rw [hc]
      exact ⟨rfl, nofun, nofun, nofun, nofun⟩
    exact ⟨plan_withServices h, route_withServices h, stream_withServices h⟩
  case events =>
    intro capacity cancelled schedule e he
    exact keeps_of_run capacity cancelled schedule he

end Job

/-! ## Two callers -/

/-- Services where one caller has stored a preference and a key, and another one something else. -/
def sharedServices (wish secret : String) : Services where
  preferences := some fun c => .value (some (if c = ⟨0⟩ then "balanced" else wish))
  keys := some fun c _ => .value (some (if c = ⟨0⟩ then "key" else secret))
  factory := some fun name _ => some { name, models := [] }

/-- What the other caller stores makes no difference, and the key of the caller is used. -/
theorem neighbour_makes_no_difference :
    (sharedServices "cost" "secret").AgreesFor (sharedServices "model" "other") (some ⟨0⟩) ∧
      (((strangerJob false).withServices (sharedServices "model" "other")).withServices
        (sharedServices "cost" "secret")).route =
          ((strangerJob false).withServices (sharedServices "model" "other")).route ∧
      ((strangerJob false).withServices (sharedServices "model" "other")).Keeps
        (.called (.build "own" "key")) := by
  have hagrees : (sharedServices "cost" "secret").AgreesFor (sharedServices "model" "other")
      (some ⟨0⟩) := by
    refine ⟨rfl, ?_, ?_, ?_, ?_⟩ <;>
      · intro c hc
        obtain rfl := Option.some.inj hc
        rfl
  have hevent : Event.called (.build "own" "key") ∈ ((Machine.start
      ((strangerJob false).withServices (sharedServices "model" "other")).route).run 1
        (List.replicate 20 .work)).events := by decide
  obtain ⟨hsame, -, hkeeps⟩ :=
    Job.isolated ((strangerJob false).withServices (sharedServices "model" "other"))
  obtain ⟨-, -, -, -, hroute, -⟩ := hsame _ hagrees
  exact ⟨hagrees, hroute, hkeeps 1 false (List.replicate 20 .work) _ (.inl hevent)⟩

end ChatGateway
