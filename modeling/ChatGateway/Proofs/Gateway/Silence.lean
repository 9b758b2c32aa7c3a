import ChatGateway.Proofs.Course.Unasked
import ChatGateway.Proofs.Gateway.Isolation
import ChatGateway.Proofs.Gateway.Resolution

/-!
# Services with nothing to say

A service that is missing, one that fails and one whose answer says nothing come to the same
(`Silent`). Exchanging one for another in any of the answers leaves the strategy, the pick and the
plan as they are; the whole request remains the same but for the questions, so no failure of a
service ever becomes an error of a request (`Job.silence_is_absence`). The same holds of the default
strategy that is taken over from the policy.
-/

namespace ChatGateway

open Course

/-! ## Silence -/

/-- A service says nothing: it is missing, it fails, or its answer is empty. -/
inductive Silent {α : Type} (isEmpty : α → Prop) : Option (Answer α) → Prop
  | missing : Silent isEmpty none
  | failed : Silent isEmpty (some .failed)
  | empty {a : α} : isEmpty a → Silent isEmpty (some (.value a))

/-- Two answers come to the same: they are equal, or neither says anything. -/
def Alike {α : Type} (isEmpty : α → Prop) (a b : Option (Answer α)) : Prop :=
  a = b ∨ Silent isEmpty a ∧ Silent isEmpty b

theorem Alike.heard_eq {α β : Type} {isEmpty : α → Prop} {a b : Option (Answer α)}
    (h : Alike isEmpty a b) (hear : Option (Answer α) → β) {nothing : β}
    (hsilent : ∀ a, Silent isEmpty a → hear a = nothing) : hear a = hear b := by
  rcases h with rfl | ⟨ha, hb⟩
  · rfl
  · rw [hsilent a ha, hsilent b hb]

/-- A name that stands for no kind of strategy. -/
def NamesNoKind (name : String) : Prop := ∀ kind : StrategyKind, kind.name ≠ name

theorem NamesNoKind.ofName?_eq {name : String} (h : NamesNoKind name) :
    StrategyKind.ofName? name = none :=
  Option.eq_none_iff_forall_ne_some.2 fun kind hk => h kind (StrategyKind.ofName?_eq_some_iff.1 hk)

namespace Services

variable {s s' : Services} {caller : Option CallerId}

/-- The answer to a question for a key, if there are both a store of keys and a factory. -/
def keyAnswer? (s : Services) (caller : CallerId) (name : String) :
    Option (Answer (Option String)) :=
  match s.keys, s.factory with
  | some keys, some _ => some (keys caller name)
  | _, _ => none

/-- The answers of two sets of services to a request for `caller` come to the same, each on its own.
What says nothing is: that callers are not barred from a strategy of their own, no name of a
strategy or one that stands for none, no rules, and no key or a blank one. -/
structure AlikeFor (s s' : Services) (caller : Option CallerId) : Prop where
  lock : Alike (· = false) (s.policy.map (·.isLocked caller)) (s'.policy.map (·.isLocked caller))
  preference : ∀ c ∈ caller, Alike (fun name => ∀ n ∈ name, NamesNoKind n)
    (s.preferences.map (· c)) (s'.preferences.map (· c))
  rules : ∀ c ∈ caller, Alike (· = []) (s.rules.map (· c)) (s'.rules.map (· c))
  key : ∀ c ∈ caller, ∀ name, Alike (fun key => ∀ k ∈ key, Text.isBlankText k = true)
    (s.keyAnswer? c name) (s'.keyAnswer? c name)
  factory : ∀ c ∈ caller, ∀ build build', s.factory = some build → s'.factory = some build' →
    build = build'

/-! ## What is heard of an answer -/

/-- What is heard of an answer about the lock. -/
def hearLock : Option (Answer Bool) → Bool
  | some (.value locked) => locked
  | _ => false

/-- What is heard of an answer about the default strategy. -/
def hearDefault : Option (Answer String) → Option StrategyKind
  | some (.value name) => StrategyKind.ofName? name
  | _ => none

theorem locked_eq_hearLock (s : Services) (caller : Option CallerId) :
    s.locked caller = hearLock (s.policy.map (·.isLocked caller)) := by
  unfold locked
  cases s.policy with
  | none => rfl
  | some policy => cases hl : policy.isLocked caller <;> simp [hl, hearLock]

theorem preferenceOf_eq_bind (s : Services) (c : CallerId) :
    s.preferenceOf (some c) = (s.preferences.map (· c)).bind preferredKind? := by
  cases hs : s.preferences <;> simp [preferenceOf, hs]

theorem rulesOf_eq_bind (s : Services) (c : CallerId) :
    s.rulesOf (some c) = (s.rules.map (· c)).bind someRules? := by
  cases hs : s.rules <;> simp [rulesOf, hs]

theorem hearLock_of_silent {a : Option (Answer Bool)} (h : Silent (· = false) a) :
    hearLock a = false := by
  cases h with
  | missing => rfl
  | failed => rfl
  | empty he => exact he

theorem preferredKind?_of_silent {a : Option (Answer (Option String))}
    (h : Silent (fun name => ∀ n ∈ name, NamesNoKind n) a) : a.bind preferredKind? = none := by
  cases h with
  | missing => rfl
  | failed => rfl
  | @empty name he =>
    cases name with
    | none => rfl
    | some n => exact (he n rfl).ofName?_eq

theorem someRules?_of_silent {a : Option (Answer (List StoredRule))} (h : Silent (· = []) a) :
    a.bind someRules? = none := by
  cases h with
  | missing => rfl
  | failed => rfl
  | empty he =>
    subst he
    rfl

theorem usableKey_of_silent {a : Option (Answer (Option String))}
    (h : Silent (fun key => ∀ k ∈ key, Text.isBlankText k = true) a) :
    a.bind KeyRing.usableKey = none := by
  cases h with
  | missing => rfl
  | failed => rfl
  | @empty key he =>
    cases key with
    | none => rfl
    | some k => exact if_pos (he k rfl)

theorem hearDefault_of_silent {a : Option (Answer String)} (h : Silent NamesNoKind a) :
    hearDefault a = none := by
  cases h with
  | missing => rfl
  | failed => rfl
  | empty he => exact he.ofName?_eq

namespace AlikeFor

variable (h : s.AlikeFor s' caller)
include h

theorem locked_eq : s.locked caller = s'.locked caller := by
  rw [locked_eq_hearLock, locked_eq_hearLock]
  exact h.lock.heard_eq hearLock fun _ => hearLock_of_silent

theorem preferenceOf_eq : s.preferenceOf caller = s'.preferenceOf caller := by
  cases caller with
  | none => rfl
  | some c =>
    rw [preferenceOf_eq_bind, preferenceOf_eq_bind]
    exact (h.preference c rfl).heard_eq (·.bind preferredKind?) fun _ => preferredKind?_of_silent

theorem rulesOf_eq : s.rulesOf caller = s'.rulesOf caller := by
  cases caller with
  | none => rfl
  | some c =>
    rw [rulesOf_eq_bind, rulesOf_eq_bind]
    exact (h.rules c rfl).heard_eq (·.bind someRules?) fun _ => someRules?_of_silent

theorem kindOf_eq (standard : StrategyKind) :
    s.kindOf caller standard = s'.kindOf caller standard := by
  unfold kindOf
  rw [h.locked_eq, h.preferenceOf_eq]

theorem usableKey_eq {c : CallerId} (hc : c ∈ caller) (name : String) :
    (s.keyAnswer? c name).bind KeyRing.usableKey =
      (s'.keyAnswer? c name).bind KeyRing.usableKey :=
  (h.key c hc name).heard_eq (·.bind KeyRing.usableKey) fun _ => usableKey_of_silent

end AlikeFor

/-! ## Questions left out -/

theorem unasked_askLock (s : Services) (caller : Option CallerId) :
    (s.askLock caller).unasked = .done (s.locked caller) := by
  unfold askLock locked
  cases s.policy <;> rfl

theorem unasked_askPreference (s : Services) (caller : Option CallerId) :
    (s.askPreference caller).unasked = .done (s.preferenceOf caller) := by
  unfold askPreference preferenceOf
  cases caller with
  | none => rfl
  | some c => cases s.preferences <;> rfl

theorem unasked_askRules (s : Services) (caller : Option CallerId) :
    (s.askRules caller).unasked = .done (s.rulesOf caller) := by
  unfold askRules rulesOf
  cases caller with
  | none => rfl
  | some c => cases s.rules <;> rfl

theorem unasked_strategyKind (s : Services) (standard : StrategyKind) (caller : Option CallerId) :
    (s.strategyKind standard caller).unasked = .done (s.kindOf caller standard) := by
  unfold strategyKind kindOf
  rw [unasked_bind, unasked_askLock]
  change Course.unasked (if _ then _ else _) = _
  split
  · rfl
  · rw [unasked_bind, unasked_askPreference]
    rfl

/-! ## Keys that are not there -/

/-- The key that is used is the one in the answer. -/
theorem bind_usableKey_of_keyRing {probes : List String} {k : KeyRing}
    (hk : s.keyRing? probes = some k) (c : CallerId) (name : String) :
    (s.keyAnswer? c name).bind KeyRing.usableKey = KeyRing.usableKey (k.keys c name) := by
  unfold keyRing? at hk
  unfold keyAnswer?
  cases hs : s.keys <;> cases hf : s.factory <;> rw [hs, hf] at hk <;> cases hk
  rfl

theorem bind_usableKey_of_no_keyRing {probes : List String} (hk : s.keyRing? probes = none)
    (c : CallerId) (name : String) : (s.keyAnswer? c name).bind KeyRing.usableKey = none := by
  unfold keyRing? at hk
  unfold keyAnswer?
  cases hs : s.keys <;> cases hf : s.factory <;> simp_all

theorem factory_of_keyRing {probes : List String} {k : KeyRing}
    (hk : s.keyRing? probes = some k) : s.factory = some k.factory ∧ k.probes = probes := by
  unfold keyRing? at hk
  cases hs : s.keys <;> cases hf : s.factory <;> rw [hs, hf] at hk <;> cases hk
  exact ⟨rfl, rfl⟩

end Services

namespace KeyRing

variable {k k' : KeyRing} {caller : CallerId}

theorem unasked_buildAll_congr
    (hkeys : ∀ name, usableKey (k.keys caller name) = usableKey (k'.keys caller name))
    (hfactory : k.factory = k'.factory) (serial : Nat) (names : List String) :
    (k.buildAll caller serial names).unasked = (k'.buildAll caller serial names).unasked := by
  induction names generalizing serial with
  | nil => rfl
  | cons name rest ih =>
    unfold buildAll credential
    rw [hkeys name, hfactory]
    refine unasked_bind_congr rfl fun key => ?_
    cases key with
    | none => exact ih serial
    | some key =>
      refine unasked_bind_congr rfl fun _ => ?_
      split
      · exact ih serial
      · exact unasked_bind_congr (ih (serial + 1)) fun _ => rfl

/-- Without a key nothing is built. -/
theorem unasked_buildAll_of_no_key (hkeys : ∀ name, usableKey (k.keys caller name) = none)
    (serial : Nat) (names : List String) :
    (k.buildAll caller serial names).unasked = .done [] := by
  induction names with
  | nil => rfl
  | cons name rest ih =>
    unfold buildAll credential
    rw [hkeys name]
    exact ih

/-- Without a key nothing is checked either. -/
theorem unasked_resolve_of_no_key (b : Backends)
    (hkeys : ∀ name, usableKey (k.keys caller name) = none) :
    (k.resolve b caller).unasked = .done [] := by
  unfold resolve
  rw [unasked_bind, unasked_buildAll_of_no_key hkeys]
  rfl

end KeyRing

namespace Job

variable {j : Job} {s : Services}

/-! ## The same request but for the questions -/

/-- Without a usable key there are no providers of the caller's own. -/
theorem unasked_ownProviders_of_no_key {c : CallerId} (hc : j.caller = some c)
    (hkeys : ∀ name, (j.services.keyAnswer? c name).bind KeyRing.usableKey = none) :
    j.ownProviders.unasked = .done [] := by
  cases hk : j.services.keyRing? j.settings.probes with
  | none =>
    rw [ownProviders_of_no_keyRing hk]
    rfl
  | some k =>
    rw [ownProviders_eq hc hk]
    apply KeyRing.unasked_resolve_of_no_key
    intro name
    rw [← Services.bind_usableKey_of_keyRing hk, hkeys]

section

variable (h : s.AlikeFor j.services j.caller)
include h

theorem unasked_strategy : (j.withServices s).strategy.unasked = j.strategy.unasked := by
  refine unasked_bind_congr ?_ fun kind => ?_
  · change (s.strategyKind j.reads.kind j.caller).unasked = _
    rw [Services.unasked_strategyKind, Services.unasked_strategyKind, h.kindOf_eq]
  · cases kind with
    | custom =>
      refine unasked_bind_congr ?_ fun _ => rfl
      change (s.askRules j.caller).unasked = _
      rw [Services.unasked_askRules, Services.unasked_askRules, h.rulesOf_eq]
    | _ => rfl

theorem unasked_pick : (j.withServices s).pick.unasked = j.pick.unasked :=
  unasked_bind_congr (unasked_strategy h) fun _ => rfl

theorem unasked_ownProviders :
    (j.withServices s).ownProviders.unasked = j.ownProviders.unasked := by
  cases hc : j.caller with
  | none => rw [ownProviders_of_anonymous hc, ownProviders_of_anonymous (j := j.withServices s) hc]
  | some c =>
    have hkey := h.usableKey_eq hc
    have neither (hnone : ∀ name, (s.keyAnswer? c name).bind KeyRing.usableKey = none) :
        (j.withServices s).ownProviders.unasked = j.ownProviders.unasked := by
      rw [unasked_ownProviders_of_no_key (j := j.withServices s) hc hnone,
        unasked_ownProviders_of_no_key hc fun name => (hkey name).symm.trans (hnone name)]
    cases hk : s.keyRing? j.settings.probes with
    | none => exact neither (Services.bind_usableKey_of_no_keyRing hk c)
    | some k =>
      cases hk' : j.services.keyRing? j.settings.probes with
      | none =>
        apply neither
        intro name
        rw [hkey, Services.bind_usableKey_of_no_keyRing hk']
      | some k' =>
        obtain ⟨hf, hprobes⟩ := Services.factory_of_keyRing hk
        obtain ⟨hf', hprobes'⟩ := Services.factory_of_keyRing hk'
        rw [ownProviders_eq hc hk', ownProviders_eq (j := j.withServices s) hc hk]
        refine unasked_bind_congr ?_ fun _ => rfl
        rw [hprobes, hprobes']
        have hkeys : ∀ name,
            KeyRing.usableKey (k.keys c name) = KeyRing.usableKey (k'.keys c name) := by
          intro name
          rw [← Services.bind_usableKey_of_keyRing hk, hkey, Services.bind_usableKey_of_keyRing hk']
        exact KeyRing.unasked_buildAll_congr hkeys (h.factory c hc _ _ hf hf') 0 _

theorem unasked_plan : (j.withServices s).plan.unasked = j.plan.unasked := by
  have havailable : (j.withServices s).available.unasked = j.available.unasked :=
    unasked_bind_congr (unasked_ownProviders h) fun _ => rfl
  unfold plan
  change Course.unasked (if j.reads.selecting.isEmpty then _ else _) = _
  split
  · rfl
  · refine unasked_bind_congr (unasked_pick h) fun selection => ?_
    cases selection with
    | error cause => rfl
    | ok selected => exact unasked_bind_congr havailable fun _ => rfl

theorem unasked_route : (j.withServices s).route.unasked = j.route.unasked := by
  refine unasked_bind_congr ?_ fun result => ?_
  · rw [unasked_shield, unasked_shield, unasked_plan h]
  · cases result with
    | error e => rfl
    | ok cs => exact congrArg Course.unasked (j.attempt_withServices s 0 none cs)

theorem unasked_stream : (j.withServices s).stream.unasked = j.stream.unasked := by
  refine congrArg (Course.pause false) (unasked_bind_congr (unasked_plan h) fun result => ?_)
  cases result with
  | error e => rfl
  | ok cs =>
    exact congrArg Course.unasked (streamAlong_congr j (j.withServices s) rfl rfl rfl rfl cs)

end

end Job

/-! ## Errors come before any refusal -/

theorem Course.Quiet.unrefused {α : Type} {c : Course α} (hc : c.Quiet) {h : List Mark}
    (hh : Mark.refused ∉ h) :
    c.Ensures (fun _ _ => True) (fun _ s => Mark.refused ∉ s) h := by
  refine hc.ensures (fun _ _ _ => trivial) fun _ _ => ?_
  rw [log_of_quiet hc]
  simp [hh]

theorem relay_unrefused (p : Provider) (forwarded : Nat) (lastId : String)
    (items : List (Reply Delivery)) {h : List Mark} (hh : Mark.refused ∉ h) :
    (relay p forwarded lastId items).Ensures (fun _ _ => True)
      (fun ending s => ending ≠ .abandoned → Mark.refused ∉ s) h := by
  induction items generalizing forwarded lastId h with
  | nil =>
    unfold relay
    split
    · exact fun _ => hh
    · exact ⟨trivial, trivial, fun _ => by simpa using hh, fun hne => absurd rfl hne⟩
  | cons item rest ih =>
    rw [relay, ensures_bind]
    refine ((quiet_await item).unrefused hh).mono (fun _ _ => id) fun delivery s hs => ?_
    cases delivery with
    | nothing => exact ih forwarded lastId hs
    | failure e => exact fun _ => hs
    | chunk c =>
      have hsent : Mark.refused ∉ s ++ [.sent (c.from p)] := by simpa using hs
      refine ⟨trivial, trivial, ?_, fun hne => absurd rfl hne⟩
      split
      · exact fun _ => hsent
      · exact ih (forwarded + 1) c.id hsent

namespace Job

variable (j : Job)

theorem relayFrom_unrefused (p : Provider) {h : List Mark} (hh : Mark.refused ∉ h) :
    (j.relayFrom p).Ensures (fun _ _ => True)
      (fun ending s => ending ≠ .abandoned → Mark.refused ∉ s) h := by
  rw [relayFrom, ensures_bind]
  refine ((j.quiet_callStream p).unrefused hh).mono (fun _ _ => id) fun r s hs => ?_
  cases r with
  | error e => exact fun _ => hs
  | ok items => exact relay_unrefused p 0 "" items hs

theorem streamAttempt_unrefused (ps : List Provider) (attempts : Nat)
    (last : Option ProviderError) {h : List Mark} (hh : Mark.refused ∉ h) :
    (j.streamAttempt attempts last ps).Ensures (fun _ _ => True)
      (fun r s => (∃ e, r = .error e) → Mark.refused ∉ s) h := by
  induction ps generalizing attempts last h with
  | nil => exact fun _ => hh
  | cons p rest ih =>
    rw [streamAttempt_cons, ensures_bind]
    refine (j.relayFrom_unrefused p hh).mono (fun _ _ => id) fun ending s hs => ?_
    rw [ensures_bind]
    by_cases hne : ending = .abandoned
    · -- The chunks were refused: nobody is asked after that, and the stream ends well.
      subst hne
      refine (j.quiet_sample p).ensures (fun _ _ _ => trivial) fun _ _ => ?_
      rintro ⟨e, he⟩
      cases he
    · refine ((j.quiet_sample p).unrefused (hs hne)).mono (fun _ _ => id) fun _ s' hs' => ?_
      rcases j.afterRelay_cases attempts p rest ending with ⟨r, hr⟩ | ⟨e, rfl, hr⟩
      · rw [hr]
        exact fun _ => hs'
      · rw [hr]
        exact ih (attempts + 1) (some e) hs'

theorem streamAlong_unrefused (ps : List Provider) {h : List Mark} (hh : Mark.refused ∉ h) :
    (j.streamAlong ps).Ensures (fun _ _ => True)
      (fun r s => (∃ e, r = .error e) → Mark.refused ∉ s) h := by
  cases ps with
  | nil => exact fun _ => hh
  | cons p rest =>
    rw [streamAlong]
    split
    · rw [streamWhole, ensures_bind]
      refine ((j.quiet_tryOne p).unrefused hh).mono (fun _ _ => id) fun r s hs => ?_
      cases r with
      | error e => exact fun _ => hs
      | ok response =>
        refine ⟨trivial, trivial, ?_, ?_⟩ <;>
          · rintro ⟨e, he⟩
            cases he
    · exact j.streamAttempt_unrefused _ 0 none hh

/-- A stream whose chunks are refused comes to no error any more. -/
theorem stream_unrefused : j.stream.Ensures (fun _ _ => True)
    (fun r s => (∃ e, r = .error e) → Mark.refused ∉ s) [] := by
  refine ⟨trivial, fun _ => trivial, ?_⟩
  rw [ensures_bind]
  refine (j.prepares_plan.quiet.unrefused List.not_mem_nil).mono (fun _ _ => id) fun r s hs => ?_
  cases r with
  | error e => exact fun _ => hs
  | ok cs => exact j.streamAlong_unrefused cs hs

end Job

/-! ## The default strategy -/

theorem Gateway.outcome_syncDefault (g : Gateway) (caller : Option CallerId) :
    (g.syncDefault caller).outcome = .finished { g with
      standard := (Services.hearDefault (g.services.policy.map (·.defaultStrategy caller))).elim
        g.standard g.standard.withKind } := by
  have hask : (g.services.askDefault caller).shield.outcome =
      .finished (Services.hearDefault (g.services.policy.map (·.defaultStrategy caller))) := by
    rw [outcome_shield]
    unfold Services.askDefault
    cases g.services.policy with
    | none => rfl
    | some policy => cases hd : policy.defaultStrategy caller <;> simp [hd] <;> rfl
  unfold syncDefault
  rw [outcome_bind_of_finished hask]
  cases Services.hearDefault (g.services.policy.map (·.defaultStrategy caller)) <;> rfl

/-- **Silence is absence.** Services whose answers come to the same, each on its own, give the same
kind of strategy, the same pick and the same plan, and the whole request is the same but for the
questions, streamed or not. So every run tracks the request with the other services, and ends in no
error but its own. The default strategy is the same, too, once it has been taken over from the
policy, and a policy that is missing, fails or names no strategy leaves it as it was. -/
theorem Job.silence_is_absence (j : Job) (s : Services) :
    (s.AlikeFor j.services j.caller →
      (∀ standard, (s.strategyKind standard j.caller).outcome =
        (j.services.strategyKind standard j.caller).outcome) ∧
      (j.withServices s).pick.outcome = j.pick.outcome ∧
      (j.withServices s).plan.outcome = j.plan.outcome ∧
      (j.withServices s).route.unasked = j.route.unasked ∧
      (j.withServices s).stream.unasked = j.stream.unasked ∧
      ∀ (capacity : Nat) (cancelled : Bool) (schedule : List Act),
        ((Machine.start (j.withServices s).route cancelled).run capacity schedule).Tracks j.route ∧
        (Act.drop ∉ schedule → ((Machine.start (j.withServices s).stream cancelled).run capacity
          schedule).Tracks j.stream) ∧
        ∀ e, ((Machine.start (j.withServices s).stream cancelled).run capacity schedule).course =
          .done (.error e) → j.stream.outcome = .finished (.error e)) ∧
    ∀ (g : Gateway) (caller : Option CallerId),
      Alike NamesNoKind (s.policy.map (·.defaultStrategy caller))
        (g.services.policy.map (·.defaultStrategy caller)) →
      ∃ standard, ({ g with services := s }.syncDefault caller).outcome =
          .finished { g with services := s, standard } ∧
        (g.syncDefault caller).outcome = .finished { g with standard } ∧
        (Silent NamesNoKind (g.services.policy.map (·.defaultStrategy caller)) →
          standard = g.standard) := by
  constructor
  · intro h
    have hroute := unasked_route h
    have hstream := unasked_stream h
    refine ⟨?kind, outcome_eq_of_unasked_eq (unasked_pick h),
      outcome_eq_of_unasked_eq (unasked_plan h), hroute, hstream, ?runs⟩
    case kind =>
      intro standard
      rw [Services.outcome_strategyKind, Services.outcome_strategyKind, h.kindOf_eq]
    case runs =>
      intro capacity cancelled schedule
      refine ⟨Machine.run_tracks_of_quiet hroute capacity cancelled (quiet_route _), ?_, ?_⟩
      · intro hstays
        exact Machine.run_tracks hstream capacity cancelled hstays
      · intro e he
        rw [← outcome_eq_of_unasked_eq hstream]
        exact Machine.outcome_of_done (stream_unrefused _) he ⟨e, rfl⟩
  · intro g caller h
    have hheard := h.heard_eq Services.hearDefault fun _ => Services.hearDefault_of_silent
    refine ⟨_, Gateway.outcome_syncDefault _ caller, ?_, ?_⟩
    · rw [Gateway.outcome_syncDefault, ← hheard]
    · intro hsilent
      rw [hheard, Services.hearDefault_of_silent hsilent]
      rfl

/-! ## Services that are down -/

/-- Services that are all there and all fail. -/
def failingServices : Services where
  policy := some ⟨fun _ => .failed, fun _ => .failed⟩
  preferences := some fun _ => .failed
  rules := some fun _ => .failed
  keys := some fun _ _ => .failed
  factory := some fun name _ => some { name, models := [] }

/-- With these, two providers of which one is broken are tried as if there were no services. -/
theorem failing_services_are_absent :
    failingServices.AlikeFor {} (some ⟨0⟩) ∧
      (({ brokenJob 100 with caller := some ⟨0⟩ }).withServices failingServices).plan.outcome =
        .finished (.ok brokenFirst) ∧
      ∃ standard, (({ Gateway.ofConfig {} {} with services := failingServices }).syncDefault
        none).outcome = .finished
          { Gateway.ofConfig {} {} with services := failingServices, standard } := by
  have halike : failingServices.AlikeFor {} (some ⟨0⟩) :=
    ⟨.inr ⟨.failed, .missing⟩, fun _ _ => .inr ⟨.failed, .missing⟩,
      fun _ _ => .inr ⟨.failed, .missing⟩, fun _ _ _ => .inr ⟨.failed, .missing⟩, nofun⟩
  obtain ⟨hrequest, hdefault⟩ :=
    Job.silence_is_absence { brokenJob 100 with caller := some ⟨0⟩ } failingServices
  obtain ⟨-, -, hplan, -⟩ := hrequest halike
  obtain ⟨standard, hsync, -, -⟩ :=
    hdefault (Gateway.ofConfig {} {}) none (.inr ⟨.failed, .missing⟩)
  exact ⟨halike, hplan.trans rfl, standard, hsync⟩

end ChatGateway
