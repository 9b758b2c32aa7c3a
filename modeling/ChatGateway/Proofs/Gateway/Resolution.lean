import ChatGateway.Proofs.Gateway.Failover
import ChatGateway.Routing.Desk

/-!
# Which strategy is in effect

The strategy in effect is settled by the kind in effect for the caller, the rules of the caller and
those of the gateway (`Job.outcome_strategy`), and it settles the pick (`Job.outcome_pick`). A
locked policy keeps the caller out of the kind, but not out of the rules: a pick does not depend on
what callers prefer, and depends on the rules of the caller only if the default strategy is by rules
(`Job.pick_of_locked`). Then the rules of the caller come first (`own_rules_break_lock`).
-/

namespace ChatGateway

open Course

/-! ## What the services have to say -/

namespace Services

variable (s : Services) (caller : Option CallerId)

/-- Whether the policy is locked for a caller. -/
def locked : Bool :=
  match s.policy with
  | none => false
  | some policy =>
    match policy.isLocked caller with
    | .value locked => locked
    | .failed => false

/-- The kind that a caller prefers, if any. -/
def preferenceOf : Option CallerId → Option StrategyKind
  | none => none
  | some caller => s.preferences.bind fun preferences => preferredKind? (preferences caller)

/-- The rules that a caller has, if any. -/
def rulesOf : Option CallerId → Option (List StoredRule)
  | none => none
  | some caller => s.rules.bind fun rules => someRules? (rules caller)

/-- The kind in effect for a caller. -/
def kindOf (standard : StrategyKind) : StrategyKind :=
  if s.locked caller then standard else (s.preferenceOf caller).getD standard

theorem outcome_askLock : (s.askLock caller).outcome = .finished (s.locked caller) := by
  unfold askLock locked
  cases s.policy <;> rfl

theorem askLock_of_locked {s : Services} {caller : Option CallerId}
    (h : s.locked caller = true) : s.askLock caller = .consult .isLocked true := by
  unfold askLock
  cases hp : s.policy with
  | none => simp [locked, hp] at h
  | some policy =>
    simp only [locked, hp] at h
    exact congrArg (Course.consult .isLocked) h

theorem outcome_askPreference :
    (s.askPreference caller).outcome = .finished (s.preferenceOf caller) := by
  unfold askPreference preferenceOf
  cases caller with
  | none => rfl
  | some caller => cases s.preferences <;> rfl

theorem outcome_askRules : (s.askRules caller).outcome = .finished (s.rulesOf caller) := by
  unfold askRules rulesOf
  cases caller with
  | none => rfl
  | some caller => cases s.rules <;> rfl

theorem outcome_strategyKind (standard : StrategyKind) :
    (s.strategyKind standard caller).outcome = .finished (s.kindOf caller standard) := by
  unfold strategyKind kindOf
  rw [outcome_bind_of_finished (s.outcome_askLock caller)]
  cases s.locked caller with
  | true => rfl
  | false => exact outcome_bind_of_finished (s.outcome_askPreference caller)

end Services

/-- The strategy of a kind, if it is by rules by these own ones or else these of the gateway. -/
def Strategy.inEffect (kind : StrategyKind) (own : Option (List StoredRule))
    (standard : Option (List RoutingRule)) : Strategy :=
  match kind with
  | .custom => .byRules own standard
  | kind => .ofKind kind

namespace Job

variable (j : Job)

theorem outcome_strategy :
    j.strategy.outcome = .finished (.inEffect (j.services.kindOf j.caller j.reads.kind)
      (j.services.rulesOf j.caller) j.reads.rules) := by
  unfold strategy
  rw [outcome_bind_of_finished (j.services.outcome_strategyKind j.caller j.reads.kind)]
  cases j.services.kindOf j.caller j.reads.kind with
  | custom => exact outcome_bind_of_finished (j.services.outcome_askRules j.caller)
  | _ => rfl

/-- What the strategy in effect comes to among the registered providers. -/
def selection : Selection :=
  (Strategy.inEffect (j.services.kindOf j.caller j.reads.kind) (j.services.rulesOf j.caller)
    j.reads.rules).select j.reads.signals j.reads.rotation j.request j.reads.selecting

theorem outcome_pick : j.pick.outcome = (Course.ofExcept j.selection).outcome := by
  unfold pick
  rw [outcome_bind_of_finished j.outcome_strategy, ← selection]
  cases j.selection with
  | error cause => rfl
  | ok selection =>
    change (if _ then Course.record .turned >>= fun _ => pure selection
      else pure selection : Course _).outcome = _
    split <;> rfl

/-! ## A locked policy -/

/-- The same request where callers have other preferences and other rules. -/
def withWishes (preferences : Option (CallerId → Answer (Option String)))
    (rules : Option (CallerId → Answer (List StoredRule))) : Job :=
  { j with services := { j.services with preferences, rules } }

variable {j} {preferences : Option (CallerId → Answer (Option String))}
  {rules : Option (CallerId → Answer (List StoredRule))}

/-- A pick depends on nothing that callers say but the strategy in effect. -/
theorem pick_withWishes (h : (j.withWishes preferences rules).strategy = j.strategy) :
    (j.withWishes preferences rules).pick = j.pick := by
  unfold pick
  rw [h]
  rfl

/-- A caller whose policy is locked is asked for rules at most. -/
theorem strategy_of_locked (hlocked : j.services.locked j.caller = true) :
    j.strategy = .ask .isLocked false (match j.reads.kind with
      | .custom => j.services.askRules j.caller >>= fun own => .done (.byRules own j.reads.rules)
      | kind => .done (.ofKind kind)) := by
  unfold strategy Services.strategyKind
  rw [Services.askLock_of_locked hlocked]
  cases j.reads.kind <;> rfl

theorem strategy_of_locked_kind (hlocked : j.services.locked j.caller = true)
    (hkind : j.reads.kind ≠ .custom) :
    j.strategy = .consult .isLocked (.ofKind j.reads.kind) := by
  rw [strategy_of_locked hlocked]
  cases hk : j.reads.kind with
  | custom => exact absurd hk hkind
  | _ => rfl

/-- **What a locked policy bars callers from.** Whatever callers prefer, the pick is made in the
same way. So it is whatever their rules are, if the default strategy is not by rules; and if it is,
the pick is the same for the same rules of the caller. -/
theorem pick_of_locked (j : Job) (hlocked : j.services.locked j.caller = true)
    (preferences : Option (CallerId → Answer (Option String)))
    (rules : Option (CallerId → Answer (List StoredRule))) :
    (j.withWishes preferences j.services.rules).pick = j.pick ∧
    (j.reads.kind ≠ .custom → (j.withWishes preferences rules).pick = j.pick) ∧
    ((j.withWishes preferences rules).services.rulesOf j.caller = j.services.rulesOf j.caller →
      (j.withWishes preferences rules).pick.outcome = j.pick.outcome) := by
  have hstill (rules) : (j.withWishes preferences rules).services.locked j.caller = true := hlocked
  refine ⟨pick_withWishes ?_, fun hkind => pick_withWishes ?_, fun hrules => ?_⟩
  · exact (strategy_of_locked (hstill _)).trans (strategy_of_locked hlocked).symm
  · exact (strategy_of_locked_kind (hstill _) hkind).trans
      (strategy_of_locked_kind hlocked hkind).symm
  · have hkind : (j.withWishes preferences rules).services.kindOf j.caller j.reads.kind =
        j.services.kindOf j.caller j.reads.kind := by
      unfold Services.kindOf
      rw [hlocked, hstill]
      rfl
    have hselection : (j.withWishes preferences rules).selection = j.selection := by
      change (Strategy.inEffect ((j.withWishes preferences rules).services.kindOf j.caller
        j.reads.kind) ((j.withWishes preferences rules).services.rulesOf j.caller)
        j.reads.rules).select j.reads.signals j.reads.rotation j.request j.reads.selecting = _
      rw [hkind, hrules]
      rfl
    rw [outcome_pick, outcome_pick, hselection]

end Job

/-! ## A caller with rules -/

/-- The request of a caller who has a rule for the sound provider, with a policy that is locked and
a rule of the gateway for the broken one. -/
def wilfulJob : Job :=
  { brokenJob 100 with
    services :=
      { policy := some ⟨fun _ => .value true, fun _ => .value "custom"⟩
        rules := some fun _ => .value [.forModel "model" "sound" 1] }
    reads :=
      { (brokenJob 100).reads with
        kind := .custom, rules := some [⟨"broken", 1, .modelEquals "model"⟩] }
    caller := some ⟨0⟩ }

/-- A preference does not get through. -/
theorem wilful_preference_is_barred :
    wilfulJob.services.locked wilfulJob.caller = true ∧
      (wilfulJob.withWishes (some fun _ => .value (some "balanced")) wilfulJob.services.rules).pick =
        wilfulJob.pick := by
  have hlocked : wilfulJob.services.locked wilfulJob.caller = true := rfl
  exact ⟨hlocked, (Job.pick_of_locked wilfulJob hlocked _ none).1⟩

/-- **Rules of their own break the lock**: the pick for a caller does depend on them. -/
theorem own_rules_break_lock :
    ¬∀ (j : Job) (preferences : Option (CallerId → Answer (Option String)))
      (rules : Option (CallerId → Answer (List StoredRule))),
      j.services.locked j.caller = true →
      (j.withWishes preferences rules).pick.outcome = j.pick.outcome := by
  intro h
  have hsame := h wilfulJob none none rfl
  have hown : wilfulJob.pick.outcome =
      .finished (.ok ⟨{ name := "sound", models := [] }, .server 1⟩) := by
    have hone : RuleOrder.compiled [.forModel "model" "sound" 1] =
        [(StoredRule.forModel "model" "sound" 1).compile] :=
      List.mergeSort_singleton _
    have hselection : wilfulJob.selection =
        (Strategy.custom (RuleOrder.compiled [.forModel "model" "sound" 1])).select
          wilfulJob.reads.signals wilfulJob.reads.rotation wilfulJob.request
          wilfulJob.reads.selecting := rfl
    rw [Job.outcome_pick, hselection, hone]
    rfl
  have hshared : (wilfulJob.withWishes none none).pick.outcome =
      .finished (.ok ⟨{ name := "broken", models := [] }, .server 0⟩) := rfl
  rw [hown, hshared] at hsame
  simp at hsame

end ChatGateway
