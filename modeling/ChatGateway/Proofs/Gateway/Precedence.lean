import ChatGateway.Proofs.Course.Shielded
import ChatGateway.Proofs.Gateway.Interruption
import ChatGateway.Proofs.Gateway.Silence
import ChatGateway.Proofs.Routing.Priorities

/-!
# Which strategy takes precedence

The default strategy is set up by a configuration, and may then be changed any number of times: by
its kind, by its rules, or by the policy (`DefaultAct`). Its kind is the last that was settled, and
its rules are the last that were given (`Gateway.standsOn_after`); a change of the kind alone never
touches them.

On this default stands what a caller gets (`StrategyInEffect`). The kind is the default if the
policy is locked, else what the caller prefers, else the default again; if it is by rules, the rules
are those of the caller if there are any, and else those of the default, in the order of their
priorities. `Gateway.strategy_by_precedence` says that every gateway answers so, whatever has been
done to its default and however its services answer.
-/

namespace ChatGateway

open Course

/-! ## What is done to the default strategy -/

/-- Something that is done to the default strategy. -/
inductive DefaultAct where
  | setKind (kind : StrategyKind)
  | setRules (rules : List StoredRule)
  /-- The default is taken over from the policy, as the services answer at that moment. -/
  | sync (services : Services) (caller : Option CallerId)

namespace DefaultAct

/-- The kind that an act settles, if it settles one. -/
def kind? : DefaultAct → Option StrategyKind
  | .setKind kind => some kind
  | .setRules _ => some .custom
  | .sync services caller => Services.hearDefault (services.policy.map (·.defaultStrategy caller))

/-- The rules that an act gives, if it gives any. -/
def rules? : DefaultAct → Option (List StoredRule)
  | .setRules rules => some rules
  | _ => none

variable {α : Type} {settles : DefaultAct → Option α}

/-- What the last of some acts settles that settles anything, and else what there was before. -/
def last (settles : DefaultAct → Option α) (before : α) (acts : List DefaultAct) : α :=
  (acts.filterMap settles).getLast?.getD before

theorem last_append_singleton (before : α) (acts : List DefaultAct) (a : DefaultAct) :
    last settles before (acts ++ [a]) = (settles a).getD (last settles before acts) := by
  unfold last
  cases ha : settles a <;> simp [List.filterMap_append, ha]

end DefaultAct

/-- A default strategy of this kind by these rules. -/
structure DefaultStrategy.StandsOn (d : DefaultStrategy) (kind : StrategyKind)
    (rules : List StoredRule) : Prop where
  kind_eq : d.kind = kind
  rules_eq : d.rules.getD [] = RuleOrder.compiled rules

namespace Gateway

/-- The gateway with services that answer as given. -/
def answering (g : Gateway) (services : Services) : Gateway := { g with services }

/-- The gateway after an act. -/
def act (g : Gateway) : DefaultAct → Gateway
  | .setKind kind => g.setKind kind
  | .setRules rules => g.setRules rules
  | .sync services caller =>
    match ((g.answering services).syncDefault caller).outcome with
    | .finished g' => g'.answering g.services
    | _ => g

/-- The gateway after some acts. -/
def after (g : Gateway) (acts : List DefaultAct) : Gateway := acts.foldl act g

variable {g : Gateway} {kind : StrategyKind} {rules : List StoredRule}

theorem act_sync (g : Gateway) (services : Services) (caller : Option CallerId) :
    g.act (.sync services caller) = { g with
      standard := (Services.hearDefault (services.policy.map (·.defaultStrategy caller))).elim
        g.standard g.standard.withKind } := by
  rw [act, outcome_syncDefault]
  rfl

theorem standsOn_ofConfig (c : RoutingConfig) (services : Services) :
    (ofConfig c services).standard.StandsOn c.strategy c.rules where
  kind_eq := rfl
  rules_eq := by
    change Option.getD (if c.rules.isEmpty then none else some (RuleOrder.compiled c.rules)) [] = _
    cases c.rules with
    | nil => exact List.mergeSort_nil.symm
    | cons r rules => rfl

/-- **An act leaves what it does not settle.** -/
theorem standsOn_act (h : g.standard.StandsOn kind rules) (a : DefaultAct) :
    (g.act a).standard.StandsOn (a.kind?.getD kind) (a.rules?.getD rules) := by
  cases a with
  | setKind k => exact ⟨rfl, h.rules_eq⟩
  | setRules rs => exact ⟨rfl, rfl⟩
  | sync services caller =>
    rw [act_sync]
    change DefaultStrategy.StandsOn (Option.elim _ _ _) (Option.getD (Services.hearDefault _) _) _
    cases Services.hearDefault (services.policy.map (·.defaultStrategy caller)) with
    | none => exact h
    | some k => exact ⟨rfl, h.rules_eq⟩

/-- The rules are exactly as they were, unless new ones are given. -/
theorem rules_act {a : DefaultAct} (ha : a.rules? = none) :
    (g.act a).standard.rules = g.standard.rules := by
  cases a with
  | setKind k => rfl
  | setRules rs => cases ha
  | sync services caller =>
    rw [act_sync]
    cases Services.hearDefault (services.policy.map (·.defaultStrategy caller)) <;> rfl

theorem after_append_singleton (g : Gateway) (acts : List DefaultAct) (a : DefaultAct) :
    g.after (acts ++ [a]) = (g.after acts).act a :=
  List.foldl_append

/-- What the default strategy stands on goes back to the acts that settled it last. -/
theorem standsOn_after (c : RoutingConfig) (services : Services) (acts : List DefaultAct) :
    ((ofConfig c services).after acts).standard.StandsOn
      (DefaultAct.last DefaultAct.kind? c.strategy acts)
      (DefaultAct.last DefaultAct.rules? c.rules acts) := by
  induction acts using List.reverseRecOn with
  | nil => exact standsOn_ofConfig c services
  | append_singleton acts a ih =>
    rw [after_append_singleton, DefaultAct.last_append_singleton, DefaultAct.last_append_singleton]
    exact standsOn_act ih a

theorem rules_after {acts : List DefaultAct} (h : ∀ a ∈ acts, a.rules? = none) :
    (g.after acts).standard.rules = g.standard.rules := by
  induction acts using List.reverseRecOn with
  | nil => rfl
  | append_singleton acts a ih =>
    obtain ⟨hacts, ha⟩ := List.forall_mem_append.1 h
    rw [after_append_singleton, rules_act (ha a (List.mem_singleton_self a)), ih hacts]

end Gateway

/-! ## What a caller gets -/

section Specification

variable (s : Services) (caller : Option CallerId)

namespace Services

/-- The policy is locked. -/
def Locks : Prop := ∃ policy, s.policy = some policy ∧ policy.isLocked caller = .value true

/-- There is a caller for whom the name of this kind is stored. -/
def Prefers (kind : StrategyKind) : Prop :=
  ∃ c preferences, caller = some c ∧ s.preferences = some preferences ∧
    preferences c = .value (some kind.name)

/-- There is a caller with these rules, and not with an empty list of them. -/
def HasRules (rules : List StoredRule) : Prop :=
  ∃ c store, caller = some c ∧ s.rules = some store ∧ store c = .value rules ∧ rules ≠ []

/-- The policy names this kind as the default. -/
def NamesDefault (kind : StrategyKind) : Prop :=
  ∃ policy, s.policy = some policy ∧ policy.defaultStrategy caller = .value kind.name

end Services

/-- The kinds that are in effect for a caller, on a default kind. -/
inductive KindInEffect (standard : StrategyKind) : StrategyKind → Prop
  | locked : s.Locks caller → KindInEffect standard standard
  | preferred {kind : StrategyKind} : ¬s.Locks caller → s.Prefers caller kind →
    KindInEffect standard kind
  | standard : ¬s.Locks caller → (∀ kind, ¬s.Prefers caller kind) → KindInEffect standard standard

/-- The rules that are in effect for a caller, on the rules of the default. -/
inductive RulesInEffect (standard : List StoredRule) : List StoredRule → Prop
  | own {rules : List StoredRule} : s.HasRules caller rules → RulesInEffect standard rules
  | standard : (∀ rules, ¬s.HasRules caller rules) → RulesInEffect standard standard

/-- The strategies that are in effect for a caller, on a default of this kind by these rules. -/
inductive StrategyInEffect (kind : StrategyKind) (rules : List StoredRule) : Strategy → Prop
  | ofKind {k : StrategyKind} : KindInEffect s caller kind k → k ≠ .custom →
    StrategyInEffect kind rules (.ofKind k)
  | byRules {chosen : List StoredRule} {ordered : List RoutingRule} :
    KindInEffect s caller kind .custom → RulesInEffect s caller rules chosen →
    RuleOrder.Orders (chosen.map StoredRule.compile) ordered →
    StrategyInEffect kind rules (.custom ordered)

end Specification

variable {s : Services} {caller : Option CallerId} {kind k : StrategyKind}
  {rules rs : List StoredRule}

namespace Services

theorem locks_iff : s.Locks caller ↔ s.locked caller = true := by
  unfold Locks locked
  cases s.policy with
  | none => simp
  | some policy => cases hl : policy.isLocked caller <;> simp [hl]

theorem prefers_iff : s.Prefers caller kind ↔ s.preferenceOf caller = some kind := by
  unfold Prefers preferenceOf
  cases caller with
  | none => simp
  | some c =>
    cases s.preferences with
    | none => simp
    | some preferences =>
      rcases hp : preferences c with (_ | name) | _ <;>
        simp [hp, preferredKind?, StrategyKind.ofName?_eq_some_iff]
      exact eq_comm

theorem hasRules_iff : s.HasRules caller rules ↔ s.rulesOf caller = some rules := by
  unfold HasRules rulesOf
  cases caller with
  | none => simp
  | some c =>
    cases s.rules with
    | none => simp
    | some store =>
      rcases hr : store c with (_ | ⟨r, rest⟩) | _ <;> simp [hr, someRules?]
      rintro rfl
      simp

theorem namesDefault_iff : s.NamesDefault caller kind ↔
    hearDefault (s.policy.map (·.defaultStrategy caller)) = some kind := by
  unfold NamesDefault
  cases s.policy with
  | none => simp [hearDefault]
  | some policy =>
    cases hd : policy.defaultStrategy caller <;>
      simp [hd, hearDefault, StrategyKind.ofName?_eq_some_iff]
    exact eq_comm

end Services

theorem kindInEffect_iff : KindInEffect s caller kind k ↔ k = s.kindOf caller kind := by
  unfold Services.kindOf
  constructor
  · rintro (hlocked | ⟨hopen, hprefers⟩ | ⟨hopen, hnone⟩)
    · rw [if_pos (Services.locks_iff.1 hlocked)]
    · rw [if_neg (mt Services.locks_iff.2 hopen), Services.prefers_iff.1 hprefers]
      rfl
    · rw [if_neg (mt Services.locks_iff.2 hopen),
        Option.eq_none_iff_forall_ne_some.2 fun k => mt Services.prefers_iff.2 (hnone k)]
      rfl
  · rintro rfl
    split
    · exact .locked (Services.locks_iff.2 ‹_›)
    · have hopen : ¬s.Locks caller := mt Services.locks_iff.1 ‹_›
      cases hp : s.preferenceOf caller with
      | none => exact .standard hopen fun k hk => by simp [Services.prefers_iff.1 hk] at hp
      | some k => exact .preferred hopen (Services.prefers_iff.2 hp)

theorem rulesInEffect_iff :
    RulesInEffect s caller rules rs ↔ rs = (s.rulesOf caller).getD rules := by
  constructor
  · rintro (hown | hnone)
    · rw [Services.hasRules_iff.1 hown]
      rfl
    · rw [Option.eq_none_iff_forall_ne_some.2 fun rs => mt Services.hasRules_iff.2 (hnone rs)]
      rfl
  · rintro rfl
    cases hr : s.rulesOf caller with
    | none => exact .standard fun rs hrs => by simp [Services.hasRules_iff.1 hrs] at hr
    | some rs => exact .own (Services.hasRules_iff.2 hr)

theorem Strategy.inEffect_eq_ofKind (hk : k ≠ .custom) (own : Option (List StoredRule))
    (standard : Option (List RoutingRule)) : Strategy.inEffect k own standard = .ofKind k := by
  cases k with
  | custom => exact absurd rfl hk
  | _ => rfl

/-- The rules of the gateway are in order already; those of the caller take their place. -/
theorem Strategy.byRules_eq {standard : Option (List RoutingRule)}
    (h : standard.getD [] = RuleOrder.compiled rules) (own : Option (List StoredRule)) :
    Strategy.byRules own standard = .ofStored (own.getD rules) := by
  cases own with
  | none => exact congrArg Strategy.custom h
  | some rs => rfl

/-- One strategy is in effect. -/
theorem strategyInEffect_iff {d : DefaultStrategy} (hd : d.StandsOn kind rules)
    {strategy : Strategy} : StrategyInEffect s caller kind rules strategy ↔
      strategy = .inEffect (s.kindOf caller d.kind) (s.rulesOf caller) d.rules := by
  rw [hd.kind_eq]
  constructor
  · rintro (⟨hkind, hne⟩ | ⟨hkind, hrules, horders⟩)
    · rw [← kindInEffect_iff.1 hkind]
      exact (Strategy.inEffect_eq_ofKind hne _ _).symm
    · rw [← kindInEffect_iff.1 hkind, horders.eq_sorted, rulesInEffect_iff.1 hrules]
      exact (Strategy.byRules_eq hd.rules_eq _).symm
  · rintro rfl
    have hkind : KindInEffect s caller kind (s.kindOf caller kind) := kindInEffect_iff.2 rfl
    by_cases hcustom : s.kindOf caller kind = .custom
    · rw [hcustom] at hkind ⊢
      change StrategyInEffect s caller kind rules (.byRules (s.rulesOf caller) d.rules)
      rw [Strategy.byRules_eq hd.rules_eq]
      exact .byRules hkind (rulesInEffect_iff.2 rfl) (RuleOrder.orders_sorted _)
    · rw [Strategy.inEffect_eq_ofKind hcustom]
      exact .ofKind hkind hcustom

/-! ## The answers of a gateway -/

namespace Services

theorem firm_strategyKind (s : Services) (standard : StrategyKind) (caller : Option CallerId) :
    (s.strategyKind standard caller).shield.Firm := by
  have lock : (s.askLock caller).shield.Firm := by
    unfold askLock
    cases s.policy with
    | none => trivial
    | some policy => exact ⟨rfl, trivial⟩
  have preference : (s.askPreference caller).shield.Firm := by
    unfold askPreference
    split
    · trivial
    · split
      · trivial
      · exact ⟨rfl, trivial⟩
  unfold strategyKind
  rw [shield_bind]
  refine lock.bind fun locked => ?_
  cases locked with
  | true => trivial
  | false =>
    change (s.askPreference caller >>= _).shield.Firm
    rw [shield_bind]
    exact preference.bind fun _ => trivial

theorem firm_askDefault (s : Services) (caller : Option CallerId) :
    (s.askDefault caller).shield.Firm := by
  unfold askDefault
  cases s.policy with
  | none => trivial
  | some policy => exact ⟨rfl, trivial⟩

end Services

namespace Gateway

theorem returns_strategyKindFor (g : Gateway) (caller : Option CallerId) :
    (g.strategyKindFor caller).Returns (g.services.kindOf caller g.standard.kind) :=
  (g.services.firm_strategyKind _ _).returns
    ((outcome_shield _).trans (g.services.outcome_strategyKind caller _))

theorem returns_syncDefault (g : Gateway) (caller : Option CallerId) :
    (g.syncDefault caller).Returns { g with
      standard := (Services.hearDefault (g.services.policy.map (·.defaultStrategy caller))).elim
        g.standard g.standard.withKind } := by
  refine Firm.returns ?_ (g.outcome_syncDefault caller)
  refine (g.services.firm_askDefault caller).bind fun kind => ?_
  cases kind <;> trivial

/-- The kind that the policy names is taken over, and nothing else. -/
theorem sync_takes_over {g : Gateway} (h : g.standard.StandsOn kind rules) (s : Services)
    (caller : Option CallerId) :
    ∃ standard, ((g.answering s).syncDefault caller).Returns { g.answering s with standard } ∧
      standard.kind = (DefaultAct.sync s caller).kind?.getD kind ∧
      standard.rules = g.standard.rules ∧
      (∀ k, s.NamesDefault caller k → standard.kind = k) ∧
      ((∀ k, ¬s.NamesDefault caller k) → standard = g.standard) := by
  have hreturns := (g.answering s).returns_syncDefault caller
  have hkind := (standsOn_act h (.sync s caller)).kind_eq
  have hnames : ∀ k, s.NamesDefault caller k ↔
      Services.hearDefault (s.policy.map (·.defaultStrategy caller)) = some k :=
    fun _ => Services.namesDefault_iff
  rw [act_sync] at hkind
  change (syncDefault _ caller).Returns { g.answering s with
    standard := (Services.hearDefault (s.policy.map _)).elim _ _ } at hreturns
  generalize Services.hearDefault (s.policy.map (·.defaultStrategy caller)) = named
    at hreturns hnames hkind
  refine ⟨_, hreturns, hkind, ?_⟩
  cases named with
  | none => exact ⟨rfl, fun k hk => (nomatch (hnames k).1 hk), fun _ => rfl⟩
  | some named =>
    exact ⟨rfl, fun k hk => Option.some.inj ((hnames k).1 hk),
      fun hnone => absurd ((hnames named).2 rfl) (hnone named)⟩

end Gateway

namespace Job

variable (j : Job)

theorem returns_strategy : j.strategy.shield.Returns (.inEffect
    (j.services.kindOf j.caller j.reads.kind) (j.services.rulesOf j.caller) j.reads.rules) :=
  j.planned_strategy.firm.returns ((outcome_shield _).trans j.outcome_strategy)

theorem settles_strategy : j.strategy.Settles j.strategy.trace (.finished (.inEffect
    (j.services.kindOf j.caller j.reads.kind) (j.services.rulesOf j.caller) j.reads.rules)) := by
  have hsettles := j.planned_strategy.prepares.quiet.settles
  rwa [j.outcome_strategy] at hsettles

end Job

/-- **The order of precedence.** Whatever has been done to the default strategy of a gateway since
it was set up, and however its services answer now:

* one kind is in effect for a caller, and it is what the gateway says;
* one strategy is in effect, and it is the one that a request of the caller goes by;
* nothing but new rules for all touches the rules of the default;
* the gateway takes over from the policy the kind that it names, and nothing else, and comes to the
  default that is in effect then. -/
theorem Gateway.strategy_by_precedence (c : RoutingConfig) (installed s : Services)
    (acts : List DefaultAct) (caller : Option CallerId) (backends : Backends)
    (request : ChatRequest) :
    (∃ resolved,
      (∀ k, KindInEffect s caller (DefaultAct.last DefaultAct.kind? c.strategy acts) k ↔
        k = resolved) ∧
      ((((ofConfig c installed).after acts).answering s).strategyKindFor caller).Returns resolved) ∧
    (∃ strategy,
      (∀ t, StrategyInEffect s caller (DefaultAct.last DefaultAct.kind? c.strategy acts)
        (DefaultAct.last DefaultAct.rules? c.rules acts) t ↔ t = strategy) ∧
      ((((ofConfig c installed).after acts).answering s).job
        backends caller request).strategy.shield.Returns strategy ∧
      ∃ events, ((((ofConfig c installed).after acts).answering s).job
        backends caller request).strategy.Settles events (.finished strategy)) ∧
    (∀ later : List DefaultAct, (∀ a ∈ later, a.rules? = none) →
      ((ofConfig c installed).after (acts ++ later)).standard.rules =
        ((ofConfig c installed).after acts).standard.rules) ∧
    ∃ standard,
      ((((ofConfig c installed).after acts).answering s).syncDefault caller).Returns
        { ((ofConfig c installed).after acts).answering s with standard } ∧
      standard.kind = DefaultAct.last DefaultAct.kind? c.strategy (acts ++ [.sync s caller]) ∧
      standard.rules = ((ofConfig c installed).after acts).standard.rules ∧
      (∀ kind, s.NamesDefault caller kind → standard.kind = kind) ∧
      ((∀ kind, ¬s.NamesDefault caller kind) →
        standard = ((ofConfig c installed).after acts).standard) := by
  have hstands := standsOn_after c installed acts
  generalize hg : (ofConfig c installed).after acts = g at hstands ⊢
  refine ⟨?kind, ?strategy, ?rules, ?sync⟩
  case kind =>
    refine ⟨_, fun k => ?_, (g.answering s).returns_strategyKindFor caller⟩
    rw [← hstands.kind_eq]
    exact kindInEffect_iff
  case strategy =>
    exact ⟨_, fun t => strategyInEffect_iff hstands, Job.returns_strategy _, _,
      Job.settles_strategy _⟩
  case rules =>
    intro later hlater
    have happend : (ofConfig c installed).after (acts ++ later) = g.after later := by
      rw [← hg]
      exact List.foldl_append
    rw [happend]
    exact rules_after hlater
  case sync =>
    obtain ⟨standard, hreturns, hkind, hothers⟩ := sync_takes_over hstands s caller
    rw [← DefaultAct.last_append_singleton] at hkind
    exact ⟨standard, hreturns, hkind, hothers⟩

/-! ## A rule that waits for its kind -/

/-- A configuration by cost, with a rule for one model. -/
def ruledConfig : RoutingConfig :=
  { strategy := .cost, rules := [.forModel "model" "sound" 1] }

/-- Services whose policy wants the strategy by rules. -/
def rulingServices : Services :=
  { policy := some ⟨fun _ => .value false, fun _ => .value "custom"⟩ }

/-- The rule is still there when the policy makes the strategy by rules, after two other kinds. -/
theorem rule_outlasts_other_kinds :
    ((Gateway.ofConfig ruledConfig {}).after ([.setKind .model] ++
      [.setKind .balanced, .sync rulingServices none])).standard.rules =
        ((Gateway.ofConfig ruledConfig {}).after [.setKind .model]).standard.rules ∧
    rulingServices.NamesDefault none .custom ∧
    ∃ standard,
      ((((Gateway.ofConfig ruledConfig {}).after [.setKind .model]).answering
        rulingServices).syncDefault none).Returns
          { ((Gateway.ofConfig ruledConfig {}).after [.setKind .model]).answering rulingServices with
            standard } ∧
      standard.kind = .custom := by
  obtain ⟨-, -, hrules, standard, hreturns, -, -, hnamed, -⟩ :=
    Gateway.strategy_by_precedence ruledConfig {} rulingServices [.setKind .model] none
      (brokenJob 100).backends (brokenJob 100).request
  have hnames : rulingServices.NamesDefault none .custom := ⟨_, rfl, rfl⟩
  have hnone : ∀ a ∈ [DefaultAct.setKind .balanced, .sync rulingServices none],
      a.rules? = none := by
    simp [DefaultAct.rules?]
  exact ⟨hrules _ hnone, hnames, standard, hreturns, hnamed .custom hnames⟩

end ChatGateway
