import ChatGateway.Proofs.Gateway.Resolution

/-!
# Reading the default strategy

A request reads the kind of the default strategy first and its rules later, and the default strategy
may be changed in between, any number of times. Still the two never come from different defaults:
the rules change only when the kind becomes by rules, so there is a moment between the two readings
at which the default strategy was what the request makes of them (`Job.reads_one_default`).
-/

namespace ChatGateway

open Course

/-- The strategy that a default stands for. -/
def DefaultStrategy.strategy (d : DefaultStrategy) : Strategy := .inEffect d.kind none d.rules

/-! ## A request among others who set the default -/

/-- What is done to the default strategy, or read of it, in one piece. -/
inductive DefaultTurn where
  | setKind (kind : StrategyKind)
  | setRules (rules : List StoredRule)
  /-- The default strategy is taken over from the policy. -/
  | sync (caller : Option CallerId)
  | readKind
  | readRules

/-- How far a request has read the default strategy, with the defaults that there have been from its
first reading to its second. -/
inductive Reading where
  | notYet
  | half (kind : StrategyKind) (held : List DefaultStrategy)
  | full (kind : StrategyKind) (rules : Option (List RoutingRule)) (held : List DefaultStrategy)

/-- A gateway while a request reads its default strategy. -/
structure DefaultReader where
  gateway : Gateway
  reading : Reading := .notYet

namespace DefaultReader

/-- The gateway is changed. -/
def put (s : DefaultReader) (g : Gateway) : DefaultReader where
  gateway := g
  reading :=
    match s.reading with
    | .half kind held => .half kind (held ++ [g.standard])
    | reading => reading

/-- One turn. The kind is read once, and after it the rules are. -/
def step (s : DefaultReader) : DefaultTurn → DefaultReader
  | .setKind kind => s.put (s.gateway.setKind kind)
  | .setRules rules => s.put (s.gateway.setRules rules)
  | .sync caller =>
    match (s.gateway.syncDefault caller).outcome with
    | .finished g => s.put g
    | _ => s
  | .readKind =>
    match s.reading with
    | .notYet => { s with reading := .half s.gateway.standard.kind [s.gateway.standard] }
    | _ => s
  | .readRules =>
    match s.reading with
    | .half kind held => { s with reading := .full kind s.gateway.standard.rules held }
    | _ => s

/-- The turns of all parties, in the order in which they come. -/
def run (s : DefaultReader) (turns : List DefaultTurn) : DefaultReader := turns.foldl step s

end DefaultReader

/-! ## What is read -/

/-- Some defaults cover a kind and rules: both were there, and they were there together if the kind
is by rules. -/
structure Covers (held : List DefaultStrategy) (kind : StrategyKind)
    (rules : Option (List RoutingRule)) : Prop where
  kind_mem : ∃ d ∈ held, d.kind = kind
  rules_mem : ∃ d ∈ held, d.rules = rules
  together : kind = .custom → ∃ d ∈ held, d.kind = .custom ∧ d.rules = rules

theorem Covers.one (d : DefaultStrategy) : Covers [d] d.kind d.rules where
  kind_mem := ⟨d, List.mem_singleton_self d, rfl⟩
  rules_mem := ⟨d, List.mem_singleton_self d, rfl⟩
  together h := ⟨d, List.mem_singleton_self d, h, rfl⟩

/-- One more default is covered if its rules are the same, or if it is by rules. -/
theorem Covers.append {held : List DefaultStrategy} {kind : StrategyKind} {d d' : DefaultStrategy}
    (h : Covers held kind d.rules) (hd : d'.rules = d.rules ∨ d'.kind = .custom) :
    Covers (held ++ [d']) kind d'.rules where
  kind_mem := by
    obtain ⟨x, hx, hk⟩ := h.kind_mem
    exact ⟨x, List.mem_append_left _ hx, hk⟩
  rules_mem := ⟨d', by simp, rfl⟩
  together hc := by
    rcases hd with hd | hd
    · obtain ⟨x, hx, hk, hr⟩ := h.together hc
      exact ⟨x, List.mem_append_left _ hx, hk, hr.trans hd.symm⟩
    · exact ⟨d', by simp, hd, rfl⟩

/-- What has been read, or is about to be, is covered by the defaults that there have been. -/
def DefaultReader.Untorn (s : DefaultReader) : Prop :=
  match s.reading with
  | .notYet => True
  | .half kind held => Covers held kind s.gateway.standard.rules
  | .full kind rules held => Covers held kind rules

namespace Gateway

/-- Taking over the default from the policy sets the kind, if it does anything. -/
theorem syncDefault_eq {g g' : Gateway} {caller : Option CallerId}
    (h : (g.syncDefault caller).outcome = .finished g') : g' = g ∨ ∃ kind, g' = g.setKind kind := by
  unfold syncDefault at h
  obtain ⟨kind, -, h⟩ := outcome_bind_eq_finished h
  cases kind with
  | none => exact .inl (by cases h; rfl)
  | some kind => exact .inr ⟨kind, by cases h; rfl⟩

end Gateway

namespace DefaultReader

variable {s : DefaultReader}

/-- **The rules change only when the kind becomes by rules.** -/
theorem Untorn.put (h : s.Untorn) {g : Gateway}
    (hg : g.standard.rules = s.gateway.standard.rules ∨ g.standard.kind = .custom) :
    (s.put g).Untorn := by
  obtain ⟨gateway, reading⟩ := s
  cases reading with
  | notYet => trivial
  | half kind held => exact Covers.append h hg
  | full kind rules held => exact h

theorem Untorn.step (h : s.Untorn) (t : DefaultTurn) : (s.step t).Untorn := by
  cases t with
  | setKind kind => exact h.put (.inl rfl)
  | setRules rules => exact h.put (.inr rfl)
  | sync caller =>
    simp only [DefaultReader.step]
    split
    · rename_i g hg
      rcases Gateway.syncDefault_eq hg with rfl | ⟨kind, rfl⟩
      · exact h.put (.inl rfl)
      · exact h.put (.inl rfl)
    · exact h
  | readKind =>
    obtain ⟨gateway, reading⟩ := s
    cases reading with
    | notYet => exact Covers.one gateway.standard
    | half kind held => exact h
    | full kind rules held => exact h
  | readRules =>
    obtain ⟨gateway, reading⟩ := s
    cases reading with
    | notYet => exact h
    | half kind held => exact h
    | full kind rules held => exact h

theorem untorn_run (g : Gateway) (turns : List DefaultTurn) :
    ((DefaultReader.mk g .notYet).run turns).Untorn := by
  induction turns using List.reverseRecOn with
  | nil => trivial
  | append_singleton turns t ih =>
    have hrun : (DefaultReader.mk g .notYet).run (turns ++ [t]) =
        ((DefaultReader.mk g .notYet).run turns).step t := List.foldl_append
    rw [hrun]
    exact ih.step t

end DefaultReader

namespace Services

variable {s : Services} {caller : Option CallerId}

/-- The kind in effect is the default one, or else it does not matter what that is. -/
theorem kindOf_cases (s : Services) (caller : Option CallerId) :
    (∀ standard, s.kindOf caller standard = standard) ∨
      ∃ kind, ∀ standard, s.kindOf caller standard = kind := by
  unfold kindOf
  cases s.locked caller with
  | true => exact .inl fun _ => rfl
  | false =>
    cases s.preferenceOf caller with
    | none => exact .inl fun _ => rfl
    | some kind => exact .inr ⟨kind, fun _ => rfl⟩

end Services

theorem Strategy.inEffect_of_ne {kind : StrategyKind} (h : kind ≠ .custom)
    (own : Option (List StoredRule)) (rules rules' : Option (List RoutingRule)) :
    Strategy.inEffect kind own rules = .inEffect kind own rules' := by
  cases kind with
  | custom => exact absurd rfl h
  | _ => rfl

namespace Job

/-- The request that reads both parts of the default strategy at once. -/
def reading (j : Job) (d : DefaultStrategy) : Job :=
  { j with reads := { j.reads with kind := d.kind, rules := d.rules } }

/-- **The default strategy is never torn.** However the default strategy is changed while a request
reads it, there is a default that the gateway had at some moment from the first reading to the
second with which the request goes the same way. If the kind in effect is the default one and the
caller has no rules, the strategy is the one that this default stands for. -/
theorem reads_one_default (j : Job) (g : Gateway) (turns : List DefaultTurn)
    (held : List DefaultStrategy)
    (hread : ((DefaultReader.mk g .notYet).run turns).reading =
      .full j.reads.kind j.reads.rules held) :
    ∃ d ∈ held, j.strategy.outcome = (j.reading d).strategy.outcome ∧
      j.pick.outcome = (j.reading d).pick.outcome ∧
      ((j.services.locked j.caller = true ∨ j.services.preferenceOf j.caller = none) →
        j.services.rulesOf j.caller = none → j.strategy.outcome = .finished d.strategy) := by
  have hcovers : Covers held j.reads.kind j.reads.rules := by
    have h := DefaultReader.untorn_run g turns
    unfold DefaultReader.Untorn at h
    rw [hread] at h
    exact h
  have hsame : ∃ d ∈ held, Strategy.inEffect (j.services.kindOf j.caller j.reads.kind)
      (j.services.rulesOf j.caller) j.reads.rules = .inEffect (j.services.kindOf j.caller d.kind)
      (j.services.rulesOf j.caller) d.rules := by
    by_cases hk : j.reads.kind = .custom
    · obtain ⟨d, hd, hkind, hrules⟩ := hcovers.together hk
      exact ⟨d, hd, by rw [hk, hkind, hrules]⟩
    rcases j.services.kindOf_cases j.caller with hdefault | ⟨kind, hkind⟩
    · obtain ⟨d, hd, hdk⟩ := hcovers.kind_mem
      refine ⟨d, hd, ?_⟩
      rw [hdefault, hdefault, hdk]
      exact Strategy.inEffect_of_ne hk _ _ _
    · obtain ⟨d, hd, hrules⟩ := hcovers.rules_mem
      exact ⟨d, hd, by rw [hkind, hkind, hrules]⟩
  obtain ⟨d, hd, hsame⟩ := hsame
  have hstrategy : j.strategy.outcome = (j.reading d).strategy.outcome := by
    rw [outcome_strategy, outcome_strategy, hsame]
    rfl
  refine ⟨d, hd, hstrategy, ?_, fun hdefault hown => ?_⟩
  · have hselection : j.selection = (j.reading d).selection := by
      unfold selection
      rw [hsame]
      rfl
    rw [outcome_pick, outcome_pick, hselection]
  · have hkind : j.services.kindOf j.caller d.kind = d.kind := by
      unfold Services.kindOf
      rcases hdefault with h | h <;> simp [h]
    rw [outcome_strategy, hsame, hkind, hown]
    rfl

end Job

/-! ## Rules that are set between the readings -/

/-- The rule that is set. -/
def lateRules : List StoredRule := [.forModel "model" "sound" 1]

/-- The defaults that there are in turn. -/
def lateDefaults : List DefaultStrategy := [⟨.custom, none⟩, ⟨.balanced, none⟩, .ofRules lateRules]

/-- A request that reads the kind of the first of them, and the rules of the last. -/
def lateJob : Job :=
  { brokenJob 100 with
    reads :=
      { (brokenJob 100).reads with
        kind := .custom, rules := some (RuleOrder.compiled lateRules) } }

/-- The gateway before. -/
def lateGateway : Gateway where
  settings := lateJob.settings
  services := {}
  standard := ⟨.custom, none⟩
  signals := lateJob.reads.signals

/-- The request behaves as one that reads only afterwards. -/
theorem late_rules_are_not_torn :
    ((DefaultReader.mk lateGateway .notYet).run
        [.readKind, .setKind .balanced, .setRules lateRules, .readRules]).reading =
      .full lateJob.reads.kind lateJob.reads.rules lateDefaults ∧
    ∃ d ∈ lateDefaults, lateJob.strategy.outcome = .finished d.strategy := by
  have hread : ((DefaultReader.mk lateGateway .notYet).run
      [.readKind, .setKind .balanced, .setRules lateRules, .readRules]).reading =
        .full lateJob.reads.kind lateJob.reads.rules lateDefaults := rfl
  obtain ⟨d, hd, -, -, hstrategy⟩ := Job.reads_one_default lateJob lateGateway _ lateDefaults hread
  exact ⟨hread, d, hd, hstrategy (.inr rfl) rfl⟩

end ChatGateway
