import ChatGateway.Proofs.Binary64.Nearest
import ChatGateway.Routing.Rule

/-!
# What stored rules ask

A stored rule states a condition only if its parameter is there and has the right type
(`StoredRule.condition?_eq_some_iff`). So it asks one of three things (`StoredRule.Asks`): the model
of the request, an expected cost within a limit, or a mean latency within a limit. It matches if and
only if what it asks is so on the signals of the moment, and a rule that asks none of this matches
nothing (`StoredRule.holdsFor_iff_asks`). Limits are doubles, and so are the costs and latencies
that are held against them.
-/

namespace ChatGateway

variable {j : Json} {key text : String} {x limit : Float} {s : Signals} {request : ChatRequest}

/-- The value is a number, and this is the double for it. -/
inductive Json.Reads : Json → Float → Prop
  | int (n : ℤ) : Reads (.int n) (Binary64.ofWhole n)
  | real (x : Float) : Reads (.real x) x

theorem Json.asFloat?_eq_some_iff : j.asFloat? = some x ↔ j.Reads x := by
  constructor
  · intro h
    cases j with
    | int n =>
      cases h
      exact .int n
    | real x =>
      cases h
      exact .real x
    | _ => cases h
  · rintro (n | x) <;> rfl

theorem Json.asString?_eq_some_iff : j.asString? = some text ↔ j = .str text := by
  cases j <;> simp [asString?]

namespace StoredRule

variable {r : StoredRule}

/-- The rule gives the value to the parameter. -/
def Gives (r : StoredRule) (key : String) (j : Json) : Prop :=
  (Json.obj r.params).get? key = some j

/-- The rule gives a number to the parameter, and this is the double for it. -/
def Limits (r : StoredRule) (key : String) (limit : Float) : Prop :=
  ∃ j, r.Gives key j ∧ j.Reads limit

/-- What the rule asks of the request is so on the signals. -/
inductive Asks (r : StoredRule) (s : Signals) (request : ChatRequest) : Prop
  | model (hcondition : r.condition = "model") (hmodel : r.Gives "model" (.str request.model))
  | cost {limit : Float} (hcondition : r.condition = "cost_threshold")
    (hlimit : r.Limits "max_cost" limit) (hle : s.prices.estimate r.provider request ≤ limit)
  | latency {limit : Float} {mean : Duration} (hcondition : r.condition = "latency_threshold")
    (hlimit : r.Limits "max_latency_ms" limit) (hmean : s.latency.average r.provider = .ok mean)
    (hle : Float.ofNat mean.wholeMillis ≤ Binary64.truncate limit)

/-! ## Conditions -/

theorem param?_eq_some_iff {α : Type} {read : Json → Option α} {a : α} :
    r.param? key read = some a ↔ ∃ j, r.Gives key j ∧ read j = some a :=
  Option.bind_eq_some_iff

theorem param?_asFloat?_eq_some_iff : r.param? key Json.asFloat? = some x ↔ r.Limits key x := by
  simp only [param?_eq_some_iff, Json.asFloat?_eq_some_iff, Limits]

theorem param?_asString?_eq_some_iff :
    r.param? key Json.asString? = some text ↔ r.Gives key (.str text) := by
  simp [param?_eq_some_iff, Json.asString?_eq_some_iff]

/-- The condition that a rule with usable parameters states. -/
inductive States (r : StoredRule) : Condition → Prop
  | model {text : String} (hcondition : r.condition = "model")
    (hmodel : r.Gives "model" (.str text)) : States r (.modelEquals text)
  | cost {limit : Float} (hcondition : r.condition = "cost_threshold")
    (hlimit : r.Limits "max_cost" limit) : States r (.costAtMost limit)
  | latency {limit : Float} (hcondition : r.condition = "latency_threshold")
    (hlimit : r.Limits "max_latency_ms" limit) :
    States r (.latencyAtMost (Binary64.truncate limit))

/-- **A condition is stated with its parameter or not at all.** -/
theorem condition?_eq_some_iff {c : Condition} : r.condition? = some c ↔ r.States c := by
  constructor
  · intro h
    unfold condition? at h
    split at h
    · rename_i hcondition
      obtain ⟨text, hparam, rfl⟩ := Option.map_eq_some_iff.1 h
      exact .model hcondition (param?_asString?_eq_some_iff.1 hparam)
    · split at h
      · rename_i hcondition
        obtain ⟨limit, hparam, rfl⟩ := Option.map_eq_some_iff.1 h
        exact .cost hcondition (param?_asFloat?_eq_some_iff.1 hparam)
      · split at h
        · rename_i hcondition
          obtain ⟨limit, hparam, rfl⟩ := Option.map_eq_some_iff.1 h
          exact .latency hcondition (param?_asFloat?_eq_some_iff.1 hparam)
        · cases h
  · rintro (⟨hcondition, hmodel⟩ | ⟨hcondition, hlimit⟩ | ⟨hcondition, hlimit⟩)
    · rw [condition?, hcondition, if_pos rfl, param?_asString?_eq_some_iff.2 hmodel]
      rfl
    · rw [condition?, hcondition, if_neg (by decide), if_pos rfl,
        param?_asFloat?_eq_some_iff.2 hlimit]
      rfl
    · rw [condition?, hcondition, if_neg (by decide), if_neg (by decide), if_pos rfl,
        param?_asFloat?_eq_some_iff.2 hlimit]
      rfl

/-! ## Matching -/

theorem States.holdsFor_compile {c : Condition} (h : r.States c) :
    r.compile.holdsFor s request = RoutingRule.holdsFor s request ⟨r.provider, r.priority, c⟩ := by
  rw [compile, condition?_eq_some_iff.2 h]
  rfl

/-- A rule that states nothing matches nothing. -/
theorem holdsFor_of_forall_not_states (h : ∀ c, ¬r.States c) :
    r.compile.holdsFor s request = .ok false := by
  have hnone : r.condition? = none :=
    Option.eq_none_iff_forall_ne_some.2 fun c hc => h c (condition?_eq_some_iff.1 hc)
  rw [compile, hnone]
  rfl

/-- Whatever else comes of a rule comes of the condition that it states. -/
theorem holdsFor_eq_iff {outcome : Except Fault Bool} (houtcome : outcome ≠ .ok false) :
    r.compile.holdsFor s request = outcome ↔
      ∃ c, r.States c ∧
        RoutingRule.holdsFor s request ⟨r.provider, r.priority, c⟩ = outcome := by
  constructor
  · intro h
    by_contra hnone
    refine houtcome (h.symm.trans (holdsFor_of_forall_not_states fun c hc => hnone ⟨c, hc, ?_⟩))
    rw [← hc.holdsFor_compile, h]
  · rintro ⟨c, hc, h⟩
    rw [hc.holdsFor_compile, h]

theorem holdsFor_eq_ok_true_iff :
    r.compile.holdsFor s request = .ok true ↔ r.Asks s request := by
  rw [holdsFor_eq_iff (by simp)]
  constructor
  · rintro ⟨_, ⟨hcondition, hmodel⟩ | ⟨hcondition, hlimit⟩ | ⟨hcondition, hlimit⟩, h⟩
    · simp only [RoutingRule.holdsFor, Except.ok.injEq, beq_iff_eq] at h
      exact .model hcondition (h ▸ hmodel)
    · simp only [RoutingRule.holdsFor, Except.ok.injEq, decide_eq_true_eq] at h
      exact .cost hcondition hlimit h
    · simp only [RoutingRule.holdsFor] at h
      cases hmean : s.latency.average r.provider with
      | error fault =>
        rw [hmean] at h
        cases h
      | ok mean =>
        rw [hmean] at h
        exact .latency hcondition hlimit hmean (of_decide_eq_true (Except.ok.inj h))
  · rintro (⟨hcondition, hmodel⟩ | ⟨hcondition, hlimit, hle⟩ | ⟨hcondition, hlimit, hmean, hle⟩)
    · exact ⟨_, .model hcondition hmodel, by simp [RoutingRule.holdsFor]⟩
    · exact ⟨_, .cost hcondition hlimit, by simp [RoutingRule.holdsFor, hle]⟩
    · exact ⟨_, .latency hcondition hlimit, by simp [RoutingRule.holdsFor, hmean, Except.map, hle]⟩

/-- A rule fails only where there is no mean to be held against its limit. -/
theorem holdsFor_eq_error_iff {fault : Fault} :
    r.compile.holdsFor s request = .error fault ↔
      r.condition = "latency_threshold" ∧ (∃ limit, r.Limits "max_latency_ms" limit) ∧
        s.latency.average r.provider = .error fault := by
  rw [holdsFor_eq_iff (by simp)]
  constructor
  · rintro ⟨_, ⟨-, -⟩ | ⟨-, -⟩ | ⟨hcondition, hlimit⟩, h⟩
    · cases h
    · cases h
    · simp only [RoutingRule.holdsFor] at h
      cases hmean : s.latency.average r.provider with
      | error fault' =>
        rw [hmean] at h
        exact ⟨hcondition, ⟨_, hlimit⟩, congrArg _ (Except.error.inj h)⟩
      | ok mean =>
        rw [hmean] at h
        cases h
  · rintro ⟨hcondition, ⟨limit, hlimit⟩, hmean⟩
    exact ⟨_, .latency hcondition hlimit, by simp [RoutingRule.holdsFor, hmean, Except.map]⟩

/-- A rule that does not ask for a mean latency is decided. -/
theorem holdsFor_eq_ok_false (hcondition : r.condition ≠ "latency_threshold")
    (h : ¬r.Asks s request) : r.compile.holdsFor s request = .ok false := by
  cases houtcome : r.compile.holdsFor s request with
  | error fault => exact absurd (holdsFor_eq_error_iff.1 houtcome).1 hcondition
  | ok b =>
    cases b with
    | false => rfl
    | true => exact absurd (holdsFor_eq_ok_true_iff.1 houtcome) h

/-- A rule whose estimate is not a number asks too much. -/
theorem not_asks_of_isNaN (hcondition : r.condition = "cost_threshold")
    (hnan : (s.prices.estimate r.provider request).isNaN = true) : ¬r.Asks s request := by
  rintro (⟨hother, -⟩ | ⟨-, -, hle⟩ | ⟨hother, -, -, -⟩)
  · exact absurd (hcondition.symm.trans hother) (by decide)
  · rw [(Binary64.le_iff.1 hle).1] at hnan
    cases hnan
  · exact absurd (hcondition.symm.trans hother) (by decide)

/-- A limit that is not finite is not kept. -/
theorem not_asks_costThreshold (hlimit : limit.isFinite = false) (provider : String)
    (priority : Int32) : ¬(costThreshold limit provider priority).Asks s request := by
  have hnull : (costThreshold limit provider priority).Gives "max_cost" .null := by
    simp [Gives, costThreshold, Json.get?, Json.valuesOf, Json.ofFloat, hlimit]
  rintro (⟨hother, -⟩ | ⟨-, ⟨j, hgives, hreads⟩, -⟩ | ⟨hother, -, -, -⟩)
  · exact absurd hother (by simp [costThreshold])
  · obtain rfl : Json.null = j := Option.some.inj (hnull.symm.trans hgives)
    cases hreads
  · exact absurd hother (by simp [costThreshold])

/-- **A rule matches if and only if what it asks is so**, on the prices and latencies of the moment,
and only where the durations of a provider have no mean there is no answer. A rule that asks nothing
matches nothing: one with a limit that is not finite, or with an estimate that is not a number.
Whole numbers are held against each other as they are up to `2 ^ 53`, and rounded to doubles beyond
it. -/
theorem holdsFor_iff_asks (r : StoredRule) (s : Signals) (request : ChatRequest) :
    (r.compile.holdsFor s request = .ok true ↔ r.Asks s request) ∧
      (∀ fault, r.compile.holdsFor s request = .error fault ↔
        r.condition = "latency_threshold" ∧ (∃ limit, r.Limits "max_latency_ms" limit) ∧
          s.latency.average r.provider = .error fault) ∧
      (∀ limit provider priority, limit.isFinite = false →
        (costThreshold limit provider priority).compile.holdsFor s request = .ok false) ∧
      (r.condition = "cost_threshold" → (s.prices.estimate r.provider request).isNaN = true →
        r.compile.holdsFor s request = .ok false) ∧
      (∀ n : ℤ, n.natAbs ≤ 2 ^ 53 → Binary64.value (Binary64.ofWhole n) = n) ∧
      ∀ n : ℕ, n ≤ 2 ^ 53 → Binary64.value (Float.ofNat n) = n := by
  refine ⟨holdsFor_eq_ok_true_iff, fun fault => holdsFor_eq_error_iff, ?_, ?_, ?_, ?_⟩
  · intro limit provider priority hlimit
    exact holdsFor_eq_ok_false (by simp [costThreshold])
      (not_asks_costThreshold hlimit provider priority)
  · intro hcondition hnan
    exact holdsFor_eq_ok_false (by simp [hcondition]) (not_asks_of_isNaN hcondition hnan)
  · intro n hn
    rw [Binary64.value_ofWhole (hn.trans_lt (by decide)), Binary64.nearest_of_le hn,
      Int.sign_mul_natAbs]
  · intro n hn
    rw [Binary64.value_ofNat (hn.trans_lt (by decide)), Binary64.nearest_of_le hn]

/-- A price that is not a number, and no latencies. -/
def oddSignals : Signals :=
  ⟨.ofEntries [⟨"odd", "gpt-4", ⟨Float.ofBits 0x7FF8000000000000, 1.0⟩⟩], .ofCapacity 0⟩

/-- A request of five characters. -/
def briefRequest : ChatRequest := { model := "gpt-4", messages := [.user "Hello"] }

/-- Rules that ask for the model and for a latency of a second, one with an infinite limit, and one
whose estimate is not a number. -/
theorem odd_limits_are_not_kept :
    (forModel "gpt-4" "openai" 1).compile.holdsFor oddSignals briefRequest = .ok true ∧
      (latencyThreshold 1000 "openai" 1).compile.holdsFor oddSignals briefRequest = .ok true ∧
      (costThreshold (Float.ofBits 0x7FF0000000000000) "openai" 1).compile.holdsFor oddSignals
        briefRequest = .ok false ∧
      (costThreshold 10.0 "odd" 1).compile.holdsFor oddSignals briefRequest = .ok false ∧
      Binary64.value (Binary64.ofWhole (-1000)) = (-1000 : ℤ) ∧
      Binary64.value (Float.ofNat 1000) = (1000 : ℕ) := by
  have hmodel := holdsFor_iff_asks (forModel "gpt-4" "openai" 1) oddSignals briefRequest
  have hlatency := holdsFor_iff_asks (latencyThreshold 1000 "openai" 1) oddSignals briefRequest
  have hcost := holdsFor_iff_asks (costThreshold 10.0 "odd" 1) oddSignals briefRequest
  have hmean : oddSignals.latency.average "openai" = .ok .oneSecond := rfl
  refine ⟨hmodel.1.2 (.model rfl rfl), hlatency.1.2 (.latency rfl ⟨_, rfl, .int 1000⟩ hmean ?_),
    hcost.2.2.1 _ _ _ rfl, hcost.2.2.2.1 rfl ?_, hcost.2.2.2.2.1 (-1000) (by decide),
    hcost.2.2.2.2.2 1000 (by decide)⟩
  · decide +kernel
  · decide +kernel

/-- A provider that has taken a millisecond more than `2 ^ 53` of them. -/
def farSignals : Signals :=
  ⟨.builtin, ⟨1, [("far", [⟨9007199254740, 993000000, by decide, by decide⟩])]⟩⟩

/-- The limit is a millisecond less than the mean latency, and as doubles they are the same. -/
theorem holdsFor_far :
    (latencyThreshold 9007199254740992 "far" 1).compile.holdsFor farSignals briefRequest =
      .ok true := by
  refine holdsFor_eq_ok_true_iff.2 (.latency rfl ⟨_, rfl, .int 9007199254740992⟩ rfl ?_)
  decide +kernel

/-- A provider whose durations are too long together. -/
def endlessSignals : Signals :=
  ⟨.builtin, ⟨2, [("endless",
    [.ofSecs 0xC000000000000000 (by decide), .ofSecs 0xC000000000000000 (by decide)])]⟩⟩

/-- So the rule matches although the whole milliseconds of the mean are above its limit. And there
may be no mean to be held against a limit. -/
theorem limit_is_passed_by_rounding :
    (¬∀ (r : StoredRule) (s : Signals) (request : ChatRequest) (n : ℤ) (mean : Duration),
      r.condition = "latency_threshold" → r.Gives "max_latency_ms" (.int n) →
        s.latency.average r.provider = .ok mean →
          (r.compile.holdsFor s request = .ok true ↔ (mean.wholeMillis : ℤ) ≤ n)) ∧
      (latencyThreshold 1 "endless" 1).compile.holdsFor endlessSignals briefRequest =
        .error .durationOverflow := by
  constructor
  · intro h
    have hle := (h (latencyThreshold 9007199254740992 "far" 1) farSignals briefRequest
      9007199254740992 _ rfl rfl rfl).1 holdsFor_far
    exact absurd hle (by decide)
  · exact holdsFor_eq_error_iff.2 ⟨rfl, ⟨_, _, rfl, .int 1⟩, rfl⟩

end StoredRule

end ChatGateway
