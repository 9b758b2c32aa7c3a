import Mathlib
import ChatGateway.Routing.Strategy

/-!
# The amount of text

Of a conversation only the number of its characters of text counts when a provider is picked,
however the text is divided into messages and parts, whoever says it and whatever media stand
between (`Strategy.goes_by_amount`). The number is counted part by part, but it is that of the text
as it is joined (`Content.textLength_eq`, `ChatRequest.textLength_eq`). A rule with a test of its
own may look at anything; such a rule cannot be stored.
-/

namespace ChatGateway

/-! ## Counting characters -/

/-- The characters of all text of a request, one message after the other. -/
def ChatRequest.characters (r : ChatRequest) : List Char :=
  r.messages.flatMap fun m => m.content.text.toList

/-- The lengths of the parts add up to that of the text. -/
theorem Content.textLength_eq (c : Content) : c.textLength = c.text.length := by
  cases c with
  | plain text => rfl
  | parts ps =>
    change (ps.map ContentPart.textLength).foldr (· + ·) 0 =
      (String.join (ps.filterMap ContentPart.text?)).length
    induction ps with
    | nil => rfl
    | cons p ps ih =>
      rw [List.map_cons, List.foldr_cons, ih]
      cases p with
      | text t =>
        change t.length + _ = (String.join (t :: ps.filterMap ContentPart.text?)).length
        rw [String.join_cons, String.length_append]
      | image source => exact Nat.zero_add _
      | audio source => exact Nat.zero_add _

theorem ChatRequest.textLength_eq (r : ChatRequest) : r.textLength = r.characters.length := by
  unfold textLength characters
  induction r.messages with
  | nil => rfl
  | cons m messages ih =>
    rw [List.map_cons, List.foldr_cons, ih, List.flatMap_cons, List.length_append,
      Content.textLength_eq]
    rfl

/-! ## Requests with as much text -/

/-- Two requests for one model, with the same number of characters of text. -/
structure ChatRequest.SameAmount (r r' : ChatRequest) : Prop where
  model_eq : r.model = r'.model
  characters_eq : r.characters.length = r'.characters.length

/-- The rule has no test of its own. -/
def RoutingRule.Stated (rule : RoutingRule) : Prop := ∀ test, rule.condition ≠ .predicate test

/-- No rule of the strategy has a test of its own. -/
def Strategy.Stated : Strategy → Prop
  | .custom rules => ∀ rule ∈ rules, rule.Stated
  | _ => True

/-- What can be stored has no test of its own. -/
theorem StoredRule.stated_compile (rule : StoredRule) : rule.compile.Stated := by
  intro test
  change rule.condition?.getD .never ≠ .predicate test
  unfold condition?
  split
  · cases rule.param? "model" Json.asString? <;> simp
  · split
    · cases rule.param? "max_cost" Json.asFloat? <;> simp
    · split
      · cases rule.param? "max_latency_ms" Json.asFloat? <;> simp
      · simp

namespace ChatRequest.SameAmount

variable {r r' : ChatRequest}

theorem estimate_eq (h : r.SameAmount r') (prices : PriceTable) (provider : String) :
    prices.estimate provider r = prices.estimate provider r' := by
  unfold PriceTable.estimate
  rw [h.model_eq, textLength_eq, textLength_eq, h.characters_eq]

theorem cheapest_eq (h : r.SameAmount r') (prices : PriceTable) (first : Provider)
    (rest : List Provider) :
    Cheapest.select prices r first rest = Cheapest.select prices r' first rest := by
  unfold Cheapest.select
  simp only [h.model_eq, h.estimate_eq]

theorem holdsFor_eq (h : r.SameAmount r') {rule : RoutingRule} (hrule : rule.Stated)
    (s : Signals) : rule.holdsFor s r = rule.holdsFor s r' := by
  unfold RoutingRule.holdsFor
  cases hc : rule.condition with
  | modelEquals model => rw [h.model_eq]
  | costAtMost maxCost => rw [h.estimate_eq]
  | latencyAtMost maxLatencyMs => rfl
  | predicate test => exact absurd hc (hrule test)
  | never => rfl

theorem named?_eq (h : r.SameAmount r') {rules : List RoutingRule}
    (hrules : ∀ rule ∈ rules, rule.Stated) (s : Signals) (candidates : List Provider) :
    RuleOrder.named? s r candidates rules = RuleOrder.named? s r' candidates rules := by
  induction rules with
  | nil => rfl
  | cons rule rules ih =>
    obtain ⟨hrule, hrules⟩ := List.forall_mem_cons.1 hrules
    unfold RuleOrder.named?
    rw [h.holdsFor_eq hrule, ih hrules]

theorem pick_eq (h : r.SameAmount r') {strategy : Strategy} (hs : strategy.Stated) (s : Signals)
    (rotation : Rotation) (first : Provider) (rest : List Provider) :
    strategy.pick s rotation r first rest = strategy.pick s rotation r' first rest := by
  have hmodel : ModelMatch.select r first rest = ModelMatch.select r' first rest := by
    unfold ModelMatch.select
    rw [h.model_eq]
  cases strategy with
  | byModel => exact congrArg Except.ok hmodel
  | byCost => exact congrArg Except.ok (h.cheapest_eq s.prices first rest)
  | byLatency =>
    change Fastest.select s.latency r first rest = Fastest.select s.latency r' first rest
    unfold Fastest.select
    rw [h.model_eq]
  | balanced =>
    change Except.ok (rotation.select r first rest) = .ok (rotation.select r' first rest)
    unfold Rotation.select
    rw [h.model_eq]
  | custom rules =>
    change RuleOrder.select s rules r first rest = RuleOrder.select s rules r' first rest
    unfold RuleOrder.select
    rw [h.named?_eq hs, hmodel]

theorem select_eq (h : r.SameAmount r') {strategy : Strategy} (hs : strategy.Stated)
    (s : Signals) (rotation : Rotation) (candidates : List Provider) :
    strategy.select s rotation r candidates = strategy.select s rotation r' candidates := by
  cases candidates with
  | nil => rfl
  | cons first rest => exact congrArg (Except.map Except.ok) (h.pick_eq hs s rotation first rest)

end ChatRequest.SameAmount

/-- **Only the amount of text counts.** The number that is counted is that of the characters of the
text, and two requests for one model with the same number of characters are estimated alike with
every provider and every table of prices, are matched by the same rules, and are given the same
provider by cost and by every other strategy, unless a rule has a test of its own. -/
theorem Strategy.goes_by_amount {r r' : ChatRequest} (h : r.SameAmount r') :
    (∀ content : Content, content.textLength = content.text.length) ∧
    (∀ (prices : PriceTable) (provider : String),
      prices.estimate provider r = prices.estimate provider r') ∧
    (∀ (s : Signals) (rotation : Rotation) (candidates : List Provider),
      Strategy.byCost.select s rotation r candidates =
        Strategy.byCost.select s rotation r' candidates) ∧
    (∀ (s : Signals) (rule : RoutingRule), rule.Stated → rule.holdsFor s r = rule.holdsFor s r') ∧
    (∀ (s : Signals) (rule : StoredRule),
      rule.compile.holdsFor s r = rule.compile.holdsFor s r') ∧
    ∀ (s : Signals) (rotation : Rotation) (strategy : Strategy) (candidates : List Provider),
      strategy.Stated → strategy.select s rotation r candidates =
        strategy.select s rotation r' candidates :=
  ⟨Content.textLength_eq, h.estimate_eq, h.select_eq trivial,
    fun s _ hrule => h.holdsFor_eq hrule s, fun s rule => h.holdsFor_eq rule.stated_compile s,
    fun s rotation _ candidates hs => h.select_eq hs s rotation candidates⟩

/-! ## One question in two forms -/

/-- A question in one message. -/
def shortTalk : ChatRequest := { model := "gpt-4o", messages := [.user "héllo, wörld"] }

/-- As much text in two messages, in parts around a picture, with limits of its own. -/
def longTalk : ChatRequest where
  model := "gpt-4o"
  messages := [⟨.system, .plain "héllo"⟩,
    ⟨.assistant, .parts [.text ", w", .image ⟨"data:image/png;base64,AAAA"⟩, .text "örld"]⟩]
  temperature := some 0.5
  maxTokens := some 7

/-- They are estimated alike, and a rule for cheap requests sees no difference. -/
theorem talks_go_by_amount :
    shortTalk.SameAmount longTalk ∧
      (RoutingRule.mk "openai" 1 (.costAtMost 0.0001)).Stated ∧
      PriceTable.builtin.estimate "openai" shortTalk =
        PriceTable.builtin.estimate "openai" longTalk ∧
      (RoutingRule.mk "openai" 1 (.costAtMost 0.0001)).holdsFor
          ⟨PriceTable.builtin, .ofCapacity 1⟩ shortTalk =
        (RoutingRule.mk "openai" 1 (.costAtMost 0.0001)).holdsFor
          ⟨PriceTable.builtin, .ofCapacity 1⟩ longTalk := by
  have hsame : shortTalk.SameAmount longTalk := ⟨rfl, by decide⟩
  have hstated : (RoutingRule.mk "openai" 1 (.costAtMost 0.0001)).Stated := nofun
  obtain ⟨-, hestimate, -, hrule, -, -⟩ := Strategy.goes_by_amount hsame
  exact ⟨hsame, hstated, hestimate _ _, hrule _ _ hstated⟩

end ChatGateway
