import ChatGateway.Proofs.Binary64.Magnitude
import ChatGateway.Proofs.Routing.Cheapest

/-!
# Providers without prices

A provider without prices takes part with an estimate like any other (`PriceTable.unknownCost`). It
loses to every provider that is estimated lower, and wins against those that are estimated higher; a
rule that limits the cost with it matches from that limit on (`Strategy.weighs_unlisted`).

Prices of up to a thousand dollars for a million tokens and texts of up to a thousand million
characters keep every estimate below that (`PriceTable.estimate_lt_of_moderate`), so that a provider
without prices is disqualified. Prices and limits that are large enough have it picked
(`unlisted_is_not_disqualified`).
-/

namespace ChatGateway

namespace Price

/-- The price is finite and not negative. -/
def Sensible (p : Price) : Prop :=
  (p.input.isFinite = true ∧ 0.0 ≤ p.input) ∧ p.output.isFinite = true ∧ 0.0 ≤ p.output

/-- The price is not negative and not above a thousand dollars. -/
def Moderate (p : Price) : Prop :=
  (0.0 ≤ p.input ∧ p.input ≤ 1000.0) ∧ 0.0 ≤ p.output ∧ p.output ≤ 1000.0

instance : DecidablePred Sensible := fun p =>
  inferInstanceAs (Decidable ((p.input.isFinite = true ∧ 0.0 ≤ p.input) ∧
    p.output.isFinite = true ∧ 0.0 ≤ p.output))

instance : DecidablePred Moderate := fun p =>
  inferInstanceAs (Decidable ((0.0 ≤ p.input ∧ p.input ≤ 1000.0) ∧
    0.0 ≤ p.output ∧ p.output ≤ 1000.0))

end Price

namespace PriceTable

variable {t : PriceTable} {good : Price → Prop} {provider model : String} {p : Price}

/-- The provider has prices. -/
def Lists (t : PriceTable) (provider : String) : Prop :=
  ∃ models, InsertionMap.get? t provider = some models

/-- The prices of all models are so. -/
def Every (t : PriceTable) (good : Price → Prop) : Prop :=
  ∀ models ∈ t, ∀ entry ∈ models.2, good entry.2

instance [DecidablePred good] : Decidable (t.Every good) :=
  inferInstanceAs (Decidable (∀ models ∈ t, ∀ entry ∈ models.2, good entry.2))

theorem Every.set (h : t.Every good) (hp : good p) (provider model : String) :
    (t.set provider model p).Every good := by
  intro models hmodels entry hentry
  obtain ⟨-, hput⟩ | hold := InsertionMap.mem_put hmodels
  · rw [hput] at hentry
    obtain ⟨-, hprice⟩ | hentry := InsertionMap.mem_put hentry
    · rw [hprice]
      exact hp
    · cases hmodels : InsertionMap.get? t provider with
      | none =>
        rw [hmodels] at hentry
        cases hentry
      | some models =>
        rw [hmodels] at hentry
        exact h _ (InsertionMap.mem_of_get? hmodels) _ hentry
  · exact h _ hold _ hentry

theorem Every.setAll (h : t.Every good) {entries : List PriceEntry}
    (hentries : ∀ e ∈ entries, good e.price) : (t.setAll entries).Every good := by
  induction entries generalizing t with
  | nil => exact h
  | cons e rest ih =>
    obtain ⟨hfirst, hrest⟩ := List.forall_mem_cons.1 hentries
    exact ih (h.set hfirst e.provider e.model) hrest

/-- The prices that are known from the start are moderate, and stay so if moderate ones are set. -/
theorem moderate_ofEntries {entries : List PriceEntry} (h : ∀ e ∈ entries, e.price.Moderate) :
    (ofEntries entries).Every Price.Moderate :=
  Every.setAll (show builtin.Every Price.Moderate by decide) h

theorem Every.of_price? (h : t.Every good) (hzero : good .zero)
    (hp : t.price? provider model = some p) : good p := by
  unfold price? at hp
  cases hmodels : InsertionMap.get? t provider with
  | none =>
    rw [hmodels] at hp
    cases hp
  | some models =>
    have hentries := h _ (InsertionMap.mem_of_get? hmodels)
    rw [hmodels] at hp
    dsimp only at hp
    split at hp
    · cases hp
      exact hentries _ (InsertionMap.mem_of_get? ‹_›)
    · cases hp
      exact hentries _ List.mem_cons_self
    · cases hp
      exact hzero

/-! ## Estimates -/

theorem estimate_of_not_lists (h : ¬t.Lists provider) (r : ChatRequest) :
    t.estimate provider r = unknownCost := by
  have hnone : InsertionMap.get? t provider = none := by
    rw [Option.eq_none_iff_forall_ne_some]
    exact fun models hsome => h ⟨models, hsome⟩
  rw [estimate, price?, hnone]

theorem exists_price?_of_lists (h : t.Lists provider) (model : String) :
    ∃ p, t.price? provider model = some p := by
  obtain ⟨models, hmodels⟩ := h
  unfold price?
  rw [hmodels]
  dsimp only
  split <;> exact ⟨_, rfl⟩

open Binary64

theorem within_cost {input output : Float} (hp : p.Moderate) (hinput : Within 300000000 input)
    (houtput : Within 200000000 output) : Within 600000 (p.cost input output) := by
  have hthousand :
      (1000.0 : Float).toModel.unpack = .finite .positive (1000 * 2 ^ 43) (-43) (by decide) := rfl
  have hmillion : (1000000.0 : Float).toModel.unpack =
      .finite .positive (1000000 * 2 ^ 33) (-33) (by decide) := rfl
  have hprice {x : Float} (hx : 0.0 ≤ x ∧ x ≤ 1000.0) : Within 1000 x :=
    (Within.of_le hthousand hx.1 hx.2).mono (by norm_num)
  have hinput : Within 301 (input / 1000000.0) :=
    hinput.div hmillion (by norm_num [widen]) (by norm_num)
  have houtput : Within 201 (output / 1000000.0) :=
    houtput.div hmillion (by norm_num [widen]) (by norm_num)
  have hinput : Within 302000 (input / 1000000.0 * p.input) :=
    hinput.mul (hprice hp.1) (by norm_num [widen]) (by norm_num)
  have houtput : Within 202000 (output / 1000000.0 * p.output) :=
    houtput.mul (hprice hp.2) (by norm_num [widen]) (by norm_num)
  exact hinput.add houtput (by norm_num [widen]) (by norm_num)

/-- **Moderate prices keep estimates low.** -/
theorem estimate_lt_of_moderate (ht : t.Every Price.Moderate) (hlists : t.Lists provider)
    {r : ChatRequest} (hr : r.textLength ≤ 1000000000) : t.estimate provider r < unknownCost := by
  obtain ⟨p, hp⟩ := exists_price?_of_lists hlists r.model
  have hprice := ht.of_price? (by decide) hp
  have hlength : Within 1100000000 (Float.ofNat r.textLength) := by
    have hle : (r.textLength : ℚ) ≤ 1000000000 := by exact_mod_cast hr
    exact within_ofNat (by omega) ((widen_mono (widen_mono hle)).trans (by norm_num [widen]))
      (by norm_num)
  have hfour : (4.0 : Float).toModel.unpack = .finite .positive (2 ^ 52) (-50) (by decide) := rfl
  have hhalf : Within (1 / 2) 0.5 := by
    refine ⟨by decide, ?_⟩
    change ((2 ^ 52 : ℕ) : ℚ) * 2 ^ (-53 : ℤ) ≤ 1 / 2
    norm_num
  have hunknown : unknownCost.toModel.unpack =
      .finite .positive (999999 * 2 ^ 33) (-33) (by decide) := rfl
  have hinput : Within 300000000 (Float.ofNat r.textLength / 4.0) :=
    hlength.div hfour (by norm_num [widen]) (by norm_num)
  have houtput : Within 200000000 (Float.ofNat r.textLength / 4.0 * 0.5) :=
    hinput.mul hhalf (by norm_num [widen]) (by norm_num)
  rw [estimate, hp]
  dsimp only
  split
  · decide
  · exact (within_cost hprice hinput houtput).lt hunknown (by norm_num)

end PriceTable

/-- A rule that limits the cost with a provider without prices matches from a certain limit on. -/
theorem StoredRule.holdsFor_of_not_lists {s : Signals} {r : StoredRule}
    (hcondition : r.condition = "cost_threshold") (hlists : ¬s.prices.Lists r.provider)
    (request : ChatRequest) :
    ∃ b, r.compile.holdsFor s request = .ok b ∧
      (b = true ↔ ∃ maxCost, r.param? "max_cost" Json.asFloat? = some maxCost ∧
        PriceTable.unknownCost ≤ maxCost) := by
  have hcompile : r.condition? = (r.param? "max_cost" Json.asFloat?).map .costAtMost := by
    rw [condition?, hcondition, if_neg (by decide), if_pos rfl]
  cases hparam : r.param? "max_cost" Json.asFloat? with
  | none =>
    refine ⟨false, ?_, by simp⟩
    rw [RoutingRule.holdsFor, compile, hcompile, hparam]
    rfl
  | some maxCost =>
    refine ⟨decide (PriceTable.unknownCost ≤ maxCost), ?_, by simp⟩
    rw [← PriceTable.estimate_of_not_lists hlists request, RoutingRule.holdsFor, compile, hcompile,
      hparam]
    rfl

/-- **A provider without prices is weighed** like one whose estimate is `PriceTable.unknownCost`. It
is not picked if a candidate that serves the model and has prices is estimated lower, and one
without prices is picked if all of those are estimated higher. So it is not picked at all as long as
prices are moderate and the text is not too long, and a candidate with prices serves the model. A
rule that limits the cost with it matches if and only if the limit is no lower. -/
theorem Strategy.weighs_unlisted (s : Signals) (rotation : Rotation) (request : ChatRequest)
    (first : Provider) (rest : List Provider) :
    (∃ p, byCost.select s rotation request (first :: rest) = .ok (.ok p) ∧
      ((∃ q ∈ first :: rest, q.serves request.model = true ∧ s.prices.Lists q.name ∧
          s.prices.estimate q.name request < PriceTable.unknownCost) → s.prices.Lists p.name) ∧
      ((∃ q ∈ first :: rest, q.serves request.model = true ∧ ¬s.prices.Lists q.name) →
        (∀ q ∈ first :: rest, q.serves request.model = true → s.prices.Lists q.name →
          PriceTable.unknownCost < s.prices.estimate q.name request) → ¬s.prices.Lists p.name) ∧
      (s.prices.Every Price.Moderate → request.textLength ≤ 1000000000 →
        (∃ q ∈ first :: rest, q.serves request.model = true ∧ s.prices.Lists q.name) →
          s.prices.Lists p.name)) ∧
      ∀ r : StoredRule, r.condition = "cost_threshold" → ¬s.prices.Lists r.provider →
        ∃ b, r.compile.holdsFor s request = .ok b ∧
          (b = true ↔ ∃ maxCost, r.param? "max_cost" Json.asFloat? = some maxCost ∧
            PriceTable.unknownCost ≤ maxCost) := by
  have hlists (h : ∃ q ∈ first :: rest, q.serves request.model = true ∧ s.prices.Lists q.name ∧
      s.prices.estimate q.name request < PriceTable.unknownCost) :
      s.prices.Lists (Cheapest.select s.prices request first rest).name := by
    obtain ⟨q, hq, hserves, -, hlower⟩ := h
    by_contra hunlisted
    rw [← PriceTable.estimate_of_not_lists hunlisted request] at hlower
    exact Cheapest.not_lt_select hq hserves hlower
  refine ⟨⟨Cheapest.select s.prices request first rest, rfl, hlists, ?_, ?_⟩,
    fun r hcondition hlists => StoredRule.holdsFor_of_not_lists hcondition hlists request⟩
  · rintro ⟨q, hq, hserves, hunlisted⟩ hhigher hlisted
    have hpick := hhigher _ (Cheapest.select_mem s.prices request first rest)
      (Cheapest.select_serves hq hserves) hlisted
    rw [← PriceTable.estimate_of_not_lists hunlisted request] at hpick
    exact Cheapest.not_lt_select hq hserves hpick
  · rintro hmoderate hshort ⟨q, hq, hserves, hlisted⟩
    exact hlists ⟨q, hq, hserves, hlisted,
      PriceTable.estimate_lt_of_moderate hmoderate hlisted hshort⟩

/-- The built-in prices, with that of one model raised. -/
def raisedPrices : PriceTable := .ofEntries [⟨"openai", "gpt-4", ⟨600.0, 900.0⟩⟩]

/-- A candidate without prices, and one with prices. -/
def raisedCandidates : List Provider := [serverOf "mystery" "gpt-4" 0, serverOf "openai" "gpt-4" 1]

/-- A request of five characters. -/
def shortRequest : ChatRequest := { model := "gpt-4", messages := [.user "Hello"] }

/-- A candidate with prices is picked although one without is listed first, and a rule with a limit
of ten dollars for the other does not match. -/
theorem listed_candidate_leads :
    raisedPrices.Every Price.Moderate ∧ shortRequest.textLength ≤ 1000000000 ∧
      Strategy.byCost.select ⟨raisedPrices, .ofCapacity 0⟩ {} shortRequest raisedCandidates =
        .ok (.ok (serverOf "openai" "gpt-4" 1)) ∧
      raisedPrices.Lists "openai" ∧ ¬raisedPrices.Lists "mystery" ∧
      (StoredRule.costThreshold 10.0 "mystery" 0).compile.holdsFor
        ⟨raisedPrices, .ofCapacity 0⟩ shortRequest = .ok false := by
  have hmoderate : raisedPrices.Every Price.Moderate :=
    PriceTable.moderate_ofEntries (by decide)
  have hunlisted : ¬raisedPrices.Lists "mystery" := by
    rintro ⟨models, h⟩
    cases h
  have hpick : Strategy.byCost.select ⟨raisedPrices, .ofCapacity 0⟩ {} shortRequest
      raisedCandidates = .ok (.ok (serverOf "openai" "gpt-4" 1)) := by decide +kernel
  obtain ⟨⟨p, hp, -, -, hlists⟩, hrule⟩ := Strategy.weighs_unlisted
    ⟨raisedPrices, .ofCapacity 0⟩ {} shortRequest (serverOf "mystery" "gpt-4" 0)
    [serverOf "openai" "gpt-4" 1]
  obtain rfl : serverOf "openai" "gpt-4" 1 = p :=
    Except.ok.inj (Except.ok.inj (hpick.symm.trans hp))
  refine ⟨hmoderate, by decide, hpick, ?_, hunlisted, ?_⟩
  · exact hlists hmoderate (by decide)
      ⟨serverOf "openai" "gpt-4" 1, by decide, by decide, _, rfl⟩
  · obtain ⟨b, hb, hiff⟩ := hrule (.costThreshold 10.0 "mystery" 0) rfl hunlisted
    cases b with
    | false => exact hb
    | true =>
      obtain ⟨maxCost, hparam, hle⟩ := hiff.1 rfl
      have hlimit : (StoredRule.costThreshold 10.0 "mystery" 0).param? "max_cost" Json.asFloat? =
          some 10.0 := rfl
      obtain rfl : 10.0 = maxCost := Option.some.inj (hlimit.symm.trans hparam)
      exact absurd hle (by decide)

/-- A table with the price of one provider, a million dollars for a token. -/
def dearPrices : PriceTable := [("dear", [("gpt-4", ⟨1000000000000.0, 1000000000000.0⟩)])]

/-- A candidate with prices, and one without. -/
def dearCandidates : List Provider := [serverOf "dear" "gpt-4" 0, serverOf "mystery" "gpt-4" 1]

/-- With prices that are high enough a provider without prices is picked, and with a limit that is
high enough a rule for it matches. -/
theorem unlisted_is_not_disqualified :
    (¬∀ (s : Signals) (rotation : Rotation) (request : ChatRequest) (candidates : List Provider)
        (p : Provider), s.prices.Every Price.Sensible →
        (∃ q ∈ candidates, q.serves request.model = true ∧ s.prices.Lists q.name) →
        Strategy.byCost.select s rotation request candidates = .ok (.ok p) →
          s.prices.Lists p.name) ∧
      ¬∀ (s : Signals) (request : ChatRequest) (provider : String) (maxCost : Float)
        (priority : Int32), s.prices.Every Price.Sensible → maxCost.isFinite = true →
        ¬s.prices.Lists provider →
          (StoredRule.costThreshold maxCost provider priority).compile.holdsFor s request =
            .ok false := by
  have hsensible : dearPrices.Every Price.Sensible := by decide
  have hlists : dearPrices.Lists "dear" := ⟨[("gpt-4", ⟨1000000000000.0, 1000000000000.0⟩)], rfl⟩
  have hunlisted : ¬dearPrices.Lists "mystery" := by
    rintro ⟨models, h⟩
    cases h
  have hpick : Strategy.byCost.select ⟨dearPrices, .ofCapacity 0⟩ {} shortRequest dearCandidates =
      .ok (.ok (serverOf "mystery" "gpt-4" 1)) := by decide +kernel
  refine ⟨fun h => ?_, fun h => ?_⟩
  · exact hunlisted (h ⟨dearPrices, .ofCapacity 0⟩ {} shortRequest dearCandidates
      (serverOf "mystery" "gpt-4" 1) hsensible
      ⟨serverOf "dear" "gpt-4" 0, by decide, by decide, hlists⟩ hpick)
  · have hholds := h ⟨dearPrices, .ofCapacity 0⟩ shortRequest "mystery" 1000000.0 0 hsensible
      (by decide) hunlisted
    cases hholds

end ChatGateway
