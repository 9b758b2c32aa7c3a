import ChatGateway.Proofs.Binary64.Order
import ChatGateway.Proofs.Routing.Fastest
import ChatGateway.Proofs.Routing.Foremost

/-!
# The cheapest of those that serve

The strategy by cost goes through the candidates that serve the wanted model and keeps the cheapest.
As long as every estimate is a number it picks the foremost by cost: of the cheapest the one that is
listed first (`Strategy.select_cheapest`). Whatever the estimates are, that of a candidate that
serves the model is not below that of the pick (`Cheapest.not_lt_select`).
-/

namespace ChatGateway

namespace Cheapest

variable {cost : Provider → Float} {prices : PriceTable} {request : ChatRequest}
  {first q : Provider} {rest candidates : List Provider}

/-- Of two providers the cheaper, the first if neither is. -/
def keepCheaper (cost : Provider → Float) (best next : Provider) : Provider :=
  if cost next < cost best then next else best

theorem foldl_cheaper_map (cost : Provider → Float) (best : Provider) (others : List Provider) :
    ((others.map fun p => (cost p, p)).foldl cheaper (cost best, best)).2 =
      others.foldl (keepCheaper cost) best := by
  have hstep (best next : Provider) :
      cheaper (cost best, best) (cost next, next) =
        (cost (keepCheaper cost best next), keepCheaper cost best next) := by
    unfold cheaper keepCheaper
    split <;> rfl
  rw [List.foldl_map, List.foldl_hom (fun p => (cost p, p)) hstep]

theorem foldl_keepCheaper_mem (cost : Provider → Float) (best : Provider) (others : List Provider) :
    others.foldl (keepCheaper cost) best ∈ best :: others := by
  have h := foldl_cheaper_mem (cost best, best) (others.map fun p => (cost p, p))
  rw [← List.map_cons (f := fun p => (cost p, p))] at h
  obtain ⟨p, hp, heq⟩ := List.mem_map.1 h
  rw [← foldl_cheaper_map, ← heq]
  exact hp

/-- What is kept is the foremost by cost, if the costs are numbers. -/
theorem foldl_keepCheaper_foremost (cost : Provider → Float) (best : Provider)
    {others : List Provider} (hnumbers : ∀ p ∈ others, (cost p).isNaN = false) :
    Foremost (fun _ => True) (fun p q => cost p < cost q) (best :: others)
      (others.foldl (keepCheaper cost) best) := by
  refine foremost_foldl (fun p q => cost p < cost q) ?_ ?_
  · intro a b c hab hbc
    exact Binary64.lt_trans hab hbc
  · intro b hb a c hab hbc
    exact Binary64.not_lt_trans (hnumbers b hb) hab hbc

/-- If nobody serves the model, the first candidate is picked. -/
theorem select_of_unserved (h : serving request.model (first :: rest) = []) :
    select prices request first rest = first := by
  rw [select, h]
  rfl

/-- Else the pick is what is kept of those that serve it. -/
theorem select_of_serving {best : Provider} {others : List Provider}
    (h : serving request.model (first :: rest) = best :: others) :
    select prices request first rest =
      others.foldl (keepCheaper fun p => prices.estimate p.name request) best := by
  rw [select, h]
  exact foldl_cheaper_map (fun p => prices.estimate p.name request) best others

theorem exists_serving_cons {model : String} (hq : q ∈ candidates)
    (hserves : q.serves model = true) :
    ∃ best others, serving model candidates = best :: others :=
  List.exists_cons_of_ne_nil (List.ne_nil_of_mem (List.mem_filter.2 ⟨hq, hserves⟩))

/-- If somebody serves the model, the pick does. -/
theorem select_serves (hq : q ∈ first :: rest) (hserves : q.serves request.model = true) :
    (select prices request first rest).serves request.model = true := by
  obtain ⟨best, others, hserving⟩ := exists_serving_cons hq hserves
  have hkept := foldl_keepCheaper_mem (fun p => prices.estimate p.name request) best others
  rw [← select_of_serving hserving, ← hserving] at hkept
  exact (List.mem_filter.1 hkept).2

/-- The pick is the foremost by cost, if every estimate that is looked at is a number. -/
theorem select_foremost
    (hnumbers : ∀ q ∈ first :: rest, q.serves request.model = true →
      (prices.estimate q.name request).isNaN = false)
    (hq : q ∈ first :: rest) (hserves : q.serves request.model = true) :
    Foremost (fun p => p.serves request.model = true)
      (fun p q => prices.estimate p.name request < prices.estimate q.name request)
      (first :: rest) (select prices request first rest) := by
  obtain ⟨best, others, hserving⟩ := exists_serving_cons hq hserves
  have hothers : ∀ p ∈ others, (prices.estimate p.name request).isNaN = false := by
    intro p hp
    have hmem : p ∈ serving request.model (first :: rest) := by
      rw [hserving]
      exact List.mem_cons_of_mem best hp
    obtain ⟨hmem, hserves⟩ := List.mem_filter.1 hmem
    exact hnumbers p hmem hserves
  have hkept := foldl_keepCheaper_foremost (fun p => prices.estimate p.name request) best hothers
  rw [← hserving] at hkept
  rw [select_of_serving hserving]
  exact hkept.of_filter

/-! ## Estimates that are no numbers -/

theorem foldl_keepCheaper_of_isNaN {best : Provider} (h : (cost best).isNaN = true)
    (others : List Provider) : others.foldl (keepCheaper cost) best = best := by
  induction others with
  | nil => rfl
  | cons next rest ih => rwa [List.foldl_cons, keepCheaper, if_neg (Binary64.not_lt_of_isNaN h)]

/-- What is not above the cheaper of two is not above either, except that nothing is said of what
comes after a cost that is no number. -/
theorem not_lt_of_not_lt_keepCheaper {best next : Provider} {x : Float}
    (h : ¬cost (keepCheaper cost best next) < x) :
    ¬cost best < x ∧ ((cost best).isNaN = false → ¬cost next < x) := by
  by_cases hnext : cost next < cost best
  · rw [keepCheaper, if_pos hnext] at h
    exact ⟨fun hlt => h (Binary64.lt_trans hnext hlt), fun _ => h⟩
  · rw [keepCheaper, if_neg hnext] at h
    exact ⟨h, fun hbest => Binary64.not_lt_trans hbest hnext h⟩

/-- Nothing is below what is kept: if the first cost is no number, that one is kept. -/
theorem not_lt_foldl_keepCheaper (cost : Provider → Float) (best : Provider)
    (others : List Provider) :
    ∀ p ∈ best :: others, ¬cost p < cost (others.foldl (keepCheaper cost) best) := by
  cases hbest : (cost best).isNaN with
  | true =>
    rw [foldl_keepCheaper_of_isNaN hbest]
    exact fun p _ => Binary64.not_lt_of_isNaN hbest
  | false =>
    induction others generalizing best with
    | nil =>
      intro p hp hlt
      obtain rfl := List.mem_singleton.1 hp
      exact Binary64.not_lt_of_lt hlt hlt
    | cons next rest ih =>
      have hkept : (cost (keepCheaper cost best next)).isNaN = false := by
        unfold keepCheaper
        split
        · exact (Binary64.lt_iff.1 ‹_›).1
        · exact hbest
      obtain ⟨hfirst, hrest⟩ := List.forall_mem_cons.1 (ih (keepCheaper cost best next) hkept)
      obtain ⟨hfirst, hnext⟩ := not_lt_of_not_lt_keepCheaper hfirst
      exact List.forall_mem_cons.2 ⟨hfirst, List.forall_mem_cons.2 ⟨hnext hbest, hrest⟩⟩

/-- No candidate that serves the model is estimated below the pick. -/
theorem not_lt_select (hq : q ∈ first :: rest) (hserves : q.serves request.model = true) :
    ¬prices.estimate q.name request <
      prices.estimate (select prices request first rest).name request := by
  have hmem : q ∈ serving request.model (first :: rest) := List.mem_filter.2 ⟨hq, hserves⟩
  obtain ⟨best, others, hserving⟩ := exists_serving_cons hq hserves
  rw [hserving] at hmem
  rw [select_of_serving hserving]
  exact not_lt_foldl_keepCheaper (fun p => prices.estimate p.name request) best others q hmem

end Cheapest

/-- **The cheapest is picked** among the candidates that serve the wanted model, the first of
equals, if their estimates are numbers. If nobody serves the model, the first candidate is picked.
-/
theorem Strategy.select_cheapest (s : Signals) (rotation : Rotation) (request : ChatRequest)
    (first : Provider) (rest : List Provider)
    (hnumbers : ∀ q ∈ first :: rest, q.serves request.model = true →
      (s.prices.estimate q.name request).isNaN = false) :
    ∃ p, byCost.select s rotation request (first :: rest) = .ok (.ok p) ∧
      ((∃ q ∈ first :: rest, q.serves request.model = true) →
        Foremost (fun p => p.serves request.model = true)
          (fun p q => s.prices.estimate p.name request < s.prices.estimate q.name request)
          (first :: rest) p) ∧
      ((∀ q ∈ first :: rest, ¬q.serves request.model = true) → p = first) := by
  refine ⟨Cheapest.select s.prices request first rest, rfl, ?_, fun h => ?_⟩
  · rintro ⟨q, hq, hserves⟩
    exact Cheapest.select_foremost hnumbers hq hserves
  · exact Cheapest.select_of_unserved (List.filter_eq_nil_iff.2 h)

/-- Candidates of which the first has no prices, two are free, and one serves another model. -/
def frugalCandidates : List Provider :=
  [serverOf "mystery" "mistral" 0, serverOf "local" "mistral" 1, serverOf "google" "mistral" 2,
    serverOf "openai" "gpt-4" 3]

/-- A request to be weighed. -/
def frugalRequest : ChatRequest :=
  { model := "mistral", messages := [.user "Is there a cheaper way?"] }

/-- Of two free candidates the first is picked, whether its price is its own or borrowed. -/
theorem first_free_candidate_leads :
    (∀ q ∈ frugalCandidates, q.serves "mistral" = true →
        (PriceTable.builtin.estimate q.name frugalRequest).isNaN = false) ∧
      Strategy.byCost.select ⟨.builtin, .ofCapacity 0⟩ {} frugalRequest frugalCandidates =
        .ok (.ok (serverOf "local" "mistral" 1)) ∧
      Foremost (fun p => p.serves "mistral" = true)
        (fun p q => PriceTable.builtin.estimate p.name frugalRequest <
          PriceTable.builtin.estimate q.name frugalRequest)
        frugalCandidates (serverOf "local" "mistral" 1) := by
  have hnumbers : ∀ q ∈ frugalCandidates, q.serves "mistral" = true →
      (PriceTable.builtin.estimate q.name frugalRequest).isNaN = false := by decide
  obtain ⟨p, hp, hforemost, -⟩ := Strategy.select_cheapest ⟨.builtin, .ofCapacity 0⟩ {}
    frugalRequest (serverOf "mystery" "mistral" 0)
    [serverOf "local" "mistral" 1, serverOf "google" "mistral" 2, serverOf "openai" "gpt-4" 3]
    hnumbers
  have hpick : Strategy.byCost.select ⟨.builtin, .ofCapacity 0⟩ {} frugalRequest frugalCandidates =
      .ok (.ok (serverOf "local" "mistral" 1)) := rfl
  obtain rfl : serverOf "local" "mistral" 1 = p :=
    Except.ok.inj (Except.ok.inj (hpick.symm.trans hp))
  exact ⟨hnumbers, hpick, hforemost ⟨serverOf "local" "mistral" 1, by decide, by decide⟩⟩

end ChatGateway
