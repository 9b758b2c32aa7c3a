import ChatGateway.Gateway.Plan
import ChatGateway.Proofs.Course.Undisturbed

/-!
# Whom a strategy picks

Whatever its rules, the prices, the latencies and the turn, a strategy picks one of the candidates
(`Strategy.mem_of_select`), so the pick for a request is a registered provider (`Job.mem_of_pick`).
-/

namespace ChatGateway

open Course

variable {request : ChatRequest} {first p : Provider} {rest candidates : List Provider}

theorem mem_of_mem_serving {model : String} (h : p ∈ serving model candidates) : p ∈ candidates :=
  (List.mem_filter.1 h).1

theorem ModelMatch.select_mem (request : ChatRequest) (first : Provider) (rest : List Provider) :
    ModelMatch.select request first rest ∈ first :: rest := by
  simp only [select]
  split
  · exact List.mem_of_find?_eq_some (by assumption)
  · split
    · exact List.mem_of_find?_eq_some (by assumption)
    · split
      · cases hlocal : (first :: rest).find? fun p => p.name = localProvider with
        | none => exact List.mem_cons_self
        | some p => exact List.mem_of_find?_eq_some hlocal
      · exact List.mem_cons_self

namespace Cheapest

theorem foldl_cheaper_mem (best : Float × Provider) (rest : List (Float × Provider)) :
    rest.foldl cheaper best ∈ best :: rest := by
  induction rest generalizing best with
  | nil => exact List.mem_singleton_self best
  | cons next rest ih =>
    have hone : cheaper best next = best ∨ cheaper best next = next := by
      unfold cheaper
      split
      · exact .inr rfl
      · exact .inl rfl
    rw [List.foldl_cons]
    rcases List.mem_cons.1 (ih (cheaper best next)) with h | h
    · rw [h]
      rcases hone with hone | hone <;> simp [hone]
    · exact List.mem_cons_of_mem _ (List.mem_cons_of_mem _ h)

theorem select_mem (prices : PriceTable) (request : ChatRequest) (first : Provider)
    (rest : List Provider) : select prices request first rest ∈ first :: rest := by
  unfold select
  generalize hpriced : (serving request.model (first :: rest)).map _ = priced
  cases priced with
  | nil => exact List.mem_cons_self
  | cons best others =>
    have h := foldl_cheaper_mem best others
    rw [← hpriced] at h
    obtain ⟨p, hp, heq⟩ := List.mem_map.1 h
    change (others.foldl cheaper best).2 ∈ first :: rest
    rw [← heq]
    exact mem_of_mem_serving hp

end Cheapest

namespace Fastest

theorem mem_of_fastest? {latency : LatencyHistory} {lowest : Duration} {found : Option Provider}
    {ps : List Provider} (h : fastest? latency lowest found ps = .ok (some p)) :
    found = some p ∨ p ∈ ps := by
  induction ps generalizing lowest found with
  | nil => exact .inl (Except.ok.inj h)
  | cons q rest ih =>
    unfold fastest? at h
    split at h
    · cases h
    · split at h
      · rcases ih h with hq | hp
        · exact .inr (by simp [Option.some.inj hq])
        · exact .inr (List.mem_cons_of_mem q hp)
      · exact (ih h).imp_right (List.mem_cons_of_mem q)

theorem mem_of_select {latency : LatencyHistory}
    (h : select latency request first rest = .ok p) : p ∈ first :: rest := by
  unfold select at h
  cases hf : fastest? latency ceiling none (serving request.model (first :: rest)) with
  | error cause =>
    rw [hf] at h
    cases h
  | ok found =>
    rw [hf] at h
    obtain rfl : found.getD first = p := Except.ok.inj h
    cases found with
    | none => exact List.mem_cons_self
    | some q => exact mem_of_mem_serving ((mem_of_fastest? hf).resolve_left (by simp))

end Fastest

theorem Rotation.mem_of_mem_pool {model : String} (h : p ∈ pool model candidates) :
    p ∈ candidates := by
  unfold pool at h
  split at h
  · exact h
  · rename_i q others hserving
    exact mem_of_mem_serving (hserving ▸ h)

theorem Rotation.mem_of_pick? {r : Rotation} {model : String}
    (h : r.pick? model candidates = some p) : p ∈ candidates :=
  mem_of_mem_pool (List.mem_of_getElem? h)

theorem Rotation.select_mem (r : Rotation) (request : ChatRequest) (first : Provider)
    (rest : List Provider) : r.select request first rest ∈ first :: rest := by
  unfold select
  cases hp : r.pick? request.model (first :: rest) with
  | none => exact List.mem_cons_self
  | some p => exact mem_of_pick? hp

namespace RuleOrder

variable {s : Signals} {rules : List RoutingRule}

theorem mem_of_named? (h : named? s request candidates rules = .ok (some p)) : p ∈ candidates := by
  induction rules with
  | nil => cases h
  | cons r rest ih =>
    unfold named? at h
    split at h
    · cases h
    · exact ih h
    · split at h
      · rename_i q hq
        cases h
        exact List.mem_of_find?_eq_some hq
      · exact ih h

theorem mem_of_select (h : select s rules request first rest = .ok p) : p ∈ first :: rest := by
  unfold select at h
  cases hn : named? s request (first :: rest) rules with
  | error cause =>
    rw [hn] at h
    cases h
  | ok found =>
    rw [hn] at h
    obtain rfl : found.getD _ = p := Except.ok.inj h
    cases found with
    | none => exact ModelMatch.select_mem request first rest
    | some q => exact mem_of_named? hn

end RuleOrder

/-- **A strategy picks one of the candidates.** -/
theorem Strategy.mem_of_select {strategy : Strategy} {s : Signals} {rotation : Rotation}
    (h : strategy.select s rotation request candidates = .ok (.ok p)) : p ∈ candidates := by
  cases candidates with
  | nil => cases h
  | cons first rest =>
    have hpick : strategy.pick s rotation request first rest = .ok p := by
      change (strategy.pick s rotation request first rest).map Except.ok = .ok (.ok p) at h
      cases hp : strategy.pick s rotation request first rest <;> rw [hp] at h <;> cases h
      rfl
    cases strategy with
    | byModel => exact Except.ok.inj hpick ▸ ModelMatch.select_mem request first rest
    | byCost => exact Except.ok.inj hpick ▸ Cheapest.select_mem s.prices request first rest
    | byLatency => exact Fastest.mem_of_select hpick
    | balanced => exact Except.ok.inj hpick ▸ rotation.select_mem request first rest
    | custom rules => exact RuleOrder.mem_of_select hpick

/-- The pick for a request is one of the providers that are registered. -/
theorem Job.mem_of_pick {j : Job} (h : j.pick.outcome = .finished (.ok p)) :
    p ∈ j.reads.selecting := by
  obtain ⟨strategy, -, h⟩ := outcome_bind_eq_finished h
  obtain ⟨selection, hs, h⟩ := outcome_bind_eq_finished h
  have hselect : strategy.select j.reads.signals j.reads.rotation j.request j.reads.selecting =
      .ok selection := by
    revert hs
    cases strategy.select j.reads.signals j.reads.rotation j.request j.reads.selecting with
    | error cause => exact fun hs => nomatch hs
    | ok s => exact fun hs => congrArg Except.ok (Ending.finished.inj hs)
  have hsame : selection = .ok p := by
    split at h <;> cases h <;> rfl
  exact Strategy.mem_of_select (hsame ▸ hselect)

end ChatGateway
