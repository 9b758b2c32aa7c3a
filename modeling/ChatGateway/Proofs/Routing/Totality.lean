import ChatGateway.Proofs.Latency.Sums
import ChatGateway.Proofs.Routing.Selection
import ChatGateway.Proofs.Routing.Turns

/-!
# Every selection comes to a pick

Only a mean latency can keep a strategy from a pick, and there is one wherever the durations of
every window add up (`LatencyHistory.Fits`). Then every strategy picks one of the candidates
whatever its rules, the prices, the request and the turn, and it says that there is no provider if
and only if there is no candidate (`Desk.consult_total`).
-/

namespace ChatGateway

variable {d : Desk} {s : Signals} {request : ChatRequest} {first : Provider}
  {rest candidates : List Provider}

/-! ## Each strategy -/

/-- The fastest of the candidates can be found. -/
theorem Fastest.fastest?_of_fits {latency : LatencyHistory} (hfits : latency.Fits)
    (lowest : Duration) (found : Option Provider) (ps : List Provider) :
    ∃ fastest, fastest? latency lowest found ps = .ok fastest := by
  induction ps generalizing lowest found with
  | nil => exact ⟨found, rfl⟩
  | cons p rest ih =>
    obtain ⟨average, haverage⟩ := LatencyHistory.average_of_fits hfits p.name
    simp only [fastest?, haverage]
    split
    · exact ih average (some p)
    · exact ih lowest found

theorem Fastest.select_of_fits {latency : LatencyHistory} (hfits : latency.Fits)
    (request : ChatRequest) (first : Provider) (rest : List Provider) :
    ∃ p, select latency request first rest = .ok p := by
  obtain ⟨found, hfound⟩ :=
    fastest?_of_fits hfits ceiling none (serving request.model (first :: rest))
  exact ⟨found.getD first, by rw [select, hfound]; rfl⟩

/-- Every rule can be decided. -/
theorem RoutingRule.holdsFor_of_fits (hfits : s.latency.Fits) (request : ChatRequest)
    (r : RoutingRule) : ∃ matched, r.holdsFor s request = .ok matched := by
  obtain ⟨provider, priority, condition⟩ := r
  cases condition with
  | latencyAtMost maxLatencyMs =>
    obtain ⟨average, haverage⟩ := LatencyHistory.average_of_fits hfits provider
    exact ⟨Float.ofNat average.wholeMillis ≤ maxLatencyMs, by simp only [holdsFor, haverage]; rfl⟩
  | _ => exact ⟨_, rfl⟩

/-- The rules can be gone through to the end. -/
theorem RuleOrder.named?_of_fits (hfits : s.latency.Fits) (request : ChatRequest)
    (candidates : List Provider) (rules : List RoutingRule) :
    ∃ named, named? s request candidates rules = .ok named := by
  induction rules with
  | nil => exact ⟨none, rfl⟩
  | cons r rest ih =>
    obtain ⟨matched, hmatched⟩ := r.holdsFor_of_fits hfits request
    cases matched with
    | false => simpa only [named?, hmatched] using ih
    | true =>
      simp only [named?, hmatched]
      split
      · exact ⟨_, rfl⟩
      · exact ih

theorem RuleOrder.select_of_fits (hfits : s.latency.Fits) (rules : List RoutingRule)
    (request : ChatRequest) (first : Provider) (rest : List Provider) :
    ∃ p, select s rules request first rest = .ok p := by
  obtain ⟨named, hnamed⟩ := named?_of_fits hfits request (first :: rest) rules
  exact ⟨named.getD (ModelMatch.select request first rest), by rw [select, hnamed]; rfl⟩

/-- Every turn is that of a candidate. -/
theorem Rotation.pick?_total (model : String) (hc : candidates ≠ []) (r : Rotation) :
    ∃ p ∈ candidates, r.pick? model candidates = some p := by
  have hpool : 0 < (pool model candidates).length := List.length_pos_iff.2 (pool_ne_nil model hc)
  have hpick : r.pick? model candidates = some _ :=
    List.getElem?_eq_getElem (Nat.mod_lt r.turn.toNat hpool)
  exact ⟨_, mem_of_pick? hpick, hpick⟩

/-! ## All strategies -/

namespace Strategy

variable {rotation : Rotation}

theorem pick_of_fits (hfits : s.latency.Fits) (strategy : Strategy) (rotation : Rotation)
    (request : ChatRequest) (first : Provider) (rest : List Provider) :
    ∃ p, strategy.pick s rotation request first rest = .ok p := by
  cases strategy with
  | byModel => exact ⟨_, rfl⟩
  | byCost => exact ⟨_, rfl⟩
  | byLatency => exact Fastest.select_of_fits hfits request first rest
  | balanced => exact ⟨_, rfl⟩
  | custom rules => exact RuleOrder.select_of_fits hfits rules request first rest

/-- Where there are candidates, one of them is picked. -/
theorem select_of_fits (hfits : s.latency.Fits) (strategy : Strategy) (rotation : Rotation)
    (request : ChatRequest) (hc : candidates ≠ []) :
    ∃ p ∈ candidates, strategy.select s rotation request candidates = .ok (.ok p) := by
  obtain ⟨first, rest, rfl⟩ := List.exists_cons_of_ne_nil hc
  obtain ⟨p, hp⟩ := pick_of_fits hfits strategy rotation request first rest
  have hselect : strategy.select s rotation request (first :: rest) = .ok (.ok p) := by
    rw [select, hp]
    rfl
  exact ⟨p, mem_of_select hselect, hselect⟩

end Strategy

/-! ## At a desk -/

namespace Desk

/-- A selector picks with its own rotation, or with that of the desk. -/
theorem consult_selection (d : Desk) (s : Selector) (request : ChatRequest)
    (candidates : List Provider) :
    (d.consult s request candidates).1 =
      s.strategy.select d.signals (s.ownRotation.getD d.rotation) request candidates := by
  obtain ⟨strategy, own⟩ := s
  cases own <;> rfl

/-- Without candidates no turn is used up. -/
theorem consult_nil (d : Desk) (s : Selector) (request : ChatRequest) :
    d.consult s request [] = (.ok (.error .noProviders), s, d) := by
  have hstays (rotation : Rotation) : s.strategy.advance [] rotation = rotation := by
    simp [Strategy.advance, Strategy.takesTurn]
  obtain ⟨strategy, own⟩ := s
  cases own with
  | none => simp only [consult, select, hstays, Strategy.select]
  | some rotation => simp only [consult, hstays, Strategy.select]

/-- **Selection is total.** Whatever the strategy and its rules, the prices, the turn, the request
and the candidates, a selector picks one of the candidates, and every turn is that of one of them;
it says that there is no provider if and only if there is no candidate, and then nothing of it or of
the desk has changed. -/
theorem consult_total (hfits : d.signals.latency.Fits) (s : Selector) (request : ChatRequest)
    (candidates : List Provider) :
    ((d.consult s request candidates).1 = .ok (.error .noProviders) ↔ candidates = []) ∧
      (candidates ≠ [] →
        (∃ p ∈ candidates, (d.consult s request candidates).1 = .ok (.ok p)) ∧
          0 < (Rotation.pool request.model candidates).length ∧
          ∀ rotation : Rotation, ∃ p ∈ candidates,
            rotation.pick? request.model candidates = some p) ∧
      (candidates = [] →
        d.consult s request candidates = (.ok (.error .noProviders), s, d)) := by
  have hpick (hc : candidates ≠ []) :
      ∃ p ∈ candidates, (d.consult s request candidates).1 = .ok (.ok p) := by
    rw [consult_selection]
    exact Strategy.select_of_fits hfits s.strategy _ request hc
  refine ⟨⟨fun h => ?_, fun h => by rw [h, consult_nil]⟩, fun hc => ⟨hpick hc, ?_, ?_⟩, ?_⟩
  · by_contra hc
    obtain ⟨p, -, hp⟩ := hpick hc
    rw [h] at hp
    cases hp
  · exact List.length_pos_iff.2 (Rotation.pool_ne_nil _ hc)
  · exact Rotation.pick?_total request.model hc
  · rintro rfl
    exact d.consult_nil s request

end Desk

/-! ## Twins without models -/

/-- A desk with prices that are no numbers, at its last turn. -/
def oddDesk : Desk where
  signals := ⟨[("twin", [("model", ⟨0.0 / 0.0, 1.0 / 0.0⟩)])], ⟨2, [("twin", [.zero, .oneSecond])]⟩⟩
  rotation := ⟨0xFFFFFFFFFFFFFFFF⟩

/-- A selector by a rule for nobody and one for whoever is quick. -/
def oddSelector : Selector where
  strategy := .ofRules
    [⟨"twin", 0, .latencyAtMost 600.0⟩, ⟨"nobody", 1, .predicate fun r => r.messages.isEmpty⟩]

/-- Two instances of one name, of which one lists no model and the other lists one twice. -/
def twins : List Provider :=
  [⟨{ name := "twin", models := [] }, .server 0⟩,
    ⟨{ name := "twin", models := ["model", "model"] }, .server 1⟩]

theorem odd_desk_picks :
    oddDesk.signals.latency.Fits ∧
      (∃ p ∈ twins,
        (oddDesk.consult oddSelector { model := "model", messages := [] } twins).1 = .ok (.ok p)) ∧
      (oddDesk.consult oddSelector { model := "model", messages := [] } []).1 =
        .ok (.error .noProviders) := by
  have hfits : oddDesk.signals.latency.Fits := LatencyHistory.fits_of_forall_mem (by decide)
  have hwith := Desk.consult_total hfits oddSelector { model := "model", messages := [] } twins
  have hwithout := Desk.consult_total hfits oddSelector { model := "model", messages := [] } []
  exact ⟨hfits, (hwith.2.1 (by decide)).1, hwithout.1.2 rfl⟩

end ChatGateway
