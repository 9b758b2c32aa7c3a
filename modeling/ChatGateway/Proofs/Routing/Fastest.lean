import ChatGateway.Proofs.Routing.Totality

/-!
# The fastest of those that serve

The strategy by latency compares means against a bound that falls as it goes through the candidates
that serve the wanted model. So as long as one of them has a mean below the bound at the start
(`Fastest.ceiling`), it picks the fastest of them, and of equals the one that is listed first
(`Strategy.select_fastest`). If there is none the pick is the first candidate of all. That is meant
for a model that nobody serves, but a candidate that is slow enough is passed over as well
(`slow_server_is_passed_over`).
-/

namespace ChatGateway

namespace Fastest

/-- `Leads mean model candidates p`: `p` serves the model, those before it that serve the model too
have higher means, and those after it have no lower ones. -/
def Leads (mean : String → Duration) (model : String) (candidates : List Provider)
    (p : Provider) : Prop :=
  ∃ before after, candidates = before ++ p :: after ∧ p.serves model = true ∧
    (∀ q ∈ before, q.serves model = true → mean p.name < mean q.name) ∧
    ∀ q ∈ after, q.serves model = true → ¬mean q.name < mean p.name

variable {mean : String → Duration} {model : String} {candidates : List Provider} {p q : Provider}

theorem serving_cons_of_pos (hq : q.serves model = true) :
    serving model (q :: candidates) = q :: serving model candidates :=
  List.filter_cons_of_pos hq

theorem serving_cons_of_neg (hq : ¬q.serves model = true) :
    serving model (q :: candidates) = serving model candidates :=
  List.filter_cons_of_neg hq

theorem leads_cons_self (hp : p.serves model = true)
    (h : ∀ q ∈ candidates, q.serves model = true → ¬mean q.name < mean p.name) :
    Leads mean model (p :: candidates) p :=
  ⟨[], candidates, rfl, hp, by simp, h⟩

theorem Leads.cons (h : Leads mean model candidates p)
    (hq : q.serves model = true → mean p.name < mean q.name) :
    Leads mean model (q :: candidates) p := by
  obtain ⟨before, after, rfl, hp, hbefore, hafter⟩ := h
  exact ⟨q :: before, after, rfl, hp, List.forall_mem_cons.2 ⟨hq, hbefore⟩, hafter⟩

theorem Leads.mem (h : Leads mean model candidates p) : p ∈ candidates := by
  obtain ⟨before, after, rfl, -⟩ := h
  simp

theorem Leads.serves (h : Leads mean model candidates p) : p.serves model = true := by
  obtain ⟨-, -, -, hp, -⟩ := h
  exact hp

section

variable {latency : LatencyHistory} (hmean : ∀ name, latency.average name = .ok (mean name))
include hmean

/-- Going through the candidates finds the one that leads, if one that serves is below the bound.
What was found before stays if there is none. -/
theorem fastest?_cases (model : String) (lowest : Duration) (found : Option Provider)
    (candidates : List Provider) :
    (∃ p, fastest? latency lowest found (serving model candidates) = .ok (some p) ∧
        mean p.name < lowest ∧ Leads mean model candidates p) ∨
      fastest? latency lowest found (serving model candidates) = .ok found ∧
        ∀ q ∈ candidates, q.serves model = true → ¬mean q.name < lowest := by
  induction candidates generalizing lowest found with
  | nil => exact .inr ⟨rfl, by simp⟩
  | cons q rest ih =>
    by_cases hserves : q.serves model = true
    · rw [serving_cons_of_pos hserves]
      by_cases hq : mean q.name < lowest
      · simp only [fastest?, hmean, if_pos hq]
        rcases ih (mean q.name) (some q) with ⟨p, hp, hlower, hleads⟩ | ⟨hstays, hrest⟩
        · have hlowest : mean p.name < lowest := by
            rw [Duration.lt_iff_toNanos] at hlower hq ⊢
            exact hlower.trans hq
          exact .inl ⟨p, hp, hlowest, hleads.cons fun _ => hlower⟩
        · exact .inl ⟨q, hstays, hq, leads_cons_self hserves hrest⟩
      · simp only [fastest?, hmean, if_neg hq]
        rcases ih lowest found with ⟨p, hp, hlowest, hleads⟩ | ⟨hstays, hrest⟩
        · have hlower : mean p.name < mean q.name := by
            rw [Duration.lt_iff_toNanos] at hlowest hq ⊢
            exact hlowest.trans_le (Nat.le_of_not_lt hq)
          exact .inl ⟨p, hp, hlowest, hleads.cons fun _ => hlower⟩
        · exact .inr ⟨hstays, List.forall_mem_cons.2 ⟨fun _ => hq, hrest⟩⟩
    · rw [serving_cons_of_neg hserves]
      rcases ih lowest found with ⟨p, hp, hlowest, hleads⟩ | ⟨hstays, hrest⟩
      · exact .inl ⟨p, hp, hlowest, hleads.cons fun h => absurd h hserves⟩
      · exact .inr ⟨hstays, List.forall_mem_cons.2 ⟨fun h => absurd h hserves, hrest⟩⟩

/-- The pick leads the candidates, or it is the first of them and none that serves is below the
ceiling. -/
theorem select_cases (request : ChatRequest) (first : Provider) (rest : List Provider) :
    (∃ p, select latency request first rest = .ok p ∧ mean p.name < ceiling ∧
        Leads mean request.model (first :: rest) p) ∨
      select latency request first rest = .ok first ∧
        ∀ q ∈ first :: rest, q.serves request.model = true → ¬mean q.name < ceiling := by
  unfold select
  rcases fastest?_cases hmean request.model ceiling none (first :: rest) with
    ⟨p, hp, hbelow, hleads⟩ | ⟨hnone, habove⟩
  · exact .inl ⟨p, by rw [hp]; rfl, hbelow, hleads⟩
  · exact .inr ⟨by rw [hnone]; rfl, habove⟩

end

end Fastest

/-- There is a mean for every name: a second where nothing was recorded. -/
theorem LatencyHistory.exists_means {h : LatencyHistory} (hfits : h.Fits) :
    ∃ mean : String → Duration, (∀ name, h.average name = .ok (mean name)) ∧
      ∀ name, h.window name = [] → mean name = .oneSecond := by
  choose mean hmean using average_of_fits hfits
  refine ⟨mean, hmean, fun name hempty => ?_⟩
  have hdefault : h.average name = .ok .oneSecond := by
    rw [average, hempty]
    rfl
  rw [hmean] at hdefault
  exact Except.ok.inj hdefault

/-- **The fastest is picked** among the candidates that serve the wanted model, the first of equals,
as long as one of them has a mean below the ceiling. If there is none, in particular if nobody
serves the model, the first candidate is picked. -/
theorem Strategy.select_fastest {s : Signals} (hfits : s.latency.Fits) (rotation : Rotation)
    (request : ChatRequest) (first : Provider) (rest : List Provider) :
    ∃ mean : String → Duration,
      (∀ name, s.latency.average name = .ok (mean name)) ∧
      (∀ name, s.latency.window name = [] → mean name = .oneSecond) ∧
      ∃ p, byLatency.select s rotation request (first :: rest) = .ok (.ok p) ∧
        ((∃ q ∈ first :: rest, q.serves request.model = true ∧ mean q.name < Fastest.ceiling) →
          Fastest.Leads mean request.model (first :: rest) p) ∧
        ((∀ q ∈ first :: rest, q.serves request.model = true → ¬mean q.name < Fastest.ceiling) →
          p = first) := by
  obtain ⟨mean, hmean, hdefault⟩ := LatencyHistory.exists_means hfits
  refine ⟨mean, hmean, hdefault, ?_⟩
  have hselect {p : Provider} (hp : Fastest.select s.latency request first rest = .ok p) :
      byLatency.select s rotation request (first :: rest) = .ok (.ok p) := by
    rw [select, pick, hp]
    rfl
  rcases Fastest.select_cases hmean request first rest with
    ⟨p, hp, hbelow, hleads⟩ | ⟨hp, habove⟩
  · refine ⟨p, hselect hp, fun _ => hleads, fun hall => ?_⟩
    exact absurd hbelow (hall p hleads.mem hleads.serves)
  · refine ⟨first, hselect hp, ?_, fun _ => rfl⟩
    rintro ⟨q, hq, hserves, hbelow⟩
    exact absurd hbelow (habove q hq hserves)

/-! ## A candidate that takes its time -/

/-- A provider that lists one model. -/
def serverOf (name model : String) (serial : Nat) : Provider :=
  ⟨{ name, models := [model] }, .server serial⟩

/-- What is known after one duration of `late` was recorded, in whole seconds. -/
def lateSignals (secs : Nat) (h : secs < 0x10000000000000000) : Signals :=
  ⟨[], ⟨1, [("late", [.ofSecs secs h])]⟩⟩

/-- Candidates of which two serve the model of the request. -/
def lateCandidates : List Provider :=
  [serverOf "other" "another" 0, serverOf "late" "model" 1, serverOf "fresh" "model" 2]

/-- A request for that model. -/
def lateRequest : ChatRequest := { model := "model", messages := [] }

/-- A candidate of which nothing is known is faster than one that took two seconds. -/
theorem fresh_candidate_leads :
    (lateSignals 2 (by decide)).latency.Fits ∧
      ∃ mean, mean "late" = .ofSecs 2 (by decide) ∧ mean "fresh" = .oneSecond ∧
        Strategy.byLatency.select (lateSignals 2 (by decide)) {} lateRequest lateCandidates =
          .ok (.ok (serverOf "fresh" "model" 2)) ∧
        Fastest.Leads mean "model" lateCandidates (serverOf "fresh" "model" 2) := by
  have hfits : (lateSignals 2 (by decide)).latency.Fits :=
    LatencyHistory.fits_of_forall_mem (by decide)
  obtain ⟨mean, hmean, hdefault, p, hp, hleads, -⟩ := Strategy.select_fastest hfits {}
    lateRequest (serverOf "other" "another" 0)
    [serverOf "late" "model" 1, serverOf "fresh" "model" 2]
  have hlate : mean "late" = .ofSecs 2 (by decide) := (Except.ok.inj (hmean "late")).symm
  have hfresh : mean "fresh" = .oneSecond := hdefault "fresh" rfl
  have hbelow : mean "fresh" < Fastest.ceiling := by
    rw [hfresh]
    decide
  obtain rfl : serverOf "fresh" "model" 2 = p := Except.ok.inj (Except.ok.inj hp)
  exact ⟨hfits, mean, hlate, hfresh, hp,
    hleads ⟨serverOf "fresh" "model" 2, by decide, by decide, hbelow⟩⟩

/-- A candidate that alone serves the model is passed over if it takes long enough. -/
theorem slow_server_is_passed_over :
    ¬∀ (s : Signals) (rotation : Rotation) (request : ChatRequest) (candidates : List Provider)
      (p : Provider), s.latency.Fits → serving request.model candidates = [p] →
        Strategy.byLatency.select s rotation request candidates = .ok (.ok p) := by
  intro h
  have hpick := h (lateSignals 1000000 (by decide)) {} lateRequest
    [serverOf "other" "another" 0, serverOf "late" "model" 1] (serverOf "late" "model" 1)
    (LatencyHistory.fits_of_forall_mem (by decide)) (by decide)
  have hother : serverOf "other" "another" 0 = serverOf "late" "model" 1 :=
    Except.ok.inj (Except.ok.inj hpick)
  exact absurd hother (by decide)

end ChatGateway
