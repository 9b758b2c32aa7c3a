import ChatGateway.Proofs.Course.Following
import ChatGateway.Proofs.Gateway.OwnProviders

/-!
# The order of attempts

The plan of a request comes of three things: the pick of the strategy among all registered
providers, the caller's own providers, and the healthy ones among those registered. `PlanFor` says
which plan that is, case by case, and `Job.plan_settles_order` that it is the plan of every request
whose strategy comes to a pick.
-/

namespace ChatGateway

open Course

/-! ## The cases -/

/-- The providers that may be tried: the caller's own if there are any, else the healthy ones. -/
def eligible (own healthy : List Provider) : List Provider := if own.isEmpty then healthy else own

/-- `PlanFor strict own healthy pick plan`: for a pick, given the caller's own providers and the
healthy ones among those registered, this is the order in which providers are tried. -/
inductive PlanFor (strict : Bool) (own healthy : List Provider) (pick : Provider) :
    List Provider → Prop
  /-- The first provider with the name of the pick stands in for it. The others keep their order. -/
  | standIn {before after : List Provider} {p : Provider} :
    eligible own healthy = before ++ p :: after → p.name = pick.name →
    (∀ q ∈ before, q.name ≠ pick.name) → PlanFor strict own healthy pick (p :: (before ++ after))
  /-- With strict selection a pick that nobody stands in for is tried alone. -/
  | alone :
    (∀ q ∈ eligible own healthy, q.name ≠ pick.name) → strict = true →
    PlanFor strict own healthy pick [pick]
  /-- Else the caller's own providers are tried, and never mixed with others. -/
  | ownOnly :
    (∀ q ∈ own, q.name ≠ pick.name) → strict = false → own ≠ [] →
    PlanFor strict own healthy pick own
  /-- Without any the pick is tried all the same, and the healthy ones after it. -/
  | pickFirst :
    (∀ q ∈ healthy, q.name ≠ pick.name) → strict = false → own = [] →
    PlanFor strict own healthy pick (pick :: healthy)

namespace PlanFor

variable {strict : Bool} {own healthy plan : List Provider} {pick : Provider}

theorem ne_nil (h : PlanFor strict own healthy pick plan) : plan ≠ [] := by
  cases h with
  | ownOnly _ _ hne => exact hne
  | _ => exact List.cons_ne_nil _ _

/-- Where somebody stands in for the pick, nobody is added or left out. -/
theorem perm (h : PlanFor strict own healthy pick plan)
    (hname : ∃ q ∈ eligible own healthy, q.name = pick.name) :
    plan.Perm (eligible own healthy) := by
  obtain ⟨q, hq, hname⟩ := hname
  cases h with
  | standIn heq _ _ =>
    rw [heq]
    exact List.perm_middle.symm
  | alone hnone _ => exact absurd hname (hnone q hq)
  | ownOnly hnone _ hne =>
    rw [eligible, if_neg (by simpa using hne)] at hq
    exact absurd hname (hnone q hq)
  | pickFirst hnone _ hnil =>
    rw [eligible, if_pos (by simpa using hnil)] at hq
    exact absurd hname (hnone q hq)

end PlanFor

/-- The provider that is moved to the front is the first one with the name. -/
theorem promote?_eq_some {name : String} {ps order : List Provider}
    (h : promote? name ps = some order) : ∃ before p after, ps = before ++ p :: after ∧
      p.name = name ∧ (∀ q ∈ before, q.name ≠ name) ∧ order = p :: (before ++ after) := by
  obtain ⟨p, hfind, rfl⟩ := Option.map_eq_some_iff.1 h
  obtain ⟨hp, before, after, rfl, hbefore⟩ := List.find?_eq_some_iff_append.1 hfind
  have hname : p.name = name := by simpa using hp
  have hnone : ∀ q ∈ before, q.name ≠ name := by simpa using hbefore
  refine ⟨before, p, after, rfl, hname, hnone, ?_⟩
  rw [List.eraseP_append_right _ (by simpa using hnone),
    List.eraseP_cons_of_pos (by simpa using hname)]

/-- **The order of attempts** is the one for the pick. -/
theorem planFor_attemptOrder (strict : Bool) (own healthy : List Provider) (pick : Provider) :
    PlanFor strict own healthy pick
      (attemptOrder strict pick ⟨eligible own healthy, !own.isEmpty⟩) := by
  unfold attemptOrder
  cases ho : promote? pick.name (eligible own healthy) with
  | some order =>
    obtain ⟨before, p, after, heq, hp, hbefore, rfl⟩ := promote?_eq_some ho
    exact .standIn heq hp hbefore
  | none =>
    have hnone := promote?_eq_none.1 ho
    cases strict with
    | true => simpa using PlanFor.alone hnone rfl
    | false =>
      cases own with
      | nil => exact .pickFirst hnone rfl rfl
      | cons p rest => exact .ownOnly hnone rfl (List.cons_ne_nil p rest)

/-! ## Where the pick and the providers come from -/

theorem Backends.healthy_outcome {b : Backends} {check : Provider → Except ProviderError Unit}
    {ps : List Provider} (h : ∀ p ∈ ps, (b.health p).answer = some (check p)) :
    (b.healthy ps).outcome = .finished (ps.filter fun p => (check p).isOk) := by
  have hjoin : (Reply.join (ps.map b.health)).answer = some (ps.map check) := by
    induction ps with
    | nil => rfl
    | cons p rest ih =>
      obtain ⟨hp, hrest⟩ := List.forall_mem_cons.1 h
      simp [Reply.join, hp, ih hrest]
  have hzip : ((ps.zip (ps.map check)).filter fun pc => pc.2.isOk).map (·.1) =
      ps.filter fun p => (check p).isOk := by
    clear h hjoin
    induction ps with
    | nil => rfl
    | cons p rest ih => cases hp : (check p).isOk <;> simp [hp, ih]
  have hawait : (Course.await (Reply.join (ps.map b.health))).outcome =
      .finished (ps.map check) := by rw [outcome_await, hjoin]; rfl
  unfold healthy
  rw [outcome_bind_of_finished (outcome_recordAll _), outcome_bind_of_finished hawait, ← hzip]
  rfl

/-- Whoever is asked about the strategy, there is one in effect. -/
theorem Job.exists_strategy (j : Job) : ∃ strategy, j.strategy.outcome = .finished strategy := by
  have lock : ∃ locked, (j.services.askLock j.caller).outcome = .finished locked := by
    unfold Services.askLock
    split <;> exact ⟨_, rfl⟩
  have preference : ∃ kind, (j.services.askPreference j.caller).outcome = .finished kind := by
    unfold Services.askPreference
    split
    · exact ⟨_, rfl⟩
    · split <;> exact ⟨_, rfl⟩
  have rules : ∃ own, (j.services.askRules j.caller).outcome = .finished own := by
    unfold Services.askRules
    split
    · exact ⟨_, rfl⟩
    · split <;> exact ⟨_, rfl⟩
  obtain ⟨locked, hlock⟩ := lock
  obtain ⟨preferred, hpreference⟩ := preference
  obtain ⟨own, hrules⟩ := rules
  have hkind : ∃ kind, (j.services.strategyKind j.reads.kind j.caller).outcome =
      .finished kind := by
    unfold Services.strategyKind
    rw [outcome_bind_of_finished hlock]
    cases locked with
    | true => exact ⟨_, rfl⟩
    | false => exact ⟨_, outcome_bind_of_finished hpreference⟩
  obtain ⟨kind, hkind⟩ := hkind
  unfold Job.strategy
  rw [outcome_bind_of_finished hkind]
  split
  · exact ⟨_, outcome_bind_of_finished hrules⟩
  · exact ⟨_, rfl⟩

/-- Where there is somebody to pick, a strategy that has no pick has no answer at all. -/
theorem Strategy.select_of_ne_nil {candidates : List Provider} (hne : candidates ≠ [])
    (s : Signals) (rotation : Rotation) (strategy : Strategy) (request : ChatRequest) :
    (∃ pick, strategy.select s rotation request candidates = .ok (.ok pick)) ∨
      ∃ cause, strategy.select s rotation request candidates = .error cause := by
  obtain ⟨first, rest, rfl⟩ := List.exists_cons_of_ne_nil hne
  cases hp : strategy.pick s rotation request first rest with
  | ok pick => exact .inl ⟨pick, by simp [Strategy.select, hp, Except.map]⟩
  | error cause => exact .inr ⟨cause, by simp [Strategy.select, hp, Except.map]⟩

namespace Job

variable {j : Job} {strategy : Strategy}

/-- The pick is that of the strategy among the registered providers. -/
theorem pick_of_select (hs : j.strategy.outcome = .finished strategy)
    {selection : Except SelectionError Provider}
    (h : strategy.select j.reads.signals j.reads.rotation j.request j.reads.selecting =
      .ok selection) : j.pick.outcome = .finished selection := by
  unfold pick
  rw [outcome_bind_of_finished hs, h]
  change (if strategy.takesTurn j.reads.selecting then
    Course.record .turned >>= fun _ => pure selection else pure selection).outcome = _
  split <;> rfl

theorem pick_of_fault (hs : j.strategy.outcome = .finished strategy) {cause : Fault}
    (h : strategy.select j.reads.signals j.reads.rotation j.request j.reads.selecting =
      .error cause) : j.pick.outcome = .faulted cause := by
  unfold pick
  rw [outcome_bind_of_finished hs, h]
  rfl

theorem available_outcome {own : List Provider} (ho : j.ownProviders.outcome = .finished own)
    {check : Provider → Except ProviderError Unit}
    (hc : own = [] → ∀ p ∈ j.reads.probing, (j.backends.health p).answer = some (check p)) :
    j.available.outcome = .finished
      ⟨eligible own (j.reads.probing.filter fun p => (check p).isOk), !own.isEmpty⟩ := by
  unfold available
  rw [outcome_bind_of_finished ho]
  cases own with
  | nil => exact outcome_bind_of_finished (Backends.healthy_outcome (hc rfl))
  | cons p rest => rfl

theorem plan_of_pick (hne : j.reads.selecting ≠ []) {selected : Provider}
    (hp : j.pick.outcome = .finished (.ok selected)) {a : Available}
    (ha : j.available.outcome = .finished a) :
    j.plan.outcome = .finished (.ok (attemptOrder j.settings.strictSelection selected a)) := by
  unfold plan
  rw [if_neg (by simpa using hne), outcome_bind_of_finished hp]
  exact outcome_bind_of_finished ha

/-- **The order of attempts.** With somebody registered there is always a strategy in effect. If it
comes to a pick, the request comes to the plan for that pick, which is never empty; a strategy that
has no pick has stopped the request with a fault. -/
theorem plan_settles_order (hne : j.reads.selecting ≠ []) {own : List Provider}
    (ho : j.ownProviders.outcome = .finished own)
    {check : Provider → Except ProviderError Unit}
    (hc : own = [] → ∀ p ∈ j.reads.probing, (j.backends.health p).answer = some (check p)) :
    ∃ strategy, j.strategy.outcome = .finished strategy ∧
      ((∃ pick plan,
          strategy.select j.reads.signals j.reads.rotation j.request j.reads.selecting =
            .ok (.ok pick) ∧
          j.plan.Settles j.plan.trace (.finished (.ok plan)) ∧
          PlanFor j.settings.strictSelection own
            (j.reads.probing.filter fun p => (check p).isOk) pick plan ∧
          plan ≠ [] ∧
          ((∃ q ∈ eligible own (j.reads.probing.filter fun p => (check p).isOk),
              q.name = pick.name) →
            plan.Perm (eligible own (j.reads.probing.filter fun p => (check p).isOk)))) ∨
        ∃ cause,
          strategy.select j.reads.signals j.reads.rotation j.request j.reads.selecting =
            .error cause ∧
          j.plan.Settles j.plan.trace (.faulted cause)) := by
  have hsettles := j.prepares_plan.quiet.settles
  obtain ⟨strategy, hs⟩ := j.exists_strategy
  refine ⟨strategy, hs, ?_⟩
  rcases Strategy.select_of_ne_nil hne j.reads.signals j.reads.rotation strategy j.request with
    ⟨pick, hp⟩ | ⟨cause, hf⟩
  · have hplan := plan_of_pick hne (pick_of_select hs hp) (available_outcome ho hc)
    have horder := planFor_attemptOrder j.settings.strictSelection own
      (j.reads.probing.filter fun p => (check p).isOk) pick
    rw [hplan] at hsettles
    exact .inl ⟨pick, _, hp, hsettles, horder, horder.ne_nil, horder.perm⟩
  · have hpick := pick_of_fault hs hf
    have hplan : j.plan.outcome = .faulted cause := by
      unfold plan
      rw [if_neg (by simpa using hne)]
      exact (bind_of_faulted hpick).1
    rw [hplan] at hsettles
    exact .inr ⟨cause, hf, hsettles⟩

end Job

/-! ## A caller with two providers of the name that is picked -/

/-- The keys of that caller. Two of them are built into providers of one name. -/
def twinKeys : KeyRing where
  probes := ["first", "second", "third"]
  keys := fun _ _ => .value (some "key")
  factory := fun name _ =>
    some { name := if name = "first" then "other" else "shared", models := [] }

/-- A provider built from one of those keys. -/
def twinOwn (name probe : String) (serial : Nat) : Provider :=
  ⟨{ name, models := [] }, .built probe "key" serial⟩

/-- The request of that caller. -/
def twinJob : Job where
  settings :=
    { probes := twinKeys.probes, bufferCapacity := 1, emptyStreamIsError := true
      strictSelection := true }
  services := { keys := some twinKeys.keys, factory := some twinKeys.factory }
  backends :=
    { health := fun _ => .now (.ok ())
      chat := fun _ => .now (.error (.remote "down"))
      stream := fun _ => .now (.ok [])
      elapsed := fun _ => .oneSecond }
  reads :=
    { selecting := [strangerShared], kind := .balanced, rules := none
      signals := ⟨[], .ofCapacity 1⟩, rotation := {}, probing := [strangerShared], billing := [] }
  caller := some ⟨0⟩
  request := { model := "model", messages := [] }

/-- The caller's own providers in the order of the keys. -/
def twinOwns : List Provider :=
  [twinOwn "other" "first" 0, twinOwn "shared" "second" 1, twinOwn "shared" "third" 2]

theorem first_twin_stands_in :
    twinJob.reads.selecting ≠ [] ∧ twinJob.ownProviders.outcome = .finished twinOwns ∧
      (twinOwns = [] → ∀ p ∈ twinJob.reads.probing,
        (twinJob.backends.health p).answer = some (.ok ())) ∧
      ∃ plan, twinJob.plan.Settles twinJob.plan.trace (.finished (.ok plan)) ∧
        PlanFor true twinOwns [strangerShared] strangerShared plan ∧ plan ≠ [] ∧
        plan.Perm twinOwns := by
  have hne : twinJob.reads.selecting ≠ [] := by decide
  have ho : twinJob.ownProviders.outcome = .finished twinOwns := rfl
  have hc : twinOwns = [] → ∀ p ∈ twinJob.reads.probing,
      (twinJob.backends.health p).answer = some (.ok ()) := fun _ _ _ => rfl
  obtain ⟨strategy, hs, h⟩ := Job.plan_settles_order hne ho hc
  obtain rfl : Strategy.balanced = strategy := by injection hs
  rcases h with ⟨pick, plan, hpick, hplan, horder, hnil, hperm⟩ | ⟨cause, hf, -⟩
  · obtain rfl : strangerShared = pick := by
      injection hpick with hpick
      injection hpick
    exact ⟨hne, ho, hc, plan, hplan, horder, hnil, hperm (by decide)⟩
  · cases hf

end ChatGateway
