import ChatGateway.Proofs.Gateway.Attempts

/-!
# A caller's own providers

A caller who has healthy providers of their own is served by these and by nobody else
(`Job.asks_own_or_pick`), with one exception: when selection is strict and none of them has the name
of the pick, the pick is tried, and it alone. Each of a caller's own providers was built from a key
of that caller (`KeyRing.mem_resolve`).
-/

namespace ChatGateway

open Course

/-! ## Where a caller's own providers come from -/

/-- A provider is built from a key of the caller under one of some names. -/
def KeyRing.Builds (k : KeyRing) (caller : CallerId) (names : List String) (p : Provider) : Prop :=
  ∃ name ∈ names, ∃ key serial, KeyRing.usableKey (k.keys caller name) = some key ∧
    k.factory name key = some p.toProfile ∧ p.origin = .built name key serial

theorem KeyRing.Builds.of_rest {k : KeyRing} {caller : CallerId} {names : List String}
    {p : Provider} (h : k.Builds caller names p) (name : String) :
    k.Builds caller (name :: names) p := by
  obtain ⟨n, hn, h⟩ := h
  exact ⟨n, List.mem_cons_of_mem name hn, h⟩

theorem KeyRing.mem_buildAll {k : KeyRing} {caller : CallerId} {serial : Nat}
    {names : List String} {ps : List Provider} {p : Provider}
    (h : (k.buildAll caller serial names).outcome = .finished ps) (hp : p ∈ ps) :
    k.Builds caller names p := by
  induction names generalizing serial ps with
  | nil =>
    cases h
    cases hp
  | cons name rest ih =>
    obtain ⟨key, hk, h⟩ := outcome_bind_eq_finished h
    have hkey : KeyRing.usableKey (k.keys caller name) = key := by
      injection hk
    split at h
    · exact (ih h hp).of_rest name
    · rename_i key
      obtain ⟨-, -, h⟩ := outcome_bind_eq_finished h
      split at h
      · exact (ih h hp).of_rest name
      · rename_i profile hf
        obtain ⟨others, ho, h⟩ := outcome_bind_eq_finished h
        cases h
        rcases List.mem_cons.1 hp with rfl | hp
        · exact ⟨name, List.mem_cons_self, key, serial, hkey, hf, rfl⟩
        · exact (ih ho hp).of_rest name

theorem Backends.healthy_subset {b : Backends} {ps qs : List Provider}
    (h : (b.healthy ps).outcome = .finished qs) : qs ⊆ ps := by
  obtain ⟨-, -, h⟩ := outcome_bind_eq_finished h
  obtain ⟨checks, -, h⟩ := outcome_bind_eq_finished h
  cases h
  intro p hp
  obtain ⟨⟨q, check⟩, hq, rfl⟩ := List.mem_map.1 hp
  exact (List.of_mem_zip (List.mem_filter.1 hq).1).1

theorem KeyRing.mem_resolve {k : KeyRing} {b : Backends} {caller : CallerId}
    {own : List Provider} {p : Provider} (h : (k.resolve b caller).outcome = .finished own)
    (hp : p ∈ own) : k.Builds caller k.probes p := by
  obtain ⟨ps, hps, h⟩ := outcome_bind_eq_finished h
  exact k.mem_buildAll hps (Backends.healthy_subset h hp)

/-! ## Who is tried in their place -/

theorem mem_of_mem_promote? {name : String} {ps order : List Provider} {p : Provider}
    (h : promote? name ps = some order) (hp : p ∈ order) : p ∈ ps := by
  obtain ⟨first, hf, rfl⟩ := Option.map_eq_some_iff.1 h
  rcases List.mem_cons.1 hp with rfl | hp
  · exact List.mem_of_find?_eq_some hf
  · exact List.mem_of_mem_eraseP hp

theorem promote?_eq_none {name : String} {ps : List Provider} :
    promote? name ps = none ↔ ∀ p ∈ ps, p.name ≠ name := by
  simp [promote?]

/-- Nobody is tried but the pick and those that are available. -/
theorem mem_of_mem_attemptOrder {strict : Bool} {selected p : Provider} {available : Available}
    (h : p ∈ attemptOrder strict selected available) : p = selected ∨ p ∈ available.providers := by
  unfold attemptOrder at h
  split at h
  · exact .inr (mem_of_mem_promote? (by assumption) h)
  · split at h
    · exact .inr h
    · split at h
      · exact .inl (List.mem_singleton.1 h)
      · exact List.mem_cons.1 h

/-- Who may be tried for a caller with providers of their own, given the pick. -/
def OwnOrPick (strict : Bool) (own : List Provider) (selected p : Provider) : Prop :=
  if strict = true ∧ ∀ q ∈ own, q.name ≠ selected.name then p = selected else p ∈ own

theorem ownOrPick_of_mem_attemptOrder {strict : Bool} {own : List Provider}
    {selected p : Provider} (h : p ∈ attemptOrder strict selected ⟨own, true⟩) :
    OwnOrPick strict own selected p := by
  unfold attemptOrder at h
  unfold OwnOrPick
  cases ho : promote? selected.name own with
  | some order =>
    rw [ho] at h
    have hsome : ¬∀ q ∈ own, q.name ≠ selected.name := by
      rw [← promote?_eq_none, ho]
      exact Option.some_ne_none order
    rw [if_neg fun hs => hsome hs.2]
    exact mem_of_mem_promote? ho h
  | none =>
    rw [ho] at h
    have hnone := promote?_eq_none.1 ho
    cases strict with
    | false => simpa using h
    | true =>
      rw [if_pos ⟨rfl, hnone⟩]
      simpa using h

namespace Job

theorem ownProviders_eq {j : Job} {caller : CallerId} {k : KeyRing} (hc : j.caller = some caller)
    (hk : j.services.keyRing? j.settings.probes = some k) :
    j.ownProviders = k.resolve j.backends caller := by
  rw [ownProviders, hc, hk]

theorem ownProviders_of_anonymous {j : Job} (hc : j.caller = none) :
    j.ownProviders = .done [] := by
  rw [ownProviders, hc]

theorem ownProviders_of_no_keyRing {j : Job}
    (hk : j.services.keyRing? j.settings.probes = none) : j.ownProviders = .done [] := by
  rw [ownProviders, hk]
  cases j.caller <;> rfl

/-- With providers of the caller's own, every provider of a plan is one of these or the pick. -/
theorem ownOrPick_of_mem_plan {j : Job} {own cs : List Provider} {p : Provider}
    (ho : j.ownProviders.outcome = .finished own) (hne : own ≠ [])
    (hcs : j.plan.outcome = .finished (.ok cs)) (hp : p ∈ cs) :
    ∃ selected, j.pick.outcome = .finished (.ok selected) ∧
      OwnOrPick j.settings.strictSelection own selected p := by
  obtain ⟨selected, available, hs, ha, rfl⟩ := plan_eq_ok hcs
  rcases available_eq ha with ⟨own', ho', -, rfl⟩ | ⟨ho', -⟩
  · obtain rfl : own = own' := by
      rw [ho] at ho'
      injection ho'
    exact ⟨selected, hs, ownOrPick_of_mem_attemptOrder hp⟩
  · rw [ho] at ho'
    injection ho' with ho'
    exact absurd ho' hne

/-- **A caller's own providers are all that is asked**, in every run of the request, streamed or
not, unless selection is strict and none of them has the name of the pick; then the pick is all that
is asked. -/
theorem asks_own_or_pick {j : Job} {caller : CallerId} {k : KeyRing} {own : List Provider}
    (hc : j.caller = some caller) (hk : j.services.keyRing? j.settings.probes = some k)
    (ho : (k.resolve j.backends caller).outcome = .finished own) (hne : own ≠ [])
    (capacity : Nat) (cancelled : Bool) (schedule : List Act) (e : Event)
    (he : e ∈ ((Machine.start j.route cancelled).run capacity schedule).events ∨
      e ∈ ((Machine.start j.stream cancelled).run capacity schedule).events) :
    e.AsksOnly fun p => ∃ selected, j.pick.outcome = .finished (.ok selected) ∧
      OwnOrPick j.settings.strictSelection own selected p ∧
      (p ∈ own → k.Builds caller k.probes p) := by
  have hown : j.ownProviders.outcome = .finished own := by rw [ownProviders_eq hc hk, ho]
  have hplan : ∀ cs, j.plan.outcome = .finished (.ok cs) → ∀ p ∈ cs,
      ∃ selected, j.pick.outcome = .finished (.ok selected) ∧
        OwnOrPick j.settings.strictSelection own selected p ∧
        (p ∈ own → k.Builds caller k.probes p) := by
    intro cs hcs p hp
    obtain ⟨selected, hs, h⟩ := ownOrPick_of_mem_plan hown hne hcs hp
    exact ⟨selected, hs, h, KeyRing.mem_resolve ho⟩
  rcases he with he | he
  · exact Machine.events_within (j.within_route hplan) capacity cancelled schedule he
  · exact Machine.events_within (j.within_stream hplan) capacity cancelled schedule he

end Job

/-! ## A caller with a key for another provider -/

/-- A caller with a key for a provider that is not registered. -/
def strangerKeys : KeyRing where
  probes := ["own"]
  keys := fun _ _ => .value (some "key")
  factory := fun name _ => some { name, models := [] }

/-- The provider built from that key. -/
def strangerOwn : Provider := ⟨{ name := "own", models := [] }, .built "own" "key" 0⟩

/-- The provider that is registered. -/
def strangerShared : Provider := ⟨{ name := "shared", models := [] }, .server 0⟩

/-- The request of that caller. Every provider is healthy and answers. -/
def strangerJob (strict : Bool) : Job where
  settings :=
    { probes := strangerKeys.probes, bufferCapacity := 1, emptyStreamIsError := true
      strictSelection := strict }
  services := { keys := some strangerKeys.keys, factory := some strangerKeys.factory }
  backends :=
    { health := fun _ => .now (.ok ())
      chat := fun p => .now (.ok (.ofText "id" "model" p.name {}))
      stream := fun _ => .now (.ok [])
      elapsed := fun _ => .oneSecond }
  reads :=
    { selecting := [strangerShared], kind := .balanced, rules := none
      signals := ⟨[], .ofCapacity 1⟩, rotation := {}, probing := [strangerShared], billing := [] }
  caller := some ⟨0⟩
  request := { model := "model", messages := [] }

/-- Without strict selection the own provider is asked in place of the pick. -/
theorem stranger_asks_own :
    (strangerKeys.resolve (strangerJob false).backends ⟨0⟩).outcome = .finished [strangerOwn] ∧
      [strangerOwn] ≠ [] ∧
      Event.called (.chat strangerOwn) ∈
        ((Machine.start (strangerJob false).route).run 1 (List.replicate 20 .work)).events ∧
      ∃ selected, (strangerJob false).pick.outcome = .finished (.ok selected) ∧
        OwnOrPick false [strangerOwn] selected strangerOwn ∧
        (strangerOwn ∈ [strangerOwn] → strangerKeys.Builds ⟨0⟩ ["own"] strangerOwn) := by
  have ho : (strangerKeys.resolve (strangerJob false).backends ⟨0⟩).outcome =
      .finished [strangerOwn] := rfl
  have he : Event.called (.chat strangerOwn) ∈
      ((Machine.start (strangerJob false).route).run 1 (List.replicate 20 .work)).events := by
    decide
  exact ⟨ho, by decide, he, Job.asks_own_or_pick (j := strangerJob false) rfl rfl ho (by decide)
    1 false (List.replicate 20 .work) _ (.inl he)⟩

/-- **Strict selection passes a caller's own providers over**: not all that is asked for a caller
with providers of their own is one of these. -/
theorem strict_asks_shared :
    ¬∀ (j : Job) (caller : CallerId) (k : KeyRing) (own : List Provider),
      j.caller = some caller → j.services.keyRing? j.settings.probes = some k →
      (k.resolve j.backends caller).outcome = .finished own → own ≠ [] →
      ∀ (capacity : Nat) (cancelled : Bool) (schedule : List Act),
        ∀ e ∈ ((Machine.start j.route cancelled).run capacity schedule).events,
          e.AsksOnly (· ∈ own) := by
  intro h
  have he : Event.called (.chat strangerShared) ∈
      ((Machine.start (strangerJob true).route).run 1 (List.replicate 20 .work)).events := by
    decide
  have hown : strangerShared ∈ [strangerOwn] :=
    h (strangerJob true) ⟨0⟩ strangerKeys [strangerOwn] rfl rfl rfl (by decide)
      1 false (List.replicate 20 .work) _ he
  revert hown
  decide

end ChatGateway
