import ChatGateway.Proofs.Gateway.Grounds
import ChatGateway.Proofs.Gateway.Isolation

/-!
# Probing

For a request of a caller whose keys can be looked up, every probe is looked up once and every
usable key is built from once, in order (`KeyRing.trace_buildAll`). All instances are checked, and
those of them that pass are the caller's own; the registered providers are checked only if there are
none (`Job.probes_once`). The checks of a set go on side by side and may end in any order. It makes
no difference in which: what comes of a check is kept at the place of its provider
(`Checkup.slots_run`), and all of them together come to what the gateway finds healthy
(`Checkup.outcome_healthy`).
-/

namespace ChatGateway

open Course

/-! ## Checks side by side -/

/-- Calls side by side answer with all their answers. -/
theorem Reply.answer_join {α : Type} (rs : List (Reply α)) :
    (join rs).answer = rs.mapM (·.answer) := by
  induction rs with
  | nil => rfl
  | cons r rest ih =>
    rw [List.mapM_cons, ← ih, join]
    cases r.answer <;> cases (join rest).answer <;> rfl

/-- Checks that go on side by side: for every provider what came of its check so far. -/
structure Checkup where
  slots : List (Provider × Option (Except ProviderError Unit))

namespace Checkup

/-- No check has ended yet. -/
def start (ps : List Provider) : Checkup := ⟨ps.map fun p => (p, none)⟩

/-- The check at a place ends. -/
def finish (b : Backends) (c : Checkup) (i : Nat) : Checkup :=
  ⟨c.slots.modify i fun slot => (slot.1, (b.health slot.1).answer)⟩

/-- The checks end in this order of their places. -/
def run (b : Backends) (c : Checkup) (order : List Nat) : Checkup := order.foldl (finish b) c

/-- Whether all checks have ended. -/
def isOver (c : Checkup) : Bool := c.slots.all fun slot => slot.2.isSome

/-- The providers whose check came out well, in order. -/
def healthy (c : Checkup) : List Provider :=
  (c.slots.filter fun slot => slot.2.any Except.isOk).map (·.1)

variable (b : Backends) (ps : List Provider)

/-- One check that ends leaves the others as they are, and its own result at its place. -/
theorem slots_finish (done : List Nat) (i : Nat) :
    (finish b ⟨ps.mapIdx fun n p => (p, if n ∈ done then (b.health p).answer else none)⟩ i).slots =
      ps.mapIdx fun n p => (p, if n ∈ done ++ [i] then (b.health p).answer else none) := by
  refine List.ext_getElem (by simp [finish]) fun n hn hn' => ?_
  simp only [finish, List.getElem_modify, List.getElem_mapIdx, List.mem_append,
    List.mem_singleton]
  by_cases hi : i = n
  · simp [hi]
  · simp [hi, Ne.symm hi]

/-- **What comes of a check is kept at the place of its provider**, in whatever order the checks
end. -/
theorem slots_run (order : List Nat) :
    ((start ps).run b order).slots =
      ps.mapIdx fun n p => (p, if n ∈ order then (b.health p).answer else none) := by
  induction order using List.reverseRecOn with
  | nil => exact List.ext_getElem (by simp [run, start]) fun n hn hn' => by simp [run, start]
  | append_singleton order i ih =>
    have hrun : (start ps).run b (order ++ [i]) = ((start ps).run b order).finish b i :=
      List.foldl_append
    rw [hrun, ← slots_finish, ← ih]

section All

variable {order : List Nat} (hall : ∀ n < ps.length, n ∈ order)
include hall

/-- Nothing is missing once every check has had its end. -/
theorem slots_of_all :
    ((start ps).run b order).slots = ps.map fun p => (p, (b.health p).answer) := by
  rw [slots_run]
  refine List.ext_getElem (by simp) fun n hn _ => ?_
  have hn' : n ∈ order := hall n (by simpa using hn)
  simp [hn']

/-- Calls that are made side by side answer with what stands in the slots. -/
theorem answer_join_health :
    (Reply.join (ps.map b.health)).answer = ((start ps).run b order).slots.mapM (·.2) := by
  rw [Reply.answer_join, slots_of_all b ps hall, List.mapM_map, List.mapM_map]
  rfl

/-- **Checks that go on side by side** come to what a gateway finds healthy, in whatever order they
end; if one of them never ends, it does not find anything. -/
theorem outcome_healthy :
    (b.healthy ps).outcome =
      if ((start ps).run b order).isOver then .finished ((start ps).run b order).healthy
      else .stalled := by
  have hover : ((start ps).run b order).isOver = (Reply.join (ps.map b.health)).answer.isSome := by
    rw [Bool.eq_iff_iff, Reply.isSome_join_iff, isOver, slots_of_all b ps hall]
    simp
  have hhealthy : ((start ps).run b order).healthy = ps.filter b.passes := by
    rw [healthy, slots_of_all b ps hall, List.filter_map, List.map_map]
    exact List.map_id _
  have hawait := outcome_await (Reply.join (ps.map b.health))
  rw [hover, hhealthy]
  cases hanswer : (Reply.join (ps.map b.health)).answer with
  | none =>
    rw [hanswer] at hawait
    exact (outcome_bind_of_finished (outcome_recordAll _)).trans (bind_of_stalled hawait).1
  | some checks =>
    rw [hanswer] at hawait
    have hends : (b.healthy ps).outcome =
        .finished (((ps.zip checks).filter fun pc => pc.2.isOk).map (·.1)) :=
      (outcome_bind_of_finished (outcome_recordAll _)).trans (outcome_bind_of_finished hawait)
    obtain ⟨hfilter, -⟩ := Backends.healthy_eq hends
    rw [hends, hfilter]
    rfl

theorem run_of_healthy {qs : List Provider} (h : (b.healthy ps).outcome = .finished qs) :
    ((start ps).run b order).isOver = true ∧ ((start ps).run b order).healthy = qs := by
  rw [outcome_healthy b ps hall] at h
  split at h
  · rename_i hover
    exact ⟨hover, Ending.finished.inj h⟩
  · cases h

end All

end Checkup

/-! ## What is seen of probing -/

namespace Event

/-- A key is looked up. -/
def isLookup : Event → Bool
  | .asked (.key _ _) => true
  | _ => false

/-- A provider is built. -/
def isBuild : Event → Bool
  | .called (.build _ _) => true
  | _ => false

/-- A provider is checked. -/
def isCheck : Event → Bool
  | .called (.health _) => true
  | _ => false

end Event

/-- All checks of a set are begun side by side. -/
theorem Backends.trace_healthy (b : Backends) (ps : List Provider) :
    (b.healthy ps).trace = ps.map fun p => .called (.health p) := by
  have hchecks : (Course.await (Reply.join (ps.map b.health)) >>= fun checks =>
      pure (((ps.zip checks).filter fun pc => pc.2.isOk).map (·.1))).log = [] := by
    rw [log_bind, log_await]
    cases (Course.await (Reply.join (ps.map b.health))).outcome <;> rfl
  unfold healthy
  rw [trace_bind_of_finished (outcome_recordAll _), trace_recordAll, trace, hchecks,
    Mark.events_nil, List.append_nil]

namespace KeyRing

variable (k : KeyRing) (caller : CallerId)

/-- What is seen of one probe. -/
def probeEvents (name : String) : List Event :=
  .asked (.key caller name) ::
    ((usableKey (k.keys caller name)).map fun key => .called (.build name key)).toList

/-- **Every probe is looked up once**, and every usable key is built from once. -/
theorem trace_buildAll (serial : Nat) (names : List String) :
    (k.buildAll caller serial names).trace = names.flatMap (k.probeEvents caller) := by
  induction names generalizing serial with
  | nil => rfl
  | cons name rest ih =>
    rw [List.flatMap_cons, buildAll, trace_bind_of_finished rfl, probeEvents]
    cases usableKey (k.keys caller name) with
    | none => exact congrArg (Event.asked (.key caller name) :: ·) (ih serial)
    | some key =>
      simp only
      rw [trace_bind_of_finished rfl]
      cases k.factory name key with
      | none =>
        simp only
        rw [ih serial]
        rfl
      | some profile =>
        simp only
        rw [trace_bind_of_finished (k.outcome_buildAll caller (serial + 1) rest), ih (serial + 1)]
        simp [credential, Course.consult, Course.record, trace]

theorem trace_resolve (b : Backends) :
    (k.resolve b caller).trace = k.probes.flatMap (k.probeEvents caller) ++
      (k.instances caller).map fun p => .called (.health p) := by
  unfold resolve
  rw [trace_bind_of_finished (k.outcome_buildAll caller 0 k.probes), trace_buildAll,
    b.trace_healthy, instances]

/-- The instances are what the factory builds from usable keys, in the order of the probes. -/
theorem instancesFrom_toProfile (serial : Nat) (names : List String) :
    (k.instancesFrom caller serial names).map (·.toProfile) =
      names.filterMap fun name => (usableKey (k.keys caller name)).bind (k.factory name) := by
  induction names generalizing serial with
  | nil => rfl
  | cons name rest ih =>
    unfold instancesFrom
    cases hkey : usableKey (k.keys caller name) with
    | none => simp [hkey, ih serial]
    | some key =>
      cases hf : k.factory name key with
      | none => simp [hkey, hf, ih serial]
      | some profile => simp [hkey, hf, ih (serial + 1)]

/-- What is seen of the probing for a caller of which these providers are checked. -/
structure Probed (checked : List Provider) (events : List Event) : Prop where
  lookups : events.filter Event.isLookup = k.probes.map fun name => .asked (.key caller name)
  builds : events.filter Event.isBuild = k.probes.filterMap fun name =>
    (usableKey (k.keys caller name)).map fun key => .called (.build name key)
  /-- What is built from is a stored key as it is, and not all white space. -/
  built_iff : ∀ name key, .called (.build name key) ∈ events ↔ name ∈ k.probes ∧
    k.keys caller name = .value (some key) ∧ ∃ c ∈ key.toList, Text.isBlank c = false
  checks : events.filter Event.isCheck = checked.map fun p => .called (.health p)

theorem filter_probes (names : List String) :
    (names.flatMap (k.probeEvents caller)).filter Event.isLookup =
        names.map (fun name => .asked (.key caller name)) ∧
      (names.flatMap (k.probeEvents caller)).filter Event.isBuild =
        names.filterMap (fun name =>
          (usableKey (k.keys caller name)).map fun key => .called (.build name key)) ∧
      (names.flatMap (k.probeEvents caller)).filter Event.isCheck = [] := by
  induction names with
  | nil => exact ⟨rfl, rfl, rfl⟩
  | cons name rest ih =>
    obtain ⟨hlookup, hbuild, hcheck⟩ := ih
    rw [List.flatMap_cons, List.filter_append, List.filter_append, List.filter_append, hlookup,
      hbuild, hcheck, probeEvents, List.filterMap_cons]
    cases usableKey (k.keys caller name) <;> exact ⟨rfl, rfl, rfl⟩

theorem filter_checks (ps : List Provider) :
    (ps.map fun p => Event.called (.health p)).filter Event.isLookup = [] ∧
      (ps.map fun p => Event.called (.health p)).filter Event.isBuild = [] ∧
      (ps.map fun p => Event.called (.health p)).filter Event.isCheck =
        ps.map fun p => .called (.health p) := by
  refine ⟨?_, ?_, List.filter_eq_self.2 (by simp [Event.isCheck])⟩
  · simp [List.filter_eq_nil_iff, Event.isLookup]
  · simp [List.filter_eq_nil_iff, Event.isBuild]

variable {k caller}

theorem probed_of_events {before events : List Event} {checked : List Provider}
    (hbefore : ∀ e ∈ before, (e.isLookup = false ∧ e.isBuild = false) ∧ e.isCheck = false)
    (hevents : events = before ++ (k.probes.flatMap (k.probeEvents caller) ++
      checked.map fun p => .called (.health p))) : k.Probed caller checked events := by
  have none {kind : Event → Bool} (h : ∀ e ∈ before, kind e = false) : before.filter kind = [] :=
    List.filter_eq_nil_iff.2 fun e he => by simp [h e he]
  obtain ⟨hlookup, hbuild, hcheck⟩ := k.filter_probes caller k.probes
  obtain ⟨hlookup', hbuild', hcheck'⟩ := filter_checks checked
  have hbuilds : events.filter Event.isBuild = k.probes.filterMap fun name =>
      (usableKey (k.keys caller name)).map fun key => .called (.build name key) := by
    rw [hevents, List.filter_append, List.filter_append, none fun e he => (hbefore e he).1.2,
      hbuild, hbuild', List.nil_append, List.append_nil]
  refine ⟨?_, hbuilds, fun name key => ?_, ?_⟩
  · rw [hevents, List.filter_append, List.filter_append, none fun e he => (hbefore e he).1.1,
      hlookup, hlookup', List.nil_append, List.append_nil]
  · have hmem : Event.called (.build name key) ∈ events ↔
        Event.called (.build name key) ∈ events.filter Event.isBuild :=
      (List.mem_filter.trans (and_iff_left rfl)).symm
    rw [hmem, hbuilds]
    simp [List.mem_filterMap, usableKey_eq_some_iff]
  · rw [hevents, List.filter_append, List.filter_append, none fun e he => (hbefore e he).2,
      hcheck, hcheck', List.nil_append, List.nil_append]

/-- No two instances are the same: each has its own number. -/
theorem nodup_instancesFrom (k : KeyRing) (caller : CallerId) (serial : Nat)
    (names : List String) :
    (k.instancesFrom caller serial names).Nodup ∧
      ∀ p ∈ k.instancesFrom caller serial names,
        ∃ name key n, p.origin = .built name key n ∧ serial ≤ n := by
  induction names generalizing serial with
  | nil => exact ⟨List.nodup_nil, List.forall_mem_nil _⟩
  | cons name rest ih =>
    unfold instancesFrom
    split
    · exact ih serial
    · split
      · exact ih serial
      · obtain ⟨hnodup, hserial⟩ := ih (serial + 1)
        refine ⟨List.nodup_cons.2 ⟨fun hmem => ?_, hnodup⟩,
          List.forall_mem_cons.2 ⟨⟨_, _, _, rfl, Nat.le_refl _⟩, fun p hp => ?_⟩⟩
        · obtain ⟨name', key', n, horigin, hn⟩ := hserial _ hmem
          injection horigin with _ _ hserial
          omega
        · obtain ⟨name', key', n, horigin, hn⟩ := hserial p hp
          exact ⟨name', key', n, horigin, by omega⟩

end KeyRing

namespace Job

variable {j : Job} {caller : CallerId} {k : KeyRing}

theorem pick_probes_nothing (j : Job) : ∀ e ∈ j.pick.trace,
    (e.isLookup = false ∧ e.isBuild = false) ∧ e.isCheck = false :=
  forall_trace_pick ⟨⟨rfl, rfl⟩, rfl⟩ (fun _ _ => ⟨⟨rfl, rfl⟩, rfl⟩) (fun _ _ => ⟨⟨rfl, rfl⟩, rfl⟩)
    ⟨⟨rfl, rfl⟩, rfl⟩

/-- What comes of making a plan. -/
theorem plan_cases (hne : j.reads.selecting ≠ []) {report : Except GatewayError (List Provider)}
    (h : j.plan.outcome = .finished report) :
    ∃ selected available, j.pick.outcome = .finished (.ok selected) ∧
      j.available.outcome = .finished available ∧
      report = .ok (attemptOrder j.settings.strictSelection selected available) ∧
      j.plan.trace = j.pick.trace ++ j.available.trace := by
  cases report with
  | error e => exact absurd h (plan_ne_error hne e)
  | ok cs =>
    obtain ⟨selected, available, hs, ha, rfl⟩ := plan_eq_ok h
    refine ⟨selected, available, hs, ha, rfl, ?_⟩
    rw [plan, if_neg (by simpa using hne), trace_bind_of_finished hs]
    simp only
    rw [trace_bind_of_finished ha]
    exact congrArg (j.pick.trace ++ ·) (List.append_nil _)

/-- The registered providers are checked only if the caller has none of their own. -/
theorem available_cases {available : Available} (h : j.available.outcome = .finished available) :
    ∃ own, j.ownProviders.outcome = .finished own ∧
      (own = [] → (j.backends.healthy j.reads.probing).outcome =
        .finished (j.reads.probing.filter j.backends.passes)) ∧
      available = ⟨eligible own (j.reads.probing.filter j.backends.passes), !own.isEmpty⟩ ∧
      j.available.trace = j.ownProviders.trace ++
        (if own = [] then j.reads.probing else []).map fun p => .called (.health p) := by
  rcases available_eq h with ⟨own, ho, hne, rfl⟩ | ⟨ho, ps, hps, rfl⟩
  · obtain ⟨p, rest, rfl⟩ := List.exists_cons_of_ne_nil hne
    exact ⟨p :: rest, ho, fun hnil => absurd hnil hne, rfl, trace_bind_of_finished ho⟩
  · obtain ⟨rfl, -⟩ := Backends.healthy_eq hps
    refine ⟨[], ho, fun _ => hps, rfl, ?_⟩
    rw [available, trace_bind_of_finished ho]
    simp only
    rw [trace_bind_of_finished hps, Backends.trace_healthy, if_pos trivial]
    exact congrArg (j.ownProviders.trace ++ ·) (List.append_nil _)

/-- **Probing keeps discipline.** When a plan has been made for a caller whose keys can be looked
up, every probe has been looked up once, in order; a provider was asked for once from every usable
key, as it is; and all instances have been checked once. The caller's own providers are the
instances that pass, in order, and the registered providers were checked, each once, exactly if
there are none. In whatever order the checks of a set end, the same providers pass in the same
order. -/
theorem probes_once (hc : j.caller = some caller)
    (hk : j.services.keyRing? j.settings.probes = some k) (hne : j.reads.selecting ≠ [])
    (capacity : Nat) (cancelled : Bool) (schedule : List Act)
    {report : Except GatewayError (List Provider)}
    (hdone : ((Machine.start j.plan cancelled).run capacity schedule).course = .done report) :
    ∃ selected own, j.pick.outcome = .finished (.ok selected) ∧
      j.ownProviders.outcome = .finished own ∧
      own = (k.instances caller).filter j.backends.passes ∧
      report = .ok (attemptOrder j.settings.strictSelection selected
        ⟨eligible own (j.reads.probing.filter j.backends.passes), !own.isEmpty⟩) ∧
      ((k.instances caller).Nodup ∧ (k.instances caller).map (·.toProfile) =
        k.probes.filterMap fun name =>
          (KeyRing.usableKey (k.keys caller name)).bind (k.factory name)) ∧
      k.Probed caller (k.instances caller ++ if own = [] then j.reads.probing else [])
        ((Machine.start j.plan cancelled).run capacity schedule).events ∧
      (∀ order : List Nat, (∀ n < (k.instances caller).length, n ∈ order) →
        ((Checkup.start (k.instances caller)).run j.backends order).isOver = true ∧
          ((Checkup.start (k.instances caller)).run j.backends order).healthy = own) ∧
      (own = [] → ∀ order : List Nat, (∀ n < j.reads.probing.length, n ∈ order) →
        ((Checkup.start j.reads.probing).run j.backends order).isOver = true ∧
          ((Checkup.start j.reads.probing).run j.backends order).healthy =
            j.reads.probing.filter j.backends.passes) := by
  obtain ⟨h, hf⟩ := Machine.run_follows_of_quiet capacity j.prepares_plan.quiet cancelled schedule
  rcases hf.ended (.finished report) (by rw [hdone]; rfl) with ⟨hout, hlog⟩ | ⟨hi, -⟩
  · have hevents : ((Machine.start j.plan cancelled).run capacity schedule).events =
        j.plan.trace := by
      rw [hf.bears.events_eq, ← hlog]
      rfl
    obtain ⟨selected, available, hs, ha, hreport, htrace⟩ := plan_cases hne hout
    obtain ⟨own, ho, hserver, rfl, htrace'⟩ := available_cases ha
    rw [ownProviders_eq hc hk] at htrace'
    obtain ⟨ps, hps, hown⟩ := outcome_bind_eq_finished (ownProviders_eq hc hk ▸ ho)
    obtain rfl : k.instances caller = ps := by
      rw [KeyRing.outcome_buildAll] at hps
      exact Ending.finished.inj hps
    refine ⟨selected, own, hs, ho, (Backends.healthy_eq hown).1, hreport,
      ⟨(k.nodup_instancesFrom caller 0 k.probes).1, k.instancesFrom_toProfile caller 0 k.probes⟩,
      KeyRing.probed_of_events j.pick_probes_nothing ?_,
      fun order hall => Checkup.run_of_healthy _ _ hall hown,
      fun hnil order hall => Checkup.run_of_healthy _ _ hall (hserver hnil)⟩
    rw [hevents, htrace, htrace', KeyRing.trace_resolve, List.map_append, List.append_assoc]
  · cases hi

end Job

/-! ## A caller with keys of all sorts -/

/-- The keys of that caller: one is blank, one is missing, and one is for no provider that can be
built. -/
def patchyKeys : KeyRing where
  probes := ["first", "blank", "sick", "missing", "unknown", "last"]
  keys := fun _ name =>
    .value (if name = "missing" then none else if name = "blank" then some " " else some "key")
  factory := fun name _ => if name = "unknown" then none else some { name, models := [] }

/-- A provider built from one of those keys. -/
def patchyOwn (name : String) (serial : Nat) : Provider :=
  ⟨{ name, models := [] }, .built name "key" serial⟩

/-- The instances built for that caller. -/
def patchyInstances : List Provider := [patchyOwn "first" 0, patchyOwn "sick" 1, patchyOwn "last" 2]

/-- The request of that caller. The check of one instance does not come out well. -/
def patchyJob : Job :=
  { twinJob with
    settings := { twinJob.settings with probes := patchyKeys.probes, strictSelection := false }
    services := { keys := some patchyKeys.keys, factory := some patchyKeys.factory }
    backends :=
      { twinJob.backends with
        health := fun p => .now (if p.name = "sick" then .error (.remote "down") else .ok ()) } }

/-- Two instances pass, in whatever order the checks end, and nobody else is checked. -/
theorem patchy_keys_are_probed :
    patchyJob.services.keyRing? patchyJob.settings.probes = some patchyKeys ∧
      patchyJob.reads.selecting ≠ [] ∧
      ((Machine.start patchyJob.plan).run 1 (List.replicate 20 .work)).course =
        .done (.ok [patchyOwn "first" 0, patchyOwn "last" 2]) ∧
      patchyKeys.Probed ⟨0⟩ patchyInstances
        ((Machine.start patchyJob.plan).run 1 (List.replicate 20 .work)).events ∧
      ((Checkup.start patchyInstances).run patchyJob.backends [2, 0, 1]).healthy =
        [patchyOwn "first" 0, patchyOwn "last" 2] := by
  have hk : patchyJob.services.keyRing? patchyJob.settings.probes = some patchyKeys := rfl
  have hne : patchyJob.reads.selecting ≠ [] := by decide
  have hdone : ((Machine.start patchyJob.plan).run 1 (List.replicate 20 .work)).course =
      .done (.ok [patchyOwn "first" 0, patchyOwn "last" 2]) := rfl
  obtain ⟨selected, own, -, -, hown, -, -, hprobed, horder, -⟩ :=
    Job.probes_once (j := patchyJob) rfl hk hne 1 false (List.replicate 20 .work) hdone
  obtain rfl : [patchyOwn "first" 0, patchyOwn "last" 2] = own := hown.symm
  exact ⟨hk, hne, hdone, hprobed, (horder [2, 0, 1] (by decide)).2⟩

end ChatGateway
