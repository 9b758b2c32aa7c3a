import ChatGateway.Gateway.Registry
import ChatGateway.Proofs.Gateway.Grounds

/-!
# Snapshots of the registry

A request reads the registry when it picks a provider and again when it looks for those that may be
tried, and providers may be registered in between, under new names or in place of others. Still no
name stands twice on a plan without providers of the caller's own (`Job.names_once`): a registry
holds one provider for each name (`Registry.Sound`), and the pick is left out where somebody of its
name stands in for it. So nobody is asked twice either, since attempts follow the plan
(`Job.route_follows_plan`, `Job.stream_follows_plan`).
-/

namespace ChatGateway

open Course

/-! ## Sound registries -/

namespace Registry

/-- Every provider stands under its own name, and no name stands twice. -/
structure Sound (r : Registry) : Prop where
  nodup : r.names.Nodup
  named : ∀ name p, (name, p) ∈ r.entries → p.name = name

theorem sound_empty : ({} : Registry).Sound := ⟨List.nodup_nil, fun _ _ h => nomatch h⟩

variable {r : Registry} {p : Provider}

theorem names_register (r : Registry) (p : Provider) :
    (r.register p).names = if p.name ∈ r.names then r.names else r.names ++ [p.name] :=
  InsertionMap.names_put r.entries p.name p

theorem Sound.register (h : r.Sound) (p : Provider) : (r.register p).Sound where
  nodup := by
    rw [names_register]
    split
    · exact h.nodup
    · rename_i hnew
      refine List.nodup_append.2 ⟨h.nodup, by simp, fun name hname other hother => ?_⟩
      rw [List.mem_singleton] at hother
      rintro rfl
      exact hnew (hother ▸ hname)
  named name q hq := by
    rcases InsertionMap.mem_put hq with ⟨rfl, rfl⟩ | hq
    · rfl
    · exact h.named name q hq

theorem Sound.map_name (h : r.Sound) : r.providers.map (·.name) = r.names := by
  change (r.entries.map (·.2)).map (·.name) = r.entries.map (·.1)
  rw [List.map_map]
  exact List.map_congr_left fun entry hentry => h.named entry.1 entry.2 hentry

theorem Sound.get?_of_mem (h : r.Sound) (hp : p ∈ r.providers) : r.get? p.name = some p := by
  obtain ⟨⟨name, q⟩, hq, rfl⟩ := List.mem_map.1 hp
  rw [h.named name q hq]
  exact InsertionMap.get?_of_mem h.nodup hq

end Registry

/-! ## A request among others who register providers -/

/-- Something that is done to the registry, or read of it, in one piece. -/
inductive RegistryTurn where
  | register (p : Provider)
  /-- The request takes a snapshot. -/
  | read
deriving DecidableEq, Repr

/-- A registry, with the snapshots that a request has taken of it. -/
structure RegistryReader where
  registry : Registry := {}
  snapshots : List Registry := []

namespace RegistryReader

/-- One turn. -/
def step (s : RegistryReader) : RegistryTurn → RegistryReader
  | .register p => { s with registry := s.registry.register p }
  | .read => { s with snapshots := s.snapshots ++ [s.registry] }

/-- The turns of all parties, in the order in which they come. -/
def run (s : RegistryReader) (turns : List RegistryTurn) : RegistryReader := turns.foldl step s

/-- The registry is sound, and so was every snapshot. -/
structure Sound (s : RegistryReader) : Prop where
  registry : s.registry.Sound
  snapshots : ∀ r ∈ s.snapshots, r.Sound

theorem Sound.step {s : RegistryReader} (h : s.Sound) (t : RegistryTurn) : (s.step t).Sound := by
  cases t with
  | register p => exact ⟨h.registry.register p, h.snapshots⟩
  | read =>
    refine ⟨h.registry, fun r hr => ?_⟩
    rcases List.mem_append.1 hr with hr | hr
    · exact h.snapshots r hr
    · exact List.mem_singleton.1 hr ▸ h.registry

theorem sound_run (turns : List RegistryTurn) : (({} : RegistryReader).run turns).Sound := by
  induction turns using List.reverseRecOn with
  | nil => exact ⟨Registry.sound_empty, fun _ hr => nomatch hr⟩
  | append_singleton turns t ih =>
    have hrun : ({} : RegistryReader).run (turns ++ [t]) =
        (({} : RegistryReader).run turns).step t := List.foldl_append
    rw [hrun]
    exact ih.step t

end RegistryReader

/-! ## Names on a plan -/

/-- Without providers of the caller's own no name stands twice on a plan, if none does among the
healthy ones. -/
theorem PlanFor.names {strict : Bool} {healthy plan : List Provider} {pick : Provider}
    (h : PlanFor strict [] healthy pick plan) (hnames : (healthy.map (·.name)).Nodup) :
    (plan.map (·.name)).Nodup ∧ plan.head?.map (·.name) = some pick.name ∧
      ∀ p ∈ plan, p = pick ∨ p ∈ healthy := by
  cases h with
  | @standIn before after p heq hname _ =>
    obtain rfl : healthy = before ++ p :: after := heq
    have hperm : (p :: (before ++ after)).Perm (before ++ p :: after) := List.perm_middle.symm
    exact ⟨(hperm.map _).nodup_iff.2 hnames, congrArg some hname,
      fun q hq => .inr (hperm.mem_iff.1 hq)⟩
  | alone _ _ => exact ⟨by simp, rfl, fun q hq => .inl (List.mem_singleton.1 hq)⟩
  | ownOnly _ _ hne => exact absurd rfl hne
  | pickFirst hnone _ _ =>
    refine ⟨List.nodup_cons.2 ⟨fun hmem => ?_, hnames⟩, rfl, fun q hq => List.mem_cons.1 hq⟩
    obtain ⟨q, hq, hname⟩ := List.mem_map.1 hmem
    exact hnone q hq hname

/-! ## Attempts follow the plan -/

namespace Job

variable {j : Job} {p : Provider}

/-- Up to some moment at most these attempts are made after some marks. -/
def Follows (call : Provider → Call) (ps : List Provider) (h s : List Mark) : Prop :=
  Mark.attempts s <+: Mark.attempts h ++ ps.map fun p => .called (call p)

theorem follows_of_eq {call : Provider → Call} {ps : List Provider} {h s : List Mark}
    (hs : Mark.attempts s = Mark.attempts h) : Follows call ps h s := by
  rw [Follows, hs]
  exact List.prefix_append _ _

/-- Only the attempts that were made before matter. -/
theorem follows_congr (call : Provider → Call) (ps : List Provider) {h h' : List Mark}
    (hh : Mark.attempts h = Mark.attempts h') : Follows call ps h = Follows call ps h' := by
  funext s
  rw [Follows, Follows, hh]

/-- After the first one the others follow. -/
theorem Follows.cons {call : Provider → Call} {ps : List Provider} {h s t : List Mark}
    (hs : Mark.attempts s = Mark.attempts h ++ [.called (call p)]) (ht : Follows call ps s t) :
    Follows call (p :: ps) h t := by
  rw [Follows, hs, List.append_assoc] at ht
  exact ht

/-- An attempt at a whole answer is seen as a call and a sample, as far as it comes. -/
theorem trace_tryOne_prefix (j : Job) (p : Provider) :
    (j.tryOne p).trace <+: j.attemptEvents p := by
  have hcall : (j.backends.callChat p).log = [.seen (.called (.chat p))] :=
    congrArg _ (log_await _)
  have hsample (r : Except ProviderError ChatResponse) :
      Mark.events (j.sample p >>= fun _ => pure r).log <+:
        [.sampled p.name (j.backends.elapsed p)] := by
    rcases j.sample_cases p with ⟨ho, hl⟩ | ⟨cause, ho, hl⟩
    · rw [log_bind_of_finished ho, hl]
      exact List.prefix_refl _
    · rw [(bind_of_faulted ho).2, hl]
      exact List.nil_prefix
  rw [tryOne, trace, log_bind, hcall, Mark.events_append]
  refine (List.prefix_cons_inj _).2 ?_
  cases (j.backends.callChat p).outcome with
  | finished r => exact hsample r
  | _ => exact List.nil_prefix

/-- Whatever comes of it, the provider is asked once. -/
theorem follows_of_prefix_tryOne {h s : List Mark} (hs : s <+: (j.tryOne p).log)
    (rest : List Provider) : Follows .chat (p :: rest) h (h ++ s) := by
  have hevents : Mark.events s <+: j.attemptEvents p :=
    (hs.filterMap _).trans (j.trace_tryOne_prefix p)
  have hattempts : Mark.attempts s <+: [.called (.chat p)] := hevents.filter _
  rw [Follows, Mark.attempts_append, List.prefix_append_right_inj]
  exact hattempts.trans ⟨_, rfl⟩

theorem attempt_follows (ps : List Provider) (attempts : Nat) (last : Option ProviderError)
    (h : List Mark) :
    (j.attempt attempts last ps).Ensures (fun _ => Follows .chat ps h)
      (fun _ => Follows .chat ps h) h := by
  induction ps generalizing attempts last h with
  | nil => exact follows_of_eq rfl
  | cons p rest ih =>
    refine ⟨follows_of_eq rfl, follows_of_eq rfl, ?_⟩
    rw [ensures_bind]
    refine (j.quiet_tryOne p).ensures (fun _ s hs => follows_of_prefix_tryOne hs rest)
      fun result hresult => ?_
    obtain ⟨hone, -⟩ := attempts_tryOne hresult
    have hasked : Mark.attempts (h ++ (j.tryOne p).log) =
        Mark.attempts h ++ [.called (.chat p)] := by rw [Mark.attempts_append, hone]
    cases result with
    | ok response => exact .cons hasked (follows_of_eq rfl)
    | error e =>
      exact (ih (attempts + 1) (some e) (h ++ (j.tryOne p).log)).mono
        (fun _ _ => .cons hasked) fun _ _ => .cons hasked

theorem streamAttempt_follows (ps : List Provider) (attempts : Nat) (last : Option ProviderError)
    (h : List Mark) :
    (j.streamAttempt attempts last ps).Ensures (fun _ => Follows .stream ps h)
      (fun _ => Follows .stream ps h) h := by
  induction ps generalizing attempts last h with
  | nil => exact follows_of_eq rfl
  | cons p rest ih =>
    rw [streamAttempt_cons, ensures_bind]
    refine (j.relayFrom_keeps p h).mono (fun _ s hs => ?_) fun ending s ⟨hs, _⟩ => ?_
    · rcases hs with rfl | hs
      · exact follows_of_eq rfl
      · exact .cons (Mark.attempts_of_events hs) (follows_of_eq rfl)
    · have hasked : Mark.attempts s = Mark.attempts h ++ [.called (.stream p)] :=
        Mark.attempts_of_events hs
      have hsampled : Mark.attempts (s ++ [.seen (.sampled p.name (j.backends.elapsed p))]) =
          Mark.attempts h ++ [.called (.stream p)] := by
        rw [Mark.attempts_append, hasked]
        exact List.append_nil _
      have ended : Follows .stream (p :: rest) h
          (s ++ [.seen (.sampled p.name (j.backends.elapsed p))]) :=
        .cons hsampled (follows_of_eq rfl)
      rw [ensures_bind]
      refine j.sample_leaves p (fun _ => .cons hasked (follows_of_eq rfl)) ?_
      rcases j.afterRelay_cases attempts p rest ending with ⟨r, hr⟩ | ⟨e, rfl, hr⟩
      · rw [hr]
        exact ended
      · rw [hr]
        exact (ih (attempts + 1) (some e) _).mono (fun _ _ => .cons hsampled)
          fun _ _ => .cons hsampled

theorem streamWhole_follows (p : Provider) (h : List Mark) :
    (j.streamWhole p).Ensures (fun _ => Follows .chat [p] h) (fun _ => Follows .chat [p] h) h := by
  rw [streamWhole, ensures_bind]
  refine (j.quiet_tryOne p).ensures (fun _ s hs => follows_of_prefix_tryOne hs [])
    fun result _ => ?_
  have hasked : Follows .chat [p] h (h ++ (j.tryOne p).log) :=
    follows_of_prefix_tryOne (List.prefix_refl _) []
  cases result with
  | error e => exact hasked
  | ok response =>
    have sent (mark : Mark) (hm : Mark.attempts [mark] = []) :
        Follows .chat [p] h (h ++ (j.tryOne p).log ++ [mark]) := by
      rw [Follows, Mark.attempts_append, hm, List.append_nil]
      exact hasked
    exact ⟨hasked, hasked, sent _ rfl, sent _ rfl⟩

theorem streamAlong_follows (cs : List Provider) : ∃ call, ∀ h,
    (j.streamAlong cs).Ensures (fun _ => Follows call cs h) (fun _ => Follows call cs h) h := by
  cases cs with
  | nil => exact ⟨.stream, fun h => follows_of_eq rfl⟩
  | cons first rest =>
    have longer {call : Provider → Call} {h s : List Mark} (hs : Follows call [first] h s) :
        Follows call (first :: rest) h s :=
      hs.trans ((List.prefix_append_right_inj _).2 ⟨_, rfl⟩)
    simp only [streamAlong]
    split
    · exact ⟨.chat, fun h =>
        (streamWhole_follows first h).mono (fun _ _ => longer) fun _ _ => longer⟩
    · refine ⟨.stream, fun h => ?_⟩
      split
      · exact (streamAttempt_follows [first] 0 none h).mono (fun _ _ => longer) fun _ _ => longer
      · exact streamAttempt_follows (first :: rest) 0 none h

theorem run_follows_of_ensures {α : Type} {c : Course α} (call : Provider → Call)
    {cs : List Provider}
    (hc : c.Ensures (fun _ => Follows call cs []) (fun _ => Follows call cs []) [])
    (capacity : Nat) (cancelled : Bool) (schedule : List Act) :
    ((Machine.start c cancelled).run capacity schedule).events.filter Event.isAttempt <+:
      cs.map fun p => .called (call p) := by
  obtain ⟨h, hb, hm⟩ := Machine.run_ensures hc capacity cancelled schedule
  rw [hb.events_eq]
  split at hm <;> exact hm

section Plan

variable {cs : List Provider} (hplan : j.plan.outcome = .finished (.ok cs))
include hplan

/-- **The attempts of a request follow its plan.** -/
theorem route_follows_plan (capacity : Nat) (cancelled : Bool) (schedule : List Act) :
    ((Machine.start j.route cancelled).run capacity schedule).events.filter Event.isAttempt <+:
      cs.map fun p => .called (.chat p) := by
  refine run_follows_of_ensures .chat ?_ capacity cancelled schedule
  have hnone := j.prepares_plan.attempts
  rw [route, ensures_bind]
  refine j.prepares_plan.quiet.shield.ensures (fun _ s hs => ?_) fun result hresult => ?_
  · rw [log_shield] at hs
    have hattempts : Mark.attempts s <+: Mark.attempts j.plan.log := (hs.filterMap _).filter _
    rw [hnone, List.prefix_nil] at hattempts
    exact follows_of_eq hattempts
  · rw [outcome_shield, hplan] at hresult
    cases hresult
    rw [log_shield, List.nil_append]
    have hsame : Mark.attempts j.plan.log = Mark.attempts [] := hnone
    have hattempt := attempt_follows (j := j) cs 0 none j.plan.log
    rwa [follows_congr .chat cs hsame] at hattempt

/-- So do those of a request for a stream, each at a stream, or the only one at a whole answer. -/
theorem stream_follows_plan : ∃ call : Provider → Call, ∀ (capacity : Nat) (cancelled : Bool)
    (schedule : List Act),
    ((Machine.start j.stream cancelled).run capacity schedule).events.filter Event.isAttempt <+:
      cs.map fun p => .called (call p) := by
  obtain ⟨call, hcall⟩ := streamAlong_follows (j := j) cs
  refine ⟨call, run_follows_of_ensures call ?_⟩
  have hnone := j.prepares_plan.filter_isAttempt
  refine stream_ensures_of_plan hplan (fun _ s _ hevents => ?_) fun h hevents _ => ?_
  · have hattempts := hevents.filter Event.isAttempt
    rw [hnone, List.prefix_nil] at hattempts
    exact follows_of_eq hattempts
  · have hh : Mark.attempts h = Mark.attempts [] := by
      rw [Mark.attempts, hevents, hnone]
      rfl
    have halong := hcall h
    rwa [follows_congr call cs hh] at halong

end Plan

/-! ## Nobody is asked twice -/

/-- **No name stands twice.** Let a request take two snapshots of the registry while providers are
registered, pick from the first and look for healthy ones in the second, and let the caller have no
providers of their own. Then the names on its plan are distinct, the first one is that of the pick,
and every provider on it stood under its name in one of the snapshots. So no name is attempted twice
in any run. -/
theorem names_once {turns : List RegistryTurn} {first second : Registry}
    (hread : (({} : RegistryReader).run turns).snapshots = [first, second])
    (hselecting : j.reads.selecting = first.providers)
    (hprobing : j.reads.probing = second.providers)
    (hown : j.ownProviders.outcome = .finished []) {cs : List Provider}
    (hplan : j.plan.outcome = .finished (.ok cs)) :
    (cs.map (·.name)).Nodup ∧
    (∀ p ∈ cs, first.get? p.name = some p ∨ second.get? p.name = some p) ∧
    (∃ pick, j.pick.outcome = .finished (.ok pick) ∧
      cs.head?.map (·.name) = some pick.name) ∧
    ∀ (capacity : Nat) (cancelled : Bool) (schedule : List Act),
      (∃ asked : List Provider, (asked.map (·.name)).Nodup ∧
        ((Machine.start j.route cancelled).run capacity schedule).events.filter Event.isAttempt =
          asked.map fun p => .called (.chat p)) ∧
      ∃ (asked : List Provider) (call : Provider → Call), (asked.map (·.name)).Nodup ∧
        ((Machine.start j.stream cancelled).run capacity schedule).events.filter Event.isAttempt =
          asked.map fun p => .called (call p) := by
  have hsound := RegistryReader.sound_run turns
  have hfirst : first.Sound := hsound.snapshots first (by simp [hread])
  have hsecond : second.Sound := hsound.snapshots second (by simp [hread])
  obtain ⟨pick, available, hpick, ha, rfl⟩ := plan_eq_ok hplan
  obtain ⟨ps, hps, rfl⟩ : ∃ ps, (j.backends.healthy j.reads.probing).outcome = .finished ps ∧
      available = ⟨ps, false⟩ := by
    rcases available_eq ha with ⟨own, ho, hne, -⟩ | ⟨-, h⟩
    · rw [hown] at ho
      exact absurd (Ending.finished.inj ho).symm hne
    · exact h
  obtain ⟨rfl, -⟩ := Backends.healthy_eq hps
  have hsub : (j.reads.probing.filter j.backends.passes).Sublist second.providers :=
    hprobing ▸ List.filter_sublist
  have hnames : ((j.reads.probing.filter j.backends.passes).map (·.name)).Nodup := by
    refine (hsub.map _).nodup ?_
    rw [hsecond.map_name]
    exact hsecond.nodup
  obtain ⟨hnodup, hhead, hmem⟩ := (planFor_attemptOrder j.settings.strictSelection []
    (j.reads.probing.filter j.backends.passes) pick).names hnames
  have asked {call : Provider → Call} {events : List Event} {order : List Provider}
      (horder : (order.map (·.name)).Nodup)
      (hevents : events <+: order.map fun p => .called (call p)) :
      ∃ asked : List Provider, (asked.map (·.name)).Nodup ∧
        events = asked.map fun p => .called (call p) := by
    obtain ⟨asked, hasked, rfl⟩ := List.prefix_map_iff.1 hevents
    exact ⟨asked, (hasked.map _).sublist.nodup horder, rfl⟩
  refine ⟨hnodup, fun p hp => ?_, ⟨pick, hpick, hhead⟩, fun capacity cancelled schedule => ⟨?_, ?_⟩⟩
  · rcases hmem p hp with rfl | hp
    · exact .inl (hfirst.get?_of_mem (hselecting ▸ mem_of_pick hpick))
    · exact .inr (hsecond.get?_of_mem (hsub.subset hp))
  · exact asked hnodup (route_follows_plan hplan capacity cancelled schedule)
  · obtain ⟨call, hcall⟩ := stream_follows_plan hplan
    obtain ⟨order, horder, heq⟩ := asked hnodup (hcall capacity cancelled schedule)
    exact ⟨order, call, horder, heq⟩

end Job

/-! ## A provider that is replaced while it is picked -/

/-- A provider of a name, by the order of registration. -/
def freshProvider (name : String) (serial : Nat) : Provider :=
  ⟨{ name, models := [] }, .server serial⟩

/-- Two providers are registered; once the request has picked the first of them it is replaced, and
another one comes. -/
def freshTurns : List RegistryTurn :=
  [.register (freshProvider "a" 0), .register (freshProvider "b" 1), .read,
    .register (freshProvider "a" 2), .register (freshProvider "c" 3), .read]

/-- The registry when the request picks. -/
def freshBefore : Registry :=
  (({} : Registry).register (freshProvider "a" 0)).register (freshProvider "b" 1)

/-- The registry when the request looks for those that may be tried. -/
def freshAfter : Registry :=
  (freshBefore.register (freshProvider "a" 2)).register (freshProvider "c" 3)

/-- A request that reads the two registries. The check of one provider does not come out well. -/
def freshJob (sick : String) : Job :=
  { brokenJob 100 with
    backends :=
      { (brokenJob 100).backends with
        health := fun p => .now (if p.name = sick then .error (.remote "down") else .ok ()) }
    reads :=
      { (brokenJob 100).reads with
        selecting := freshBefore.providers, probing := freshAfter.providers } }

/-- If the pick is not healthy any more it is tried as it was, and nobody else of its name. -/
theorem stale_pick_comes_once :
    (({} : RegistryReader).run freshTurns).snapshots = [freshBefore, freshAfter] ∧
      (freshJob "a").ownProviders.outcome = .finished [] ∧
      (freshJob "a").plan.outcome = .finished
        (.ok [freshProvider "a" 0, freshProvider "b" 1, freshProvider "c" 3]) ∧
      ([freshProvider "a" 0, freshProvider "b" 1, freshProvider "c" 3].map (·.name)).Nodup ∧
      ∀ p ∈ [freshProvider "a" 0, freshProvider "b" 1, freshProvider "c" 3],
        freshBefore.get? p.name = some p ∨ freshAfter.get? p.name = some p := by
  have hread : (({} : RegistryReader).run freshTurns).snapshots = [freshBefore, freshAfter] := rfl
  have hown : (freshJob "a").ownProviders.outcome = .finished [] := rfl
  have hplan : (freshJob "a").plan.outcome = .finished
      (.ok [freshProvider "a" 0, freshProvider "b" 1, freshProvider "c" 3]) := rfl
  obtain ⟨hnames, hregistered, -, -⟩ := Job.names_once hread rfl rfl hown hplan
  exact ⟨hread, hown, hplan, hnames, hregistered⟩

end ChatGateway
