import ChatGateway.Proofs.Course.Undisturbed

/-!
# Runs and the undisturbed course

As long as the receiver stays, the marks of a run are a beginning of those of the undisturbed run,
whatever the schedule and wherever a cancellation falls (`Machine.run_follows`). A course that sends
nothing also comes to its ending, under every schedule that lets it work often enough
(`Course.Quiet.settles`).
-/

namespace ChatGateway

namespace Machine

variable {α : Type}

/-- A machine keeps to the log of a course: its marks are a beginning of the log, and unless it is
called off it ends as the course does. -/
structure Follows (m : Machine α) (c : Course α) (h : List Mark) : Prop where
  bears : m.Bears h
  log_prefix : h <+: c.log
  ended : ∀ e, m.course.ending? = some e →
    c.outcome = e ∧ c.log = h ∨ e = .interrupted ∧ m.cancelled = true

theorem follows_of_trail {m : Machine α} {c d : Course α} {h : List Mark} (ht : c.Trail h d)
    (hr : Mark.refused ∉ h) (hb : m.Bears h)
    (hm : m.rest = d ∨ m.course = .interrupted ∧ m.cancelled = true ∧ d.Breakable) :
    m.Follows c h := by
  obtain ⟨hl, ho⟩ := ht.log hr
  refine ⟨hb, ⟨d.log, hl.symm⟩, fun e he => ?_⟩
  rcases hm with rfl | ⟨hi, hx, -⟩
  · have hrest : m.rest = m.course :=
      rest_of_not_ask rfl fun q s next hc => by simp [hc, Course.ending?] at he
    rw [hrest] at hl ho
    obtain ⟨hl', ho'⟩ := Course.log_of_ending he
    exact .inl ⟨ho.trans ho', by simpa [hl'] using hl⟩
  · rw [hi] at he
    exact .inr ⟨(Option.some.inj he).symm, hx⟩

/-- **Runs keep to the log.** As long as the receiver stays, the marks of a run are a beginning of
those of the undisturbed run, whatever the schedule. -/
theorem run_follows (capacity : Nat) (c : Course α) (cancelled : Bool) {schedule : List Act}
    (hd : Act.drop ∉ schedule) : ∃ h, ((start c cancelled).run capacity schedule).Follows c h := by
  obtain ⟨h, d, ht, hb, hm⟩ := run_trail capacity c cancelled schedule
  exact ⟨h, follows_of_trail ht (hb.chunks_eq (run_receiving hd)).2 hb hm⟩

/-- Where nothing is sent it makes no difference whether the receiver stays. -/
theorem run_follows_of_quiet (capacity : Nat) {c : Course α} (hc : c.Quiet) (cancelled : Bool)
    (schedule : List Act) : ∃ h, ((start c cancelled).run capacity schedule).Follows c h := by
  obtain ⟨h, d, ht, hb, hm⟩ := run_trail capacity c cancelled schedule
  exact ⟨h, follows_of_trail ht (ht.quiet hc).2 hb hm⟩

/-- All events of a run of a quiet course are those of the undisturbed run. -/
theorem events_prefix_trace (capacity : Nat) {c : Course α} (hc : c.Quiet) (cancelled : Bool)
    (schedule : List Act) : ((start c cancelled).run capacity schedule).events <+: c.trace := by
  obtain ⟨h, hf⟩ := run_follows_of_quiet capacity hc cancelled schedule
  rw [hf.bears.events_eq]
  exact hf.log_prefix.filterMap _

/-! ## What is received -/

theorem work_received (capacity : Nat) (m : Machine α) :
    (m.work capacity).received = m.received := by
  have hworks := m.works capacity
  generalize m.work capacity = m' at hworks ⊢
  cases hworks <;> rfl

/-- Nothing is received once the receiver has gone away. -/
theorem step_gone {capacity : Nat} {m : Machine α} (h : m.receiving = false) (a : Act) :
    (m.step capacity a).receiving = false ∧ (m.step capacity a).received = m.received := by
  have hsteps := m.steps capacity a
  generalize m.step capacity a = m' at hsteps ⊢
  cases hsteps with
  | work =>
    have hstays : (m.step capacity .work).receiving = m.receiving := step_receiving m (by simp)
    exact ⟨hstays.trans h, work_received capacity m⟩
  | receive _ hr =>
    rw [h] at hr
    cases hr
  | drop => exact ⟨rfl, rfl⟩
  | _ => exact ⟨h, rfl⟩

/-- What a receiver has is what one would have that stays, at some earlier moment. -/
theorem received_of_staying (capacity : Nat) (c : Course α) (cancelled : Bool)
    (schedule : List Act) : ∃ stay, Act.drop ∉ stay ∧
      ((start c cancelled).run capacity schedule).received =
        ((start c cancelled).run capacity stay).received ∧
      (((start c cancelled).run capacity schedule).receiving = true → stay = schedule) := by
  induction schedule using List.reverseRecOn with
  | nil => exact ⟨[], by simp, rfl, fun _ => rfl⟩
  | append_singleton schedule a ih =>
    obtain ⟨stay, hd, heq, hstay⟩ := ih
    rw [run_append_singleton]
    cases hr : ((start c cancelled).run capacity schedule).receiving with
    | false =>
      obtain ⟨hg, hrec⟩ := step_gone hr a
      exact ⟨stay, hd, hrec.trans heq, fun ht => by simp [hg] at ht⟩
    | true =>
      obtain rfl := hstay hr
      by_cases ha : a = .drop
      · subst ha
        exact ⟨stay, hd, rfl, fun ht => by simp [step, drop] at ht⟩
      · refine ⟨stay ++ [a], ?_, by rw [run_append_singleton], fun _ => rfl⟩
        rw [List.mem_append, List.mem_singleton]
        rintro (h | h)
        · exact hd h
        · exact ha h.symm

/-- **What is received** is a beginning of what an undisturbed run sends, whatever the schedule. -/
theorem received_prefix_output (capacity : Nat) (c : Course α) (cancelled : Bool)
    (schedule : List Act) :
    ((start c cancelled).run capacity schedule).received <+: c.output := by
  obtain ⟨stay, hd, heq, -⟩ := received_of_staying capacity c cancelled schedule
  obtain ⟨h, hf⟩ := run_follows capacity c cancelled hd
  rw [heq]
  exact hf.bears.received_prefix.trans (hf.log_prefix.filterMap _)

/-- What is on its way to a receiver that goes away is lost. -/
theorem step_gone_queue {capacity : Nat} {m : Machine α} (h : m.receiving = false → m.queue = [])
    (a : Act) (hr : (m.step capacity a).receiving = false) :
    (m.step capacity a).queue = [] := by
  have hsteps := m.steps capacity a
  generalize m.step capacity a = m' at hsteps hr ⊢
  cases hsteps with
  | work =>
    have hworks := m.works capacity
    generalize m.work capacity = m' at hworks hr ⊢
    cases hworks with
    | send _ _ hstays _ =>
      change m.receiving = false at hr
      rw [hr] at hstays
      cases hstays
    | _ => exact h hr
  | receive _ hstays =>
    change m.receiving = false at hr
    rw [hr] at hstays
    cases hstays
  | drop => rfl
  | _ => exact h hr

theorem run_gone_queue (capacity : Nat) (c : Course α) (cancelled : Bool) (schedule : List Act) :
    ((start c cancelled).run capacity schedule).receiving = false →
      ((start c cancelled).run capacity schedule).queue = [] :=
  run_induction (p := fun m => m.receiving = false → m.queue = []) (fun _ => rfl)
    (fun _ a hm => step_gone_queue hm a) schedule

/-- What has been sent, as far as it was not lost, was sent by the course. -/
theorem Bears.chunks_ne_nil {m : Machine α} {h : List Mark} (hb : m.Bears h)
    (hg : m.receiving = false → m.queue = []) (hs : m.received ≠ [] ∨ m.queue ≠ []) :
    Mark.chunks h ≠ [] := by
  intro hnil
  have hreceived : m.received = [] := by simpa [hnil] using hb.received_prefix
  have hqueue : m.queue ≠ [] := hs.resolve_left fun h => h hreceived
  cases hr : m.receiving with
  | false => exact hqueue (hg hr)
  | true =>
    have hchunks := (hb.chunks_eq hr).1
    rw [hnil, List.append_eq_nil_iff] at hchunks
    exact hqueue hchunks.2

/-! ## Events remain -/

theorem events_prefix_step (capacity : Nat) (m : Machine α) (a : Act) :
    m.events <+: (m.step capacity a).events := by
  have hsteps := m.steps capacity a
  generalize m.step capacity a = m' at hsteps ⊢
  cases hsteps with
  | work =>
    have hworks := m.works capacity
    generalize m.work capacity = m' at hworks ⊢
    cases hworks with
    | emit _ => exact List.prefix_append _ _
    | ask _ _ => exact List.prefix_append _ _
    | _ => exact List.prefix_refl _
  | _ => exact List.prefix_refl _

theorem events_prefix_run (capacity : Nat) (m : Machine α) (schedule : List Act) :
    m.events <+: (m.run capacity schedule).events :=
  run_induction (p := fun m' => m.events <+: m'.events) (List.prefix_refl _)
    (fun m' a hm => hm.trans (events_prefix_step capacity m' a)) schedule

/-! ## Coming to an end -/

/-- A bound for the work that a course still takes: at most two acts a node. -/
def span : Course α → Nat
  | .done _ => 0
  | .interrupted => 0
  | .fault _ => 0
  | .emit _ next => span next + 2
  | .ask _ _ next => span next + 2
  | .cancel next => span next + 2
  | .check next => span next + 2
  | .pause _ next => span next + 2
  | .stall _ => 0
  | .send _ next _ => span next + 2

/-- The work left to a machine; to have begun to wait counts as done. -/
def toGo (m : Machine α) : Nat := span m.course - if m.waiting then 1 else 0

theorem ending_of_toGo {m : Machine α} (h : m.toGo = 0) : ∃ e, m.course.ending? = some e := by
  unfold toGo at h
  cases hc : m.course <;> rw [hc] at h
  case done a => exact ⟨.finished a, rfl⟩
  case interrupted => exact ⟨.interrupted, rfl⟩
  case fault cause => exact ⟨.faulted cause, rfl⟩
  case stall shielded => exact ⟨.stalled, rfl⟩
  all_goals
    simp only [span] at h
    split at h <;> omega

/-- Work gets a course on, unless it is cancelled or there is no room for its chunk. -/
theorem work_shrinks {capacity : Nat} {m : Machine α} (hx : m.cancelled = false)
    (hroom : ∀ chunk next refused, m.course = .send chunk next refused →
      m.receiving = true ∧ m.queue.length < capacity) :
    (m.work capacity).toGo ≤ m.toGo - 1 := by
  have on {m' : Machine α} {next : Course α} (hs : span m.course = span next + 2)
      (hgo : m'.toGo = span next) : m'.toGo ≤ m.toGo - 1 := by
    rw [hgo, toGo, hs]
    split <;> omega
  have wait {m' : Machine α} (hgo : m'.toGo = span m.course - 1) (hw : m.waiting = false) :
      m'.toGo ≤ m.toGo - 1 := by
    rw [hgo]
    simp [toGo, hw]
  have hworks := m.works capacity
  generalize m.work capacity = m' at hworks ⊢
  cases hworks with
  | breaks _ hx' _ => simp [hx] at hx'
  | ended ho =>
    have hs : span m.course = 0 := by
      cases hc : m.course <;> simp_all [span, Course.isOver]
    simp [toGo, hs]
  | emit hc => exact on (by rw [hc]; rfl) rfl
  | ask _ hw => exact wait rfl hw
  | asked hc _ _ => exact on (by rw [hc]; rfl) rfl
  | cancel hc => exact on (by rw [hc]; rfl) rfl
  | check hc _ => exact on (by rw [hc]; rfl) rfl
  | stop _ hx' => simp [hx] at hx'
  | pause _ hw => exact wait rfl hw
  | paused hc _ _ => exact on (by rw [hc]; rfl) rfl
  | stall hc _ => simp [toGo, hc, span]
  | send hc _ _ _ => exact on (by rw [hc]; rfl) rfl
  | refuse hc _ hr => simp [(hroom _ _ _ hc).1] at hr
  | hold hc _ _ hfull => exact absurd (hroom _ _ _ hc).2 (Nat.not_lt.2 hfull)

theorem quiet_work {capacity : Nat} {m : Machine α} (hq : m.course.Quiet) :
    (m.work capacity).course.Quiet := by
  have hworks := m.works capacity
  generalize m.work capacity = m' at hworks ⊢
  cases hworks with
  | breaks _ _ _ => trivial
  | stop _ _ => trivial
  | _ => simp_all [goOn]

theorem step_course (capacity : Nat) (m : Machine α) {a : Act} (h : a ≠ .work) :
    (m.step capacity a).course = m.course ∧ (m.step capacity a).waiting = m.waiting := by
  have hsteps := m.steps capacity a
  generalize m.step capacity a = m' at hsteps ⊢
  cases hsteps with
  | work => exact absurd rfl h
  | _ => exact ⟨rfl, rfl⟩

theorem run_cancelled {capacity : Nat} {m : Machine α} (h : m.cancelled = true)
    (schedule : List Act) : (m.run capacity schedule).cancelled = true :=
  run_induction (p := fun m => m.cancelled = true) h (fun _ a hm => step_cancelled hm a) schedule

/-- No work changes a machine whose course is over. -/
theorem run_of_over {capacity : Nat} {m : Machine α} (h : m.course.isOver = true) (n : Nat) :
    m.run capacity (List.replicate n .work) = m := by
  induction n with
  | zero => rfl
  | succ n ih =>
    have hwork : m.step capacity .work = m := work_over h
    rw [List.replicate_succ]
    change (m.step capacity .work).run capacity (List.replicate n .work) = m
    rw [hwork, ih]

/-- Every act of work of a schedule counts, whatever comes between. -/
theorem run_shrinks {capacity : Nat} {m : Machine α} {schedule : List Act}
    (hq : m.course.Quiet) (hx : (m.run capacity schedule).cancelled = false) :
    (m.run capacity schedule).toGo ≤ m.toGo - schedule.count .work := by
  induction schedule generalizing m with
  | nil => exact Nat.le_refl _
  | cons a schedule ih =>
    have hm : m.cancelled = false := by
      by_contra hm
      rw [run_cancelled (by simpa using hm)] at hx
      cases hx
    by_cases ha : a = .work
    · subst ha
      have hle : (m.work capacity).toGo ≤ m.toGo - 1 :=
        work_shrinks hm fun _ _ _ hc => by simp [hc] at hq
      have := ih (quiet_work hq) hx
      rw [List.count_cons_self]
      change ((m.work capacity).run capacity schedule).toGo ≤ _
      omega
    · obtain ⟨hc, hw⟩ := step_course capacity m ha
      have hgo : (m.step capacity a).toGo = m.toGo := by rw [toGo, hc, hw, toGo]
      rw [List.count_cons_of_ne (by simpa using ha), ← hgo]
      exact ih (hc ▸ hq) hx

end Machine

/-- However the machine of a course is scheduled, as long as it is not cancelled it goes through
these events in this order and, once it has worked often enough, it has come to this ending. -/
def Course.Settles {α : Type} (c : Course α) (events : List Event) (ending : Ending α) : Prop :=
  ∃ enough : Nat, ∀ (capacity : Nat) (schedule : List Act),
    ((Machine.start c).run capacity schedule).cancelled = false →
      ((Machine.start c).run capacity schedule).events <+: events ∧
        (enough ≤ schedule.count .work →
          ((Machine.start c).run capacity schedule).events = events ∧
            ((Machine.start c).run capacity schedule).course.ending? = some ending)

/-- **A quiet course comes to its ending** under every schedule without cancellation that lets it
work often enough. -/
theorem Course.Quiet.settles {α : Type} {c : Course α} (hc : c.Quiet) :
    c.Settles c.trace c.outcome := by
  refine ⟨Machine.span c, fun capacity schedule hx => ?_⟩
  refine ⟨Machine.events_prefix_trace capacity hc false schedule, fun hn => ?_⟩
  have hgo : ((Machine.start c).run capacity schedule).toGo = 0 := by
    have := Machine.run_shrinks (m := Machine.start c) hc hx
    have hs : (Machine.start c).toGo = Machine.span c := rfl
    omega
  obtain ⟨e, he⟩ := Machine.ending_of_toGo hgo
  obtain ⟨h, hf⟩ := Machine.run_follows_of_quiet capacity hc false schedule
  rcases hf.ended e he with ⟨ho, hl⟩ | ⟨-, hx'⟩
  · refine ⟨?_, by rw [he, ho]⟩
    rw [hf.bears.events_eq, ← hl]
    rfl
  · rw [hx] at hx'
    cases hx'

end ChatGateway
