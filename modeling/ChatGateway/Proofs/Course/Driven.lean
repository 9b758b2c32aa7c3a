import ChatGateway.Proofs.Course.Following

/-!
# Driven courses

What `Course.drive` computes is a run: the plan of the receiver amounts to a schedule of the machine
(`Course.drive_runs`). So all that holds of runs holds of driven courses
(`Course.exists_run_of_drive`).
-/

namespace ChatGateway

variable {α : Type}

/-- Some schedule leads from one machine to another. -/
def Machine.Leads (capacity : Nat) (m m' : Machine α) : Prop :=
  ∃ schedule, m.run capacity schedule = m'

namespace Machine.Leads

variable {capacity : Nat} {m m' m'' : Machine α}

theorem refl (m : Machine α) : Leads capacity m m := ⟨[], rfl⟩

theorem step (m : Machine α) (a : Act) : Leads capacity m (m.step capacity a) := ⟨[a], rfl⟩

theorem trans (h : Leads capacity m m') (h' : Leads capacity m' m'') : Leads capacity m m'' := by
  obtain ⟨schedule, rfl⟩ := h
  obtain ⟨later, rfl⟩ := h'
  exact ⟨schedule ++ later, run_append capacity m schedule later⟩

/-- The course works once, and the machine goes on from there. -/
theorem of_work (hw : m.work capacity = m') (h : Leads capacity m' m'') :
    Leads capacity m m'' := by
  subst hw
  exact (step m .work).trans h

end Machine.Leads

open Machine (Leads)

namespace Channel

/-- A course beside the receiver of a channel. -/
def beside (ch : Channel) (c : Course α) (waiting : Bool) : Machine α where
  course := c
  waiting := waiting
  queue := ch.queue
  received := ch.received
  receiving := ch.receiving
  cancelled := ch.cancelled
  events := ch.events

/-- A receiver that has gone away has no plan, and nothing is on its way to it. -/
def Sound (ch : Channel) : Prop :=
  ch.receiving = false → ch.queue = [] ∧ ch.receiver.quota = none

theorem queue_act (ch : Channel) : ch.act.queue = [] := by
  unfold act
  split
  · rfl
  · split
    · split <;> rfl
    · rfl

theorem Sound.act {ch : Channel} (h : ch.Sound) : ch.act.Sound := by
  intro hr
  refine ⟨ch.queue_act, ?_⟩
  unfold Channel.act at hr ⊢
  split at hr
  · rename_i hq
    exact hq
  · rename_i wanted last hq
    split at hr
    · split at hr <;> simp_all
    · -- a receiver with a plan has not gone away
      have hgone : ch.receiver.quota = none := (h hr).2
      rw [hq] at hgone
      cases hgone

/-- The receiver takes some chunks. -/
theorem leads_take {capacity : Nat} {ch : Channel} (hr : ch.receiving = true) (c : Course α)
    (waiting : Bool) (n : Nat) :
    Leads capacity (ch.beside c waiting)
      ({ ch with
          queue := ch.queue.drop n
          received := ch.received ++ ch.queue.take n }.beside c waiting) := by
  induction n generalizing ch with
  | zero =>
    simp only [List.drop_zero, List.take_zero, List.append_nil]
    exact .refl _
  | succ n ih =>
    cases hq : ch.queue with
    | nil =>
      have hsame : ({ ch with queue := [], received := ch.received ++ [] } : Channel) = ch := by
        rw [List.append_nil, ← hq]
      rw [List.drop_nil, List.take_nil, hsame]
      exact .refl _
    | cons chunk rest =>
      have hstep : (ch.beside c waiting).step capacity .receive =
          { ch with queue := rest, received := ch.received ++ [chunk] }.beside c waiting := by
        simp [Machine.step, Machine.receive, beside, hq, hr]
      have hfirst : Leads capacity (ch.beside c waiting) _ := .step _ .receive
      rw [hstep] at hfirst
      refine hfirst.trans ?_
      simpa using @ih { ch with queue := rest, received := ch.received ++ [chunk] } hr

/-- What the receiver does by its plan is a schedule. -/
theorem leads_act {capacity : Nat} {ch : Channel} (hs : ch.Sound) {c : Course α} {waiting : Bool}
    (hw : (waiting || c.isOver) = true) :
    Leads capacity (ch.beside c waiting) (ch.act.beside c waiting) := by
  cases hr : ch.receiving with
  | false =>
    obtain ⟨hq, hplan⟩ := hs hr
    have hact : ch.act.beside c waiting = ch.beside c waiting := by
      simp [act, takeAll, beside, hplan, hq]
    rw [hact]
    exact .refl _
  | true =>
    have takes : Leads capacity (ch.beside c waiting) (ch.takeAll.beside c waiting) := by
      simpa [takeAll] using leads_take hr c waiting ch.queue.length
    unfold act
    split
    · exact takes
    · rename_i wanted last hplan
      split
      · cases last with
        | drop =>
          exact (leads_take hr c waiting (wanted - ch.received.length)).trans (.step _ .drop)
        | cancel =>
          refine takes.trans ?_
          have hstep : (ch.takeAll.beside c waiting).step capacity .cancel =
              { ch.takeAll with receiver := {}, cancelled := true }.beside c waiting :=
            if_pos hw
          rw [← hstep]
          exact .step _ .cancel
      · exact takes

/-- While the course waits the receiver acts, and then the course works again. -/
theorem leads_wait {capacity : Nat} {ch : Channel} (hs : ch.Sound) {c : Course α} {m : Machine α}
    (hwork : (ch.act.beside c true).work capacity = m) : Leads capacity (ch.beside c true) m :=
  (leads_act hs rfl).trans (.of_work hwork (.refl m))

/-- A course that waits is called off, and the receiver takes what is left. -/
theorem leads_interrupted {capacity : Nat} {ch : Channel} (hs : ch.Sound) {c : Course α}
    (hx : ch.act.cancelled = true) (hc : c.isInterruptible = true) :
    Leads capacity (ch.beside c true) (ch.act.act.beside .interrupted false) := by
  have hwork : (ch.act.beside c true).work capacity = ch.act.beside .interrupted false :=
    Machine.work_breaks (by simp [beside, hx, hc])
  exact (leads_wait hs hwork).trans (leads_act hs.act rfl)

end Channel

namespace Course

/-- **A driven course is a run**: some schedule leads its machine to where it ends, and to all that
is seen of it. -/
theorem drive_runs {capacity : Nat} (hcap : 0 < capacity) {ch : Channel} (hs : ch.Sound)
    (c : Course α) : ∃ d waiting,
      Leads capacity (ch.beside c false) ((c.drive capacity ch).2.beside d waiting) ∧
        d.ending? = some (c.drive capacity ch).1 := by
  induction c generalizing ch with
  | done a => exact ⟨.done a, false, Channel.leads_act hs rfl, rfl⟩
  | interrupted => exact ⟨.interrupted, false, Channel.leads_act hs rfl, rfl⟩
  | fault cause => exact ⟨.fault cause, false, Channel.leads_act hs rfl, rfl⟩
  | emit event next ih =>
    have hwork : (ch.beside (.emit event next) false).work capacity =
        (ch.see event).beside next false := Machine.work_emit rfl
    obtain ⟨d, waiting, hl, he⟩ := @ih (ch.see event) hs
    exact ⟨d, waiting, .of_work hwork hl, he⟩
  | ask query shielded next ih =>
    have hask : (ch.beside (.ask query shielded next) false).work capacity =
        (ch.see (.asked query)).beside (.ask query shielded next) true := Machine.work_ask rfl rfl
    have hsee : (ch.see (.asked query)).Sound := hs
    rw [drive]
    split
    · rename_i hx
      rw [Bool.and_eq_true] at hx
      exact ⟨.interrupted, false,
        .of_work hask (Channel.leads_interrupted hsee hx.1 hx.2), rfl⟩
    · rename_i hx
      have hgo : ((ch.see (.asked query)).act.beside (.ask query shielded next) true).work
          capacity = (ch.see (.asked query)).act.beside next false :=
        Machine.work_asked rfl rfl (by simpa [Channel.beside] using hx)
      obtain ⟨d, waiting, hl, he⟩ := ih hsee.act
      exact ⟨d, waiting, .of_work hask ((Channel.leads_wait hsee hgo).trans hl), he⟩
  | cancel next ih =>
    have hwork : (ch.beside (.cancel next) false).work capacity =
        { ch with cancelled := true }.beside next false := Machine.work_cancel rfl
    obtain ⟨d, waiting, hl, he⟩ := @ih { ch with cancelled := true } hs
    exact ⟨d, waiting, .of_work hwork hl, he⟩
  | check next ih =>
    have hwork : (ch.beside (.check next) false).work capacity =
        if ch.cancelled then ch.beside .interrupted false else ch.beside next false :=
      Machine.work_check rfl
    rw [drive]
    split at hwork
    · rename_i hx
      rw [if_pos hx]
      exact ⟨.interrupted, false, .of_work hwork (Channel.leads_act hs rfl), rfl⟩
    · rename_i hx
      rw [if_neg hx]
      obtain ⟨d, waiting, hl, he⟩ := ih hs
      exact ⟨d, waiting, .of_work hwork hl, he⟩
  | pause shielded next ih =>
    have hwait : (ch.beside (.pause shielded next) false).work capacity =
        ch.beside (.pause shielded next) true := Machine.work_pause rfl rfl
    rw [drive]
    split
    · rename_i hx
      rw [Bool.and_eq_true] at hx
      exact ⟨.interrupted, false,
        .of_work hwait (Channel.leads_interrupted hs hx.1 hx.2), rfl⟩
    · rename_i hx
      have hgo : (ch.act.beside (.pause shielded next) true).work capacity =
          ch.act.beside next false := Machine.work_paused rfl rfl
            (by simpa [Channel.beside] using hx)
      obtain ⟨d, waiting, hl, he⟩ := ih hs.act
      exact ⟨d, waiting, .of_work hwait ((Channel.leads_wait hs hgo).trans hl), he⟩
  | stall shielded =>
    have hwait : (ch.beside (.stall (α := α) shielded) false).work capacity =
        ch.beside (.stall shielded) true := Machine.work_stall rfl rfl
    have hact : Leads capacity (ch.beside (.stall (α := α) shielded) true)
        (ch.act.beside (.stall shielded) true) := Channel.leads_act hs rfl
    rw [drive]
    split
    · rename_i hx
      rw [Bool.and_eq_true] at hx
      exact ⟨.interrupted, false,
        .of_work hwait (Channel.leads_interrupted hs hx.1 hx.2), rfl⟩
    · exact ⟨.stall shielded, true, .of_work hwait hact, rfl⟩
  | send chunk next refused ih ih' =>
    rw [drive]
    have hoffer : (ch.beside (.send chunk next refused) false).work capacity =
        (ch.beside (.send chunk next refused) false).offer capacity chunk next refused :=
      Machine.work_send rfl rfl
    split
    · rename_i hr
      have hgo : (ch.beside (.send chunk next refused) false).work capacity =
          ch.beside refused false := hoffer.trans (if_pos hr)
      obtain ⟨d, waiting, hl, he⟩ := ih' hs
      exact ⟨d, waiting, .of_work hgo hl, he⟩
    rename_i hr
    split
    · rename_i hroom
      have hgo : (ch.beside (.send chunk next refused) false).work capacity =
          { ch with queue := ch.queue ++ [chunk] }.beside next false :=
        hoffer.trans ((if_neg hr).trans (if_pos hroom))
      obtain ⟨d, waiting, hl, he⟩ :=
        @ih { ch with queue := ch.queue ++ [chunk] } fun h => absurd h hr
      exact ⟨d, waiting, .of_work hgo hl, he⟩
    rename_i hfull
    have hwait : (ch.beside (.send chunk next refused) false).work capacity =
        ch.beside (.send chunk next refused) true :=
      hoffer.trans ((if_neg hr).trans (if_neg hfull))
    split
    · rename_i hx
      exact ⟨.interrupted, false,
        .of_work hwait (Channel.leads_interrupted hs hx rfl), rfl⟩
    rename_i hx
    have hoffer' : (ch.act.beside (.send chunk next refused) true).work capacity =
        (ch.act.beside (.send chunk next refused) true).offer capacity chunk next refused :=
      Machine.work_send rfl (by simpa [Channel.beside] using hx)
    split
    · rename_i hr'
      have hgo : (ch.act.beside (.send chunk next refused) true).work capacity =
          ch.act.beside refused false := hoffer'.trans (if_pos hr')
      obtain ⟨d, waiting, hl, he⟩ := ih' hs.act
      exact ⟨d, waiting, .of_work hwait ((Channel.leads_wait hs hgo).trans hl), he⟩
    rename_i hr'
    -- the receiver has taken everything, so there is room now
    have hroom : ch.act.queue.length < capacity := by rwa [ch.queue_act]
    rw [if_pos hroom]
    have hgo : (ch.act.beside (.send chunk next refused) true).work capacity =
        { ch.act with queue := ch.act.queue ++ [chunk] }.beside next false :=
      hoffer'.trans ((if_neg hr').trans (if_pos hroom))
    obtain ⟨d, waiting, hl, he⟩ :=
      @ih { ch.act with queue := ch.act.queue ++ [chunk] } fun h => absurd h hr'
    exact ⟨d, waiting, .of_work hwait ((Channel.leads_wait hs hgo).trans hl), he⟩

/-- What is seen of a driven course is seen of a run of its machine. -/
theorem exists_run_of_drive {capacity : Nat} (hcap : 0 < capacity) (c : Course α)
    (receiver : Receiver) (cancelled : Bool) : ∃ schedule,
      ((Machine.start c cancelled).run capacity schedule).events =
          (c.drive capacity { receiver, cancelled }).2.events ∧
        ((Machine.start c cancelled).run capacity schedule).received =
          (c.drive capacity { receiver, cancelled }).2.received ∧
        ((Machine.start c cancelled).run capacity schedule).course.ending? =
          some (c.drive capacity { receiver, cancelled }).1 := by
  have hs : Channel.Sound { receiver, cancelled } := fun h => nomatch h
  obtain ⟨d, waiting, ⟨schedule, hrun⟩, he⟩ := drive_runs hcap hs c
  refine ⟨schedule, ?_⟩
  change (Machine.start c cancelled).run capacity schedule = _ at hrun
  rw [hrun]
  exact ⟨rfl, rfl, he⟩

end Course

end ChatGateway
