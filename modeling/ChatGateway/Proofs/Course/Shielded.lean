import ChatGateway.Proofs.Course.Aftermath

/-!
# Courses that heed no cancellation

A course whose waits are shielded and that never looks for a cancellation (`Course.Firm`) does the
same whether its request is cancelled or not (`Machine.run_calledOff`). So it comes to its
undisturbed ending under every schedule that lets it work often enough (`Course.Firm.comesTo`): it
returns its value (`Course.Returns`) if it has one.
-/

namespace ChatGateway

namespace Course

variable {α : Type} {c : Course α}

theorem Firm.quiet (hc : c.Firm) : c.Quiet := by
  induction c with
  | emit event next ih => exact ih hc
  | ask query shielded next ih => exact ih hc.2
  | cancel next ih => exact ih hc
  | check next _ => exact hc.elim
  | pause shielded next ih => exact ih hc.2
  | send chunk next refused _ _ => exact hc.elim
  | _ => trivial

theorem Firm.isInterruptible_eq_false (hc : c.Firm) : c.isInterruptible = false := by
  cases c with
  | ask query shielded next =>
    obtain ⟨rfl, -⟩ := hc
    rfl
  | pause shielded next =>
    obtain ⟨rfl, -⟩ := hc
    rfl
  | stall shielded =>
    obtain rfl : shielded = true := hc
    rfl
  | send chunk next refused => exact hc.elim
  | _ => rfl

end Course

namespace Machine

variable {α : Type} {m : Machine α}

/-- The machine with its request cancelled. -/
def calledOff (m : Machine α) : Machine α := { m with cancelled := true }

/-- A firm course works in the same way when its request is cancelled. -/
theorem work_calledOff (hm : m.course.Firm) (capacity : Nat) :
    m.calledOff.work capacity = (m.work capacity).calledOff ∧ (m.work capacity).course.Firm := by
  have firm {c : Course α} (hc : m.course = c) : c.Firm := hc ▸ hm
  have hworks := m.works capacity
  generalize m.work capacity = m' at hworks ⊢
  cases hworks with
  | breaks _ _ hi =>
    rw [hm.isInterruptible_eq_false] at hi
    cases hi
  | ended ho => exact ⟨work_over ho, hm⟩
  | emit hc =>
    have hnext := firm hc
    exact ⟨work_emit hc, hnext⟩
  | ask hc hw => exact ⟨work_ask hc hw, hm⟩
  | @asked query shielded next hc hw _ =>
    obtain ⟨rfl, hnext⟩ := firm hc
    exact ⟨work_asked hc hw rfl, hnext⟩
  | cancel hc =>
    have hnext := firm hc
    exact ⟨work_cancel hc, hnext⟩
  | check hc _ => exact (firm hc).elim
  | stop hc _ => exact (firm hc).elim
  | pause hc hw => exact ⟨work_pause hc hw, hm⟩
  | @paused shielded next hc hw _ =>
    obtain ⟨rfl, hnext⟩ := firm hc
    exact ⟨work_paused hc hw rfl, hnext⟩
  | @stall shielded hc _ =>
    obtain rfl : shielded = true := firm hc
    exact ⟨work_stall hc (Bool.and_false _), hm⟩
  | send hc _ _ _ => exact (firm hc).elim
  | refuse hc _ _ => exact (firm hc).elim
  | hold hc _ _ _ => exact (firm hc).elim

theorem step_calledOff (hm : m.course.Firm) (capacity : Nat) (a : Act) :
    m.calledOff.step capacity a = (m.step capacity a).calledOff ∧
      (m.step capacity a).course.Firm := by
  cases a with
  | work => exact work_calledOff hm capacity
  | receive =>
    change m.calledOff.receive = m.receive.calledOff ∧ m.receive.course.Firm
    obtain ⟨course, waiting, queue, received, receiving⟩ := m
    cases queue with
    | nil => exact ⟨rfl, hm⟩
    | cons chunk rest => cases receiving <;> exact ⟨rfl, hm⟩
  | drop => exact ⟨rfl, hm⟩
  | cancel =>
    change m.calledOff.cancel = m.cancel.calledOff ∧ m.cancel.course.Firm
    unfold cancel
    cases hw : (m.waiting || m.course.isOver)
    · exact ⟨if_neg (by simpa [calledOff] using hw), hm⟩
    · exact ⟨if_pos hw, hm⟩

/-- **A firm course takes no notice of a cancellation**: it runs as if it had been cancelled from
the start. -/
theorem run_calledOff (hm : m.course.Firm) (capacity : Nat) (schedule : List Act) :
    m.calledOff.run capacity schedule = (m.run capacity schedule).calledOff := by
  induction schedule generalizing m with
  | nil => rfl
  | cons a schedule ih =>
    obtain ⟨hstep, hfirm⟩ := step_calledOff hm capacity a
    change (m.calledOff.step capacity a).run capacity schedule = _
    rw [hstep]
    exact ih hfirm

end Machine

namespace Course

variable {α : Type} {c : Course α}

/-- A firm course comes to its undisturbed ending, whatever the schedule and whether its request is
cancelled or not. -/
theorem Firm.comesTo (hc : c.Firm) (cancelled : Bool) :
    (Machine.start c cancelled).ComesTo c.trace c.outcome := by
  have hbound : (Machine.start c true).Bound := ⟨rfl, hc.quiet, nofun⟩
  obtain ⟨hlog, hending⟩ := hc.curb
  obtain ⟨enough, hruns⟩ := hbound.comesTo
  refine ⟨enough, fun capacity later => ?_⟩
  have hsame : (Machine.start c true).run capacity later =
      ((Machine.start c cancelled).run capacity later).calledOff :=
    Machine.run_calledOff (m := Machine.start c cancelled) hc capacity later
  have hrun := hruns capacity later
  rw [hsame] at hrun
  have htrace : c.curb.trace = c.trace := congrArg Mark.events hlog
  change _ <+: [] ++ c.curb.trace ∧ (_ → _ = [] ++ c.curb.trace ∧ _ = some c.curb.outcome) at hrun
  rw [htrace, hending] at hrun
  exact hrun

/-- Whatever the schedule, and whether its request is cancelled or not, the course comes to this
value. -/
def Returns (c : Course α) (a : α) : Prop :=
  ∀ cancelled : Bool, (Machine.start c cancelled).ComesTo c.trace (.finished a)

theorem Firm.returns {a : α} (hc : c.Firm) (h : c.outcome = .finished a) : c.Returns a := by
  intro cancelled
  rw [← h]
  exact hc.comesTo cancelled

end Course

end ChatGateway
