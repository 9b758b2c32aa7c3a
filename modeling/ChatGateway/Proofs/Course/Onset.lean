import ChatGateway.Proofs.Course.Following

/-!
# The onset of a course

A course that gives way before anything else is set going in its first turn and begins in its
second, unless its request was cancelled by then (`Machine.Begun`). A course with nothing to do but
to end comes to its end exactly if it has begun (`Machine.done_iff_begun`).
-/

namespace ChatGateway

namespace Machine

variable {α : Type} {capacity : Nat}

/-- In this schedule a course that gives way before anything else has begun: at its second turn the
request was not cancelled. -/
def Begun (capacity : Nat) (c : Course α) (cancelled : Bool) (schedule : List Act) : Prop :=
  ∃ before after, schedule = before ++ .work :: after ∧ before.count .work = 1 ∧
    ((start c cancelled).run capacity before).cancelled = false

/-- A schedule with so many turns can be cut before the next one. -/
theorem exists_turn {schedule : List Act} {n : Nat} (h : n < schedule.count .work) :
    ∃ before after, schedule = before ++ .work :: after ∧ before.count .work = n := by
  induction schedule generalizing n with
  | nil => simp at h
  | cons a schedule ih =>
    by_cases ha : a = .work
    · subst ha
      cases n with
      | zero => exact ⟨[], schedule, rfl, rfl⟩
      | succ n =>
        rw [List.count_cons_self, Nat.succ_lt_succ_iff] at h
        obtain ⟨before, after, rfl, hn⟩ := ih h
        exact ⟨.work :: before, after, rfl, by rw [List.count_cons_self, hn]⟩
    · rw [List.count_cons_of_ne (by simpa using ha)] at h
      obtain ⟨before, after, rfl, hn⟩ := ih h
      exact ⟨a :: before, after, rfl, by rw [List.count_cons_of_ne (by simpa using ha), hn]⟩

/-- A course that is not given a turn stays where it is. -/
theorem run_of_no_turn (m : Machine α) {schedule : List Act} (h : schedule.count .work = 0) :
    (m.run capacity schedule).course = m.course ∧
      (m.run capacity schedule).waiting = m.waiting := by
  have hturn : ∀ a ∈ schedule, a ≠ .work := fun a ha heq => by
    subst heq
    exact absurd ha (List.count_eq_zero.1 h)
  clear h
  induction schedule generalizing m with
  | nil => exact ⟨rfl, rfl⟩
  | cons a schedule ih =>
    obtain ⟨ha, hrest⟩ := List.forall_mem_cons.1 hturn
    obtain ⟨hc, hw⟩ := step_course capacity m ha
    obtain ⟨hc', hw'⟩ := ih (m.step capacity a) hrest
    exact ⟨hc'.trans hc, hw'.trans hw⟩

/-- In its first turn a course is set going. -/
theorem run_of_one_turn (capacity : Nat) (next : Course α) (cancelled : Bool) {schedule : List Act}
    (h : schedule.count .work = 1) :
    ((start (.pause false next) cancelled).run capacity schedule).course = .pause false next ∧
      ((start (.pause false next) cancelled).run capacity schedule).waiting = true := by
  have hturn : 0 < schedule.count .work := by omega
  obtain ⟨before, after, rfl, hbefore⟩ := exists_turn hturn
  have hafter : after.count .work = 0 := by
    rw [List.count_append, List.count_cons_self] at h
    omega
  obtain ⟨hc, hw⟩ : ((start (.pause false next) cancelled).run capacity before).course =
      .pause false next ∧
        ((start (.pause false next) cancelled).run capacity before).waiting = false :=
    run_of_no_turn _ hbefore
  rw [run_append]
  generalize (start (.pause false next) cancelled).run capacity before = m at hc hw ⊢
  change ((m.work capacity).run capacity after).course = _ ∧
    ((m.work capacity).run capacity after).waiting = true
  obtain ⟨hc', hw'⟩ := run_of_no_turn (m.work capacity) hafter
  rw [hc', hw', work_pause hc hw]
  exact ⟨hc, rfl⟩

/-- A course that is over stays so. -/
theorem run_course_of_over {m : Machine α} (h : m.course.isOver = true) (schedule : List Act) :
    (m.run capacity schedule).course = m.course := by
  refine run_induction (p := fun m' => m'.course = m.course) rfl (fun m' a hm' => ?_) schedule
  by_cases ha : a = .work
  · subst ha
    have hwork : m'.step capacity .work = m' := work_over (hm' ▸ h)
    rw [hwork, hm']
  · rw [(step_course capacity m' ha).1, hm']

/-- **A course with nothing to do ends exactly if it has begun.** -/
theorem done_iff_begun (capacity : Nat) (a : α) (cancelled : Bool) (schedule : List Act) :
    ((start (.pause false (.done a)) cancelled).run capacity schedule).course = .done a ↔
      Begun capacity (.pause false (.done a)) cancelled schedule := by
  have second {before after : List Act} (hbefore : before.count .work = 1) :
      ((start (.pause false (.done a)) cancelled).run capacity
          (before ++ .work :: after)).course =
        if ((start (.pause false (.done a)) cancelled).run capacity before).cancelled then
          .interrupted else .done a := by
    have hset := run_of_one_turn capacity (.done a) cancelled hbefore
    rw [run_append]
    generalize (start (.pause false (.done a)) cancelled).run capacity before = m at hset ⊢
    obtain ⟨hc, hw⟩ := hset
    change ((m.work capacity).run capacity after).course = _
    cases hx : m.cancelled with
    | true =>
      rw [work_breaks (by simp [hc, hw, hx, Course.isInterruptible])]
      exact run_course_of_over rfl after
    | false =>
      rw [work_paused hc hw (by simp [hx])]
      exact run_course_of_over rfl after
  constructor
  · intro hdone
    obtain hn | hn | hn : schedule.count .work = 0 ∨ schedule.count .work = 1 ∨
        1 < schedule.count .work := by omega
    · rw [(run_of_no_turn _ hn).1] at hdone
      cases hdone
    · rw [(run_of_one_turn capacity _ _ hn).1] at hdone
      cases hdone
    · obtain ⟨before, after, rfl, hbefore⟩ := exists_turn hn
      refine ⟨before, after, rfl, hbefore, ?_⟩
      rw [second hbefore] at hdone
      by_contra hx
      rw [if_pos (by simpa using hx)] at hdone
      cases hdone
  · rintro ⟨before, after, rfl, hbefore, hx⟩
    rw [second hbefore, hx]
    rfl

end Machine

end ChatGateway
