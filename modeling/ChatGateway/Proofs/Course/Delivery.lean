import ChatGateway.Proofs.Course.Following

/-!
# Delivery

A receiver that stays gets all that a course sends, however little room its queue has
(`Course.delivers`). A turn of the receiver and a turn of the course after it bring the machine
nearer to its rest, where the course has come to its ending and the queue is empty. What is left to
do until then is measured by `Machine.unrest`.
-/

namespace ChatGateway

namespace Machine

variable {α : Type} {capacity : Nat} {m : Machine α}

/-! ## The queue -/

theorem work_queue (hs : ∀ chunk next refused, m.course ≠ .send chunk next refused) :
    (m.work capacity).queue = m.queue := by
  have hworks := m.works capacity
  generalize m.work capacity = m' at hworks ⊢
  cases hworks with
  | send hc _ _ _ => exact absurd hc (hs _ _ _)
  | _ => rfl

theorem step_queue_le (h : m.queue.length ≤ capacity) (a : Act) :
    (m.step capacity a).queue.length ≤ capacity := by
  have hsteps := m.steps capacity a
  generalize m.step capacity a = m' at hsteps ⊢
  cases hsteps with
  | work =>
    have hworks := m.works capacity
    generalize m.work capacity = m' at hworks ⊢
    cases hworks with
    | @send chunk _ _ _ _ _ hroom =>
      change (m.queue ++ [chunk]).length ≤ capacity
      rw [List.length_append]
      exact hroom
    | _ => exact h
  | @receive chunk queue hq _ =>
    change queue.length ≤ capacity
    rw [hq, List.length_cons] at h
    omega
  | drop => exact Nat.zero_le _
  | _ => exact h

/-- **The queue is bounded.** However a course is scheduled, never more chunks wait for the receiver
than there is room for. -/
theorem run_queue_le (c : Course α) (cancelled : Bool) (schedule : List Act) :
    ((start c cancelled).run capacity schedule).queue.length ≤ capacity :=
  run_induction (p := fun m => m.queue.length ≤ capacity) (Nat.zero_le _)
    (fun _ a hm => step_queue_le hm a) schedule

/-! ## What is left to do -/

/-- What is left to do until the course has come to its ending and the queue is empty. -/
def unrest (m : Machine α) : Nat := 2 * m.toGo + m.queue.length

/-- A chunk that finds room is one chunk more on its way, but at least one act less of work. -/
theorem work_unrest_of_send {chunk : StreamChunk} {next refused : Course α}
    (hx : m.cancelled = false) (hr : m.receiving = true)
    (hc : m.course = .send chunk next refused) :
    (m.work capacity).unrest ≤ m.unrest ∧
      (m.queue.length < capacity → (m.work capacity).unrest < m.unrest) := by
  have hgo : m.toGo = span next + 2 - if m.waiting then 1 else 0 := by rw [toGo, hc, span]
  rw [work_send hc (by simp [hx]), offer, if_neg (by simp [hr])]
  split
  · rename_i hq
    have hlt : ({ m.goOn next with queue := m.queue ++ [chunk] } : Machine α).unrest <
        m.unrest := by
      simp only [unrest, toGo, goOn, List.length_append, List.length_singleton] at hgo ⊢
      split at hgo <;> simp_all <;> omega
    exact ⟨Nat.le_of_lt hlt, fun _ => hlt⟩
  · rename_i hq
    refine ⟨?_, fun h => absurd h hq⟩
    simp only [unrest, toGo, hc, if_true]
    split <;> omega

theorem work_unrest_le (hx : m.cancelled = false) (hr : m.receiving = true) :
    (m.work capacity).unrest ≤ m.unrest := by
  by_cases hs : ∃ chunk next refused, m.course = .send chunk next refused
  · obtain ⟨chunk, next, refused, hc⟩ := hs
    exact (work_unrest_of_send hx hr hc).1
  · have hs : ∀ chunk next refused, m.course ≠ .send chunk next refused := by simpa using hs
    have hle : (m.work capacity).toGo ≤ m.toGo - 1 :=
      work_shrinks hx fun _ _ _ hc => absurd hc (hs _ _ _)
    rw [unrest, unrest, work_queue hs]
    omega

theorem work_unrest_lt (hx : m.cancelled = false) (hr : m.receiving = true)
    (hq : m.queue.length < capacity) (hgo : 0 < m.toGo) :
    (m.work capacity).unrest < m.unrest := by
  by_cases hs : ∃ chunk next refused, m.course = .send chunk next refused
  · obtain ⟨chunk, next, refused, hc⟩ := hs
    exact (work_unrest_of_send hx hr hc).2 hq
  · have hs : ∀ chunk next refused, m.course ≠ .send chunk next refused := by simpa using hs
    have hle : (m.work capacity).toGo ≤ m.toGo - 1 :=
      work_shrinks hx fun _ _ _ hc => absurd hc (hs _ _ _)
    rw [unrest, unrest, work_queue hs]
    omega

theorem step_unrest_le (hx : m.cancelled = false) (hr : m.receiving = true) {a : Act}
    (ha : a ≠ .drop) : (m.step capacity a).unrest ≤ m.unrest := by
  have hsteps := m.steps capacity a
  generalize m.step capacity a = m' at hsteps ⊢
  cases hsteps with
  | work => exact work_unrest_le hx hr
  | receive hq _ =>
    rw [unrest, unrest, hq, List.length_cons]
    exact Nat.add_le_add_left (Nat.le_succ _) _
  | drop => exact absurd rfl ha
  | _ => exact Nat.le_refl _

/-- A request that is not cancelled after a schedule was not cancelled before it. -/
theorem cancelled_of_run {schedule : List Act} (h : (m.run capacity schedule).cancelled = false) :
    m.cancelled = false := by
  by_contra hm
  rw [run_cancelled (by simpa using hm)] at h
  cases h

theorem run_unrest_le {schedule : List Act} (hd : Act.drop ∉ schedule) (hr : m.receiving = true)
    (hx : (m.run capacity schedule).cancelled = false) :
    (m.run capacity schedule).unrest ≤ m.unrest := by
  induction schedule generalizing m with
  | nil => exact Nat.le_refl _
  | cons a schedule ih =>
    rw [List.mem_cons, not_or] at hd
    obtain ⟨ha, hd⟩ := hd
    have hm : m.cancelled = false := cancelled_of_run hx
    exact Nat.le_trans (ih hd ((step_receiving m (Ne.symm ha)).trans hr) hx)
      (step_unrest_le hm hr (Ne.symm ha))

/-- With an empty queue the next work counts. -/
theorem run_unrest_of_work {schedule : List Act} (hw : Act.work ∈ schedule)
    (hd : Act.drop ∉ schedule) (hr : m.receiving = true)
    (hx : (m.run capacity schedule).cancelled = false) (hcap : 0 < capacity)
    (hq : m.queue = []) (hgo : 0 < m.toGo) : (m.run capacity schedule).unrest < m.unrest := by
  induction schedule generalizing m with
  | nil => cases hw
  | cons a schedule ih =>
    rw [List.mem_cons, not_or] at hd
    obtain ⟨ha, hd⟩ := hd
    have hm : m.cancelled = false := cancelled_of_run hx
    have hr' : (m.step capacity a).receiving = true := (step_receiving m (Ne.symm ha)).trans hr
    by_cases hwork : a = .work
    · subst hwork
      have hle : ((m.work capacity).run capacity schedule).unrest ≤ (m.work capacity).unrest :=
        run_unrest_le hd hr' hx
      exact Nat.lt_of_le_of_lt hle (work_unrest_lt hm hr (by rwa [hq]) hgo)
    · obtain ⟨hc, hwait⟩ := step_course capacity m hwork
      have hgo' : (m.step capacity a).toGo = m.toGo := by rw [toGo, hc, hwait, toGo]
      have hq' : (m.step capacity a).queue = [] := by
        have hsteps := m.steps capacity a
        generalize m.step capacity a = m' at hsteps ⊢
        cases hsteps with
        | work => exact absurd rfl hwork
        | receive hcons _ =>
          rw [hq] at hcons
          cases hcons
        | drop => rfl
        | _ => exact hq
      have hmem : Act.work ∈ schedule := (List.mem_cons.1 hw).resolve_left (Ne.symm hwork)
      refine Nat.lt_of_lt_of_le (ih hmem hd hr' hx hq' (by rwa [hgo'])) ?_
      exact step_unrest_le hm hr (Ne.symm ha)

/-- A turn of the receiver and then one of the course count, whatever comes between. -/
theorem run_unrest_of_round {schedule : List Act}
    (hround : [Act.receive, .work].Sublist schedule) (hd : Act.drop ∉ schedule)
    (hr : m.receiving = true) (hx : (m.run capacity schedule).cancelled = false)
    (hcap : 0 < capacity) : (m.run capacity schedule).unrest ≤ m.unrest - 1 := by
  induction schedule generalizing m with
  | nil => cases hround
  | cons a schedule ih =>
    rw [List.mem_cons, not_or] at hd
    obtain ⟨ha, hd⟩ := hd
    have hm : m.cancelled = false := cancelled_of_run hx
    have hr' : (m.step capacity a).receiving = true := (step_receiving m (Ne.symm ha)).trans hr
    cases hround with
    | cons _ hrest =>
      have hle : (m.step capacity a).unrest ≤ m.unrest := step_unrest_le hm hr (Ne.symm ha)
      have : ((m.step capacity a).run capacity schedule).unrest ≤ _ := ih hrest hd hr' hx
      change ((m.step capacity a).run capacity schedule).unrest ≤ _
      omega
    | cons_cons _ hrest =>
      have hwork : Act.work ∈ schedule := List.singleton_sublist.1 hrest
      have hle := run_unrest_le hd hr' hx
      change ((m.step capacity .receive).run capacity schedule).unrest ≤ _
      cases hq : m.queue with
      | nil =>
        have hsame : m.step capacity .receive = m := by
          change m.receive = m
          rw [receive, hq]
        rw [hsame] at hle ⊢
        rcases Nat.eq_zero_or_pos m.toGo with hgo | hgo
        · have hzero : m.unrest = 0 := by rw [unrest, hgo, hq]; rfl
          omega
        · change ((m.step capacity .receive).run capacity schedule).cancelled = false at hx
          rw [hsame] at hx
          have := run_unrest_of_work hwork hd hr hx hcap hq hgo
          omega
      | cons chunk rest =>
        have hless : (m.step capacity .receive).unrest = m.unrest - 1 := by
          change m.receive.unrest = m.unrest - 1
          rw [receive, hq, unrest, unrest, hq]
          simp only [hr, if_true, List.length_cons]
          rfl
        omega

theorem run_unrest_of_rounds {n : Nat} {schedule : List Act}
    (hrounds : (List.replicate n [Act.receive, .work]).flatten.Sublist schedule)
    (hd : Act.drop ∉ schedule) (hr : m.receiving = true)
    (hx : (m.run capacity schedule).cancelled = false) (hcap : 0 < capacity) :
    (m.run capacity schedule).unrest ≤ m.unrest - n := by
  induction n generalizing m schedule with
  | zero => exact run_unrest_le hd hr hx
  | succ n ih =>
    rw [List.replicate_succ, List.flatten_cons, List.append_sublist_iff] at hrounds
    obtain ⟨first, later, rfl, hfirst, hlater⟩ := hrounds
    rw [List.mem_append, not_or] at hd
    rw [run_append] at hx ⊢
    have hle := run_unrest_of_round hfirst hd.1 hr (cancelled_of_run hx) hcap
    have := ih hlater hd.2 ((run_receiving hd.1).trans hr) hx
    omega

/-- Taking turns changes nothing once there is no more to come. -/
theorem run_rounds_of_over (h : m.course.isOver = true) (hq : m.queue = []) (n : Nat) :
    m.run capacity (List.replicate n [Act.receive, .work]).flatten = m := by
  have hreceive : m.receive = m := by rw [receive, hq]
  have hwork : m.work capacity = m := work_over h
  induction n with
  | zero => rfl
  | succ n ih =>
    rw [List.replicate_succ, List.flatten_cons, run_append]
    change ((m.receive).work capacity).run capacity _ = m
    rw [hreceive, hwork, ih]

end Machine

/-! ## What a receiver gets that stays -/

/-- However the machine of a course is scheduled, as long as it is not cancelled and its receiver
stays, it goes through these events in this order and its receiver gets these chunks in this order.
Once the receiver and the course have taken turns often enough there is no more to come, and the
course has come to this ending. -/
def Course.Delivers {α : Type} (c : Course α) (events : List Event) (chunks : List StreamChunk)
    (ending : Ending α) : Prop :=
  ∃ enough : Nat, ∀ (capacity : Nat) (schedule : List Act), 0 < capacity → Act.drop ∉ schedule →
    ((Machine.start c).run capacity schedule).cancelled = false →
      ((Machine.start c).run capacity schedule).events <+: events ∧
        ((Machine.start c).run capacity schedule).received <+: chunks ∧
        ((List.replicate enough [Act.receive, .work]).flatten.Sublist schedule →
          ((Machine.start c).run capacity schedule).events = events ∧
            ((Machine.start c).run capacity schedule).received = chunks ∧
            ((Machine.start c).run capacity schedule).course.ending? = some ending)

/-- **Every course delivers** what it sends when it is undisturbed. -/
theorem Course.delivers {α : Type} (c : Course α) : c.Delivers c.trace c.output c.outcome := by
  refine ⟨(Machine.start c).unrest, fun capacity schedule hcap hd hx => ?_⟩
  obtain ⟨h, hf⟩ := Machine.run_follows capacity c false hd
  have hstay : ((Machine.start c).run capacity schedule).receiving = true :=
    Machine.run_receiving hd
  refine ⟨?_, Machine.received_prefix_output capacity c false schedule, fun hrounds => ?_⟩
  · rw [hf.bears.events_eq]
    exact hf.log_prefix.filterMap _
  have hrest := Machine.run_unrest_of_rounds hrounds hd rfl hx hcap
  rw [Nat.sub_self, Nat.le_zero, Machine.unrest, Nat.add_eq_zero_iff, List.length_eq_zero_iff]
    at hrest
  obtain ⟨e, he⟩ := Machine.ending_of_toGo (m := (Machine.start c).run capacity schedule) (by omega)
  rcases hf.ended e he with ⟨hout, hlog⟩ | ⟨-, hx'⟩
  · have hchunks := (hf.bears.chunks_eq hstay).1
    rw [hrest.2, List.append_nil, ← hlog] at hchunks
    refine ⟨?_, hchunks, by rw [he, hout]⟩
    rw [hf.bears.events_eq, ← hlog]
    rfl
  · rw [hx] at hx'
    cases hx'

end ChatGateway
