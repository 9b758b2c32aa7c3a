import ChatGateway.Proofs.Course.Delivery

/-!
# Confluence

As long as the course only works and the receiver only takes chunks, it makes no difference in which
order they act and how much room there is between them. Two runs that have come to their end, with
everything taken, have the same chunks and the same ending (`Machine.Drained.ends`); whether a
course cancels its own request does not depend on the run either (`Machine.run_steady_iff`). So one
run that comes to its end uncancelled decides what comes of all the others
(`Machine.Drained.decides`).
-/

namespace ChatGateway

/-- Nobody goes away and nothing is cancelled from outside. -/
def Undisturbed (schedule : List Act) : Prop := ∀ a ∈ schedule, a = .work ∨ a = .receive

instance (schedule : List Act) : Decidable (Undisturbed schedule) :=
  inferInstanceAs (Decidable (∀ a ∈ schedule, a = .work ∨ a = .receive))

theorem Undisturbed.no_drop {schedule : List Act} (h : Undisturbed schedule) :
    Act.drop ∉ schedule := fun hd => by simpa using h _ hd

/-- The course does not cancel its request, as long as its chunks are taken. -/
@[simp] def Course.Steady {α : Type} : Course α → Prop
  | .done _ => True
  | .interrupted => True
  | .fault _ => True
  | .emit _ next => next.Steady
  | .ask _ _ next => next.Steady
  | .cancel _ => False
  | .check next => next.Steady
  | .pause _ next => next.Steady
  | .stall _ => True
  | .send _ next _ => next.Steady

namespace Machine

variable {α : Type} {capacity : Nat} {m : Machine α} {schedule : List Act}

/-! ## Whether a course cancels its request -/

theorem work_steady_iff (hr : m.receiving = true) :
    ((m.work capacity).cancelled = false ∧ (m.work capacity).course.Steady) ↔
      (m.cancelled = false ∧ m.course.Steady) := by
  have hworks := m.works capacity
  generalize m.work capacity = m' at hworks ⊢
  cases hworks with
  | breaks _ hx _ => simp [goOn, hx]
  | ended _ => exact Iff.rfl
  | stop _ hx => simp [goOn, hx]
  | refuse _ _ hgone => simp [hr] at hgone
  | emit hc => simp [goOn, hc]
  | asked hc _ _ => simp [goOn, hc]
  | cancel hc => simp [goOn, hc]
  | check hc _ => simp [goOn, hc]
  | paused hc _ _ => simp [goOn, hc]
  | send hc _ _ _ => simp [goOn, hc]
  | ask _ _ => exact Iff.rfl
  | pause _ _ => exact Iff.rfl
  | stall _ _ => exact Iff.rfl
  | hold _ _ _ _ => exact Iff.rfl

/-- Neither work nor a receipt changes whether the course is going to cancel its request, or has
done so. -/
theorem run_steady_iff (hs : Undisturbed schedule) (hr : m.receiving = true) :
    ((m.run capacity schedule).cancelled = false ∧ (m.run capacity schedule).course.Steady) ↔
      (m.cancelled = false ∧ m.course.Steady) := by
  induction schedule generalizing m with
  | nil => exact Iff.rfl
  | cons a schedule ih =>
    obtain ⟨ha, hs⟩ := List.forall_mem_cons.1 hs
    change (((m.step capacity a).run capacity schedule).cancelled = false ∧
      ((m.step capacity a).run capacity schedule).course.Steady) ↔ _
    have hstays : (m.step capacity a).receiving = true := by
      rw [step_receiving m (by rcases ha with rfl | rfl <;> simp), hr]
    rw [ih hs hstays]
    rcases ha with rfl | rfl
    · exact work_steady_iff hr
    · have hsteps := m.steps capacity .receive
      generalize m.step capacity .receive = m' at hsteps ⊢
      cases hsteps <;> exact Iff.rfl

/-! ## Runs that have come to their end -/

/-- The course is over, and all its chunks were taken. -/
structure Drained (m : Machine α) : Prop where
  isOver : m.course.isOver = true
  queue_eq : m.queue = []

theorem ending_of_isOver (h : m.course.isOver = true) : ∃ e, m.course.ending? = some e := by
  cases hc : m.course <;> simp_all [Course.isOver, Course.ending?]

theorem isOver_of_ending {e : Ending α} (h : m.course.ending? = some e) (he : e ≠ .stalled) :
    m.course.isOver = true := by
  cases hc : m.course <;> rw [hc] at h <;> cases h
  case stall => exact absurd rfl he
  all_goals rfl

theorem ending_ne_stalled (h : m.course.isOver = true) : m.course.ending? ≠ some .stalled := by
  cases hc : m.course <;> simp_all [Course.isOver, Course.ending?]

/-- A course that is over will cancel nothing. -/
theorem steady_of_isOver (h : m.course.isOver = true) : m.course.Steady := by
  cases hc : m.course <;> simp_all [Course.isOver]

namespace Drained

variable {c : Course α}

/-- **Runs end alike.** What was taken at the end of a run is the output of the course, and the
course has come to its outcome. -/
theorem ends (hs : Undisturbed schedule) (hm : ((start c).run capacity schedule).Drained)
    (hx : ((start c).run capacity schedule).cancelled = false) :
    ((start c).run capacity schedule).received = c.output ∧
      ((start c).run capacity schedule).course.ending? = some c.outcome := by
  obtain ⟨h, hf⟩ := run_follows capacity c false hs.no_drop
  have hstays : ((start c).run capacity schedule).receiving = true := run_receiving hs.no_drop
  obtain ⟨e, he⟩ := ending_of_isOver hm.isOver
  rcases hf.ended e he with ⟨hout, hlog⟩ | ⟨-, hx'⟩
  · have hchunks := (hf.bears.chunks_eq hstays).1
    rw [hm.queue_eq, List.append_nil, ← hlog] at hchunks
    exact ⟨hchunks, by rw [he, hout]⟩
  · rw [hx] at hx'
    cases hx'

/-- One run that comes to its end uncancelled shows that the course never cancels its request. -/
theorem steady (hs : Undisturbed schedule) (hm : ((start c).run capacity schedule).Drained)
    (hx : ((start c).run capacity schedule).cancelled = false) : c.Steady :=
  ((run_steady_iff (m := start c) hs rfl).1 ⟨hx, steady_of_isOver hm.isOver⟩).2

end Drained

/-- What a run shows that came to its end with these chunks and this ending, of another run with
perhaps another room and another schedule. -/
structure DecidedBy (m' m : Machine α) : Prop where
  uncancelled : m'.cancelled = false
  received_prefix : m'.received <+: m.received
  /-- If this one has come to its end as well, the same chunks were taken and it ended the same. -/
  same : m'.Drained → m'.received = m.received ∧ m'.course.ending? = m.course.ending?

/-- **One run decides.** If one run comes to its end uncancelled, no other is ever cancelled, they
all have the same chunks and the same ending when they come to their end, and they do so once the
receiver and the course have taken turns often enough. -/
theorem Drained.decides {c : Course α} (hs : Undisturbed schedule)
    (hm : ((start c).run capacity schedule).Drained)
    (hx : ((start c).run capacity schedule).cancelled = false) :
    ∃ enough : Nat, ∀ (capacity' : Nat) (schedule' : List Act), 0 < capacity' →
      Undisturbed schedule' →
        ((start c).run capacity' schedule').DecidedBy ((start c).run capacity schedule) ∧
          ((List.replicate enough [Act.receive, .work]).flatten.Sublist schedule' →
            ((start c).run capacity' schedule').Drained) := by
  obtain ⟨houtput, hending⟩ := hm.ends hs hx
  obtain ⟨enough, hdelivers⟩ := c.delivers
  refine ⟨enough, fun capacity' schedule' hcap hs' => ?_⟩
  have hx' : ((start c).run capacity' schedule').cancelled = false :=
    ((run_steady_iff (m := start c) hs' rfl).2 ⟨rfl, hm.steady hs hx⟩).1
  obtain ⟨-, hprefix, hrounds⟩ := hdelivers capacity' schedule' hcap hs'.no_drop hx'
  refine ⟨⟨hx', houtput ▸ hprefix, fun hm' => ?_⟩, fun hturns => ?_⟩
  · obtain ⟨houtput', hending'⟩ := hm'.ends hs' hx'
    exact ⟨houtput'.trans houtput.symm, hending'.trans hending.symm⟩
  · obtain ⟨-, hall, hended⟩ := hrounds hturns
    refine ⟨isOver_of_ending hended fun hstalled => ?_, ?_⟩
    · exact ending_ne_stalled hm.isOver (hending.trans (congrArg some hstalled))
    · -- with all of the output taken there is nothing left on its way
      obtain ⟨h, hf⟩ := run_follows capacity' c false hs'.no_drop
      have hchunks := (hf.bears.chunks_eq (run_receiving hs'.no_drop)).1
      have hsent : Mark.chunks h <+: c.output := hf.log_prefix.filterMap _
      rw [← hchunks, hall] at hsent
      have hlength := hsent.length_le
      rw [List.length_append] at hlength
      exact List.length_eq_zero_iff.1 (by omega)

end Machine

end ChatGateway
