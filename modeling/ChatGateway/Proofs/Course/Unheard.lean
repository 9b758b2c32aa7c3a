import ChatGateway.Proofs.Course.Delivery

/-!
# Courses that nobody hears

Once its receiver has gone away a course goes on by itself up to its next chunk, and then as it does
when a chunk is refused. `Course.unheard` is the course as it then goes on; it sends nothing. A
machine without a receiver that is not cancelled follows it step for step (`Machine.run_unheard`),
so what is still to be seen of it and how it ends is settled at that moment (`Machine.run_gone`).
What this comes to depends on what a course does at each of its chunks (`Course.AtSends`).
-/

namespace ChatGateway

namespace Course

variable {α β : Type}

/-- What a course does when nobody takes its chunks. -/
def unheard : Course α → Course α
  | .done a => .done a
  | .interrupted => .interrupted
  | .fault cause => .fault cause
  | .emit event next => .emit event next.unheard
  | .ask query shielded next => .ask query shielded next.unheard
  | .cancel next => .cancel next.unheard
  | .check next => .check next.unheard
  | .pause shielded next => .pause shielded next.unheard
  | .stall shielded => .stall shielded
  | .send _ _ refused => .check refused.unheard

theorem quiet_unheard (c : Course α) : c.unheard.Quiet := by
  induction c <;> simp_all [unheard]

theorem unheard_of_quiet {c : Course α} (h : c.Quiet) : c.unheard = c := by
  induction c <;> simp_all [unheard]

theorem ending?_unheard (c : Course α) : c.unheard.ending? = c.ending? := by
  cases c <;> rfl

/-! ## Wherever a chunk is to be sent -/

/-- As long as its chunks are taken, this holds wherever the course sends one, of what follows and
of what would follow if the chunk were refused. -/
@[simp] def AtSends (P : Course α → Course α → Prop) : Course α → Prop
  | .done _ => True
  | .interrupted => True
  | .fault _ => True
  | .emit _ next => next.AtSends P
  | .ask _ _ next => next.AtSends P
  | .cancel next => next.AtSends P
  | .check next => next.AtSends P
  | .pause _ next => next.AtSends P
  | .stall _ => True
  | .send _ next refused => P next refused ∧ next.AtSends P

variable {P Q : Course α → Course α → Prop}

theorem Quiet.atSends {c : Course α} (h : c.Quiet) : c.AtSends P := by
  induction c <;> simp_all

theorem AtSends.mono {c : Course α} (h : c.AtSends P)
    (himp : ∀ next refused, P next refused → Q next refused) : c.AtSends Q := by
  induction c <;> simp_all

/-- A course that is gone on from sends what it sends by itself, and then what the other one
sends. -/
theorem AtSends.bind {P : Course β → Course β → Prop} {c : Course α} {f : α → Course β}
    (h : c.AtSends fun next refused => P (next >>= f) (refused >>= f))
    (hf : ∀ a, (f a).AtSends P) : (c >>= f).AtSends P := by
  change (c.bind f).AtSends P
  induction c with
  | done a => exact hf a
  | interrupted => trivial
  | fault cause => trivial
  | emit event next ih => exact ih h
  | ask query shielded next ih => exact ih h
  | cancel next ih => exact ih h
  | check next ih => exact ih h
  | pause shielded next ih => exact ih h
  | stall shielded => trivial
  | send chunk next refused ih _ => exact ⟨h.1, ih h.2⟩

theorem Move.atSends {d e : Course α} {s : List Mark} (hmove : Move d s e)
    (hs : Mark.refused ∉ s) (hd : d.AtSends P) : e.AtSends P := by
  cases hmove with
  | send chunk next refused => exact hd.2
  | refuse chunk next refused => exact absurd (List.mem_singleton.2 rfl) hs
  | _ => exact hd

theorem Trail.atSends {c d : Course α} {h : List Mark} (ht : c.Trail h d)
    (hh : Mark.refused ∉ h) (hc : c.AtSends P) : d.AtSends P := by
  induction ht with
  | start => exact hc
  | move _ hmove ih =>
    simp only [List.mem_append, not_or] at hh
    exact hmove.atSends hh.2 (ih hh.1)

end Course

namespace Machine

variable {α : Type} {capacity : Nat} {m : Machine α}

/-- The machine with its course as it goes on when nobody takes its chunks. -/
def unheard (m : Machine α) : Machine α := { m with course := m.course.unheard }

theorem rest_unheard (m : Machine α) : m.unheard.rest = m.rest.unheard := by
  obtain ⟨course, waiting, queue, received, receiving, cancelled, events⟩ := m
  cases waiting <;> cases course <;> rfl

theorem work_unheard (hr : m.receiving = false) (hx : m.cancelled = false) :
    (m.work capacity).unheard = m.unheard.work capacity := by
  obtain ⟨course, waiting, queue, received, receiving, cancelled, events⟩ := m
  obtain rfl : receiving = false := hr
  obtain rfl : cancelled = false := hx
  cases course with
  | ask query shielded next => cases waiting <;> rfl
  | pause shielded next => cases waiting <;> rfl
  | _ => cases waiting <;> rfl

theorem step_unheard (hr : m.receiving = false) (hx : m.cancelled = false) (a : Act) :
    (m.step capacity a).unheard = m.unheard.step capacity a := by
  cases a with
  | work => exact work_unheard hr hx
  | receive =>
    have idle {m' : Machine α} (hr' : m'.receiving = false) : m'.receive = m' := by
      cases hq : m'.queue <;> simp [receive, hq, hr']
    have hunheard : m.unheard.receiving = false := hr
    exact (congrArg unheard (idle hr)).trans (idle hunheard).symm
  | drop => rfl
  | cancel =>
    change m.cancel.unheard = m.unheard.cancel
    have hover : m.unheard.course.isOver = m.course.isOver := by
      cases hc : m.course <;> simp [unheard, hc, Course.unheard, Course.isOver]
    unfold cancel
    rw [hover]
    change _ = if m.waiting || m.course.isOver then _ else _
    split <;> rfl

/-- **A machine without a receiver follows the course that nobody hears**, as long as it is not
cancelled. -/
theorem run_unheard (hr : m.receiving = false) {later : List Act}
    (hx : (m.run capacity later).cancelled = false) :
    (m.run capacity later).unheard = m.unheard.run capacity later := by
  induction later generalizing m with
  | nil => rfl
  | cons a later ih =>
    have hm : m.cancelled = false := cancelled_of_run hx
    change ((m.step capacity a).run capacity later).unheard =
      (m.unheard.step capacity a).run capacity later
    rw [ih (step_gone hr a).1 hx, step_unheard hr hm]

/-! ## Quiet machines that are left alone -/

/-- What is seen of a machine in the end if it is not cancelled, and how it ends. -/
def prospect (m : Machine α) : List Event × Ending α := (m.events ++ m.rest.trace, m.rest.outcome)

/-- What can be seen of a machine, as the marks that it bears. -/
theorem bears_self (m : Machine α) :
    m.Bears (m.events.map .seen ++ (m.received ++ m.queue).map .sent) where
  events_eq := by simp
  received_prefix := by simp
  chunks_eq _ := by simp

theorem step_prospect (hq : m.rest.Quiet) {a : Act} (hx : (m.step capacity a).cancelled = false) :
    (m.step capacity a).rest.Quiet ∧ (m.step capacity a).prospect = m.prospect := by
  have hself := m.bears_self.events_eq
  unfold prospect
  cases shift_step capacity m a m.bears_self with
  | stay hr hb =>
    have he : (m.step capacity a).events = m.events := hb.events_eq.trans hself.symm
    rw [hr, he]
    exact ⟨hq, rfl⟩
  | @move s d _ hd hmove hr hb =>
    obtain ⟨hquiet, hs⟩ := hmove.quiet (hd ▸ hq)
    obtain ⟨hlog, hout⟩ := hmove.log hs
    have he : (m.step capacity a).events = m.events ++ Mark.events s := by
      rw [hb.events_eq, Mark.events_append, ← hself]
    rw [hr, he, hd, hout, Course.trace, Course.trace, hlog, Mark.events_append, List.append_assoc]
    exact ⟨hquiet, rfl⟩
  | stop _ _ hx' _ _ => rw [hx] at hx'; cases hx'

theorem run_prospect (hq : m.rest.Quiet) {later : List Act}
    (hx : (m.run capacity later).cancelled = false) :
    (m.run capacity later).rest.Quiet ∧ (m.run capacity later).prospect = m.prospect := by
  induction later generalizing m with
  | nil => exact ⟨hq, rfl⟩
  | cons a later ih =>
    obtain ⟨hq', heq⟩ := step_prospect hq (cancelled_of_run hx)
    obtain ⟨hq'', heq'⟩ := ih hq' hx
    exact ⟨hq'', heq'.trans heq⟩

/-- At its end a machine has nothing in prospect but what there is. -/
theorem prospect_of_ending {e : Ending α} (h : m.course.ending? = some e) :
    m.prospect = (m.events, e) := by
  have hrest : m.rest = m.course :=
    rest_of_not_ask rfl fun query shielded next hc => by simp [hc, Course.ending?] at h
  obtain ⟨hlog, hout⟩ := Course.log_of_ending h
  rw [prospect, hrest, Course.trace, hlog, hout, Mark.events_nil, List.append_nil]

/-- What becomes of a machine: these events are still to be seen of it, and this is its ending. -/
structure GoesOn (m m' : Machine α) (events : List Event) (ending : Ending α) : Prop where
  events_prefix : m'.events <+: m.events ++ events
  ended : ∀ e, m'.course.ending? = some e → e = ending ∧ m'.events = m.events ++ events

/-- **What becomes of a machine without a receiver** is settled by where it stands, unless it is
cancelled. Once it has worked often enough it has come to its end. -/
theorem run_gone (hr : m.receiving = false) : ∃ enough : Nat, ∀ (capacity : Nat)
    (later : List Act), (m.run capacity later).cancelled = false →
      m.GoesOn (m.run capacity later) m.rest.unheard.trace m.rest.unheard.outcome ∧
      (enough ≤ later.count .work →
        (m.run capacity later).course.ending? = some m.rest.unheard.outcome) := by
  refine ⟨m.unheard.toGo, fun capacity later hx => ?_⟩
  have hrun : (m.run capacity later).unheard = m.unheard.run capacity later := run_unheard hr hx
  have hx' : (m.unheard.run capacity later).cancelled = false := by
    rw [← hrun]
    exact hx
  have hquiet : m.unheard.rest.Quiet := by
    rw [rest_unheard]
    exact Course.quiet_unheard _
  have hprospect : (m.run capacity later).unheard.prospect =
      (m.events ++ m.rest.unheard.trace, m.rest.unheard.outcome) := by
    rw [hrun, (run_prospect hquiet hx').2, prospect, rest_unheard]
    rfl
  have hended {e : Ending α} (he : (m.run capacity later).course.ending? = some e) :
      e = m.rest.unheard.outcome ∧
        (m.run capacity later).events = m.events ++ m.rest.unheard.trace := by
    rw [← Course.ending?_unheard] at he
    have heq := (prospect_of_ending (m := (m.run capacity later).unheard) he).symm.trans hprospect
    exact ⟨congrArg Prod.snd heq, congrArg Prod.fst heq⟩
  refine ⟨⟨⟨_, congrArg Prod.fst hprospect⟩, fun e => hended⟩, fun hn => ?_⟩
  have hgo : (m.unheard.run capacity later).toGo = 0 := by
    have := run_shrinks (Course.quiet_unheard m.course) hx'
    omega
  obtain ⟨e, he⟩ := ending_of_toGo hgo
  rw [← hrun] at he
  have he' : (m.run capacity later).course.ending? = some e :=
    (Course.ending?_unheard _).symm.trans he
  rw [he', (hended he').1]

end Machine

end ChatGateway
