import ChatGateway.Proofs.Course.CalledOff

/-!
# What is left after a cancellation

Nothing that happens around a course matters any more once its request is cancelled, unless it sends
chunks: what is still to come of it is settled by where it stands. `Course.curb` is a course as it
then goes on: it ends at the first wait that is not shielded, and wherever it looks for a
cancellation. Its events and its ending are those of the machine (`Machine.Bound.comesTo`), whatever
the schedule. Where a course may stand is read off its trails, piece by piece (`Trail.bind_cases`).
-/

namespace ChatGateway

namespace Course

variable {α β γ : Type}

/-! ## Courses that are cancelled -/

/-- What a course still does once its request is cancelled. -/
def curb : Course α → Course α
  | .done a => .done a
  | .interrupted => .interrupted
  | .fault cause => .fault cause
  | .emit event next => .emit event next.curb
  | .ask query shielded next =>
    .emit (.asked query) (if shielded then next.curb else .interrupted)
  | .cancel next => next.curb
  | .check _ => .interrupted
  | .pause shielded next => if shielded then next.curb else .interrupted
  | .stall shielded => if shielded then .stall true else .interrupted
  | .send chunk next refused => .send chunk next.curb refused.curb

theorem curb_bind (c : Course α) (f : α → Course β) :
    (c >>= f).curb = c.curb >>= fun a => (f a).curb := by
  change (c.bind f).curb = c.curb.bind fun a => (f a).curb
  induction c with
  | done a => rfl
  | interrupted => rfl
  | fault cause => rfl
  | emit event next ih => simp [Course.bind, curb, ih]
  | ask query shielded next ih => cases shielded <;> simp [Course.bind, curb, ih]
  | cancel next ih => exact ih
  | check next _ => rfl
  | pause shielded next ih => cases shielded <;> simp [Course.bind, curb, ih]
  | stall shielded => cases shielded <;> rfl
  | send chunk next refused ih ih' => simp [Course.bind, curb, ih, ih']

theorem bind_assoc (c : Course α) (f : α → Course β) (g : β → Course γ) :
    c >>= f >>= g = c >>= fun a => f a >>= g := by
  change (c.bind f).bind g = c.bind fun a => (f a).bind g
  induction c <;> simp_all [Course.bind]

/-- No cancellation gets through. -/
@[simp] def Firm : Course α → Prop
  | .done _ => True
  | .interrupted => True
  | .fault _ => True
  | .emit _ next => next.Firm
  | .ask _ shielded next => shielded = true ∧ next.Firm
  | .cancel next => next.Firm
  | .check _ => False
  | .pause shielded next => shielded = true ∧ next.Firm
  | .stall shielded => shielded = true
  | .send _ _ _ => False

theorem Firm.bind {c : Course α} (hc : c.Firm) {f : α → Course β} (hf : ∀ a, (f a).Firm) :
    (c >>= f).Firm := by
  change (c.bind f).Firm
  induction c with
  | done a => exact hf a
  | emit event next ih => exact ih hc
  | ask query shielded next ih => exact ⟨hc.1, ih hc.2⟩
  | cancel next ih => exact ih hc
  | check next _ => exact hc.elim
  | pause shielded next ih => exact ⟨hc.1, ih hc.2⟩
  | stall shielded => exact hc
  | send chunk next refused _ _ => exact hc.elim
  | _ => trivial

/-- A cancellation makes no difference to such a course. -/
theorem Firm.curb {c : Course α} (hc : c.Firm) :
    c.curb.log = c.log ∧ c.curb.outcome = c.outcome := by
  induction c with
  | emit event next ih => simpa [Course.curb] using ih hc
  | ask query shielded next ih =>
    obtain ⟨rfl, hc⟩ := hc
    simpa [Course.curb] using ih hc
  | cancel next ih => exact ih hc
  | check next _ => exact hc.elim
  | pause shielded next ih =>
    obtain ⟨rfl, hc⟩ := hc
    exact ih hc
  | stall shielded =>
    obtain rfl : shielded = true := hc
    exact ⟨rfl, rfl⟩
  | send chunk next refused _ _ => exact hc.elim
  | _ => exact ⟨rfl, rfl⟩

theorem shield_bind (c : Course α) (f : α → Course β) :
    (c >>= f).shield = c.shield >>= fun a => (f a).shield := by
  change (c.bind f).shield = c.shield.bind fun a => (f a).shield
  induction c <;> simp_all [Course.bind, shield]

theorem firm_shield_await (r : Reply α) : (await r).shield.Firm := by
  obtain ⟨beats, answer⟩ := r
  induction beats with
  | nil => cases answer <;> trivial
  | cons beat beats ih =>
    cases beat with
    | wait => exact ⟨rfl, ih⟩
    | cancel => exact ih

/-! ## Where a trail leads -/

theorem Move.bind_cases {c : Course α} {f : α → Course β} {s : List Mark} {e : Course β}
    (h : Move (c >>= f) s e) :
    (∃ a, c = .done a ∧ Move (f a) s e) ∨ ∃ c', Move c s c' ∧ e = c' >>= f := by
  change Move (c.bind f) s e at h
  cases c with
  | done a => exact .inl ⟨a, rfl, h⟩
  | emit event next => cases h; exact .inr ⟨next, .emit event next, rfl⟩
  | ask query shielded next =>
    cases h
    exact .inr ⟨.pause shielded next, .ask query shielded next, rfl⟩
  | cancel next => cases h; exact .inr ⟨next, .cancel next, rfl⟩
  | check next => cases h; exact .inr ⟨next, .check next, rfl⟩
  | pause shielded next => cases h; exact .inr ⟨next, .pause shielded next, rfl⟩
  | send chunk next refused =>
    cases h with
    | send => exact .inr ⟨next, .send chunk next refused, rfl⟩
    | refuse => exact .inr ⟨refused, .refuse chunk next refused, rfl⟩
  | _ => cases h

namespace Trail

variable {c d : Course α} {h : List Mark}

/-- A trail of two courses leads into the first or through it into the second. -/
theorem bind_cases {f : α → Course β} {d : Course β} (ht : (c >>= f).Trail h d) :
    (∃ c', c.Trail h c' ∧ d = c' >>= f) ∨
      ∃ a s s', c.Trail s (.done a) ∧ (f a).Trail s' d ∧ h = s ++ s' := by
  induction ht with
  | start => exact .inl ⟨c, .start, rfl⟩
  | @move h s d e _ hm ih =>
    rcases ih with ⟨c', hc', rfl⟩ | ⟨a, s₁, s₂, hc', hf, rfl⟩
    · rcases hm.bind_cases with ⟨a, rfl, hm'⟩ | ⟨c'', hm', rfl⟩
      · exact .inr ⟨a, h, [] ++ s, hc', Trail.start.move hm', rfl⟩
      · exact .inl ⟨c'', hc'.move hm', rfl⟩
    · exact .inr ⟨a, s₁, s₂ ++ s, hc', hf.move hm, List.append_assoc _ _ _⟩

/-- A trail has not begun, or goes on from its first move. -/
theorem cases_head (ht : c.Trail h d) :
    (h = [] ∧ d = c) ∨ ∃ s e s', Move c s e ∧ e.Trail s' d ∧ h = s ++ s' := by
  induction ht with
  | start => exact .inl ⟨rfl, rfl⟩
  | @move h s d e _ hm ih =>
    rcases ih with ⟨rfl, rfl⟩ | ⟨s₁, e₁, s₂, hm₁, ht, rfl⟩
    · exact .inr ⟨s, e, [], hm, .start, by simp⟩
    · exact .inr ⟨s₁, e₁, s₂ ++ s, hm₁, ht.move hm, List.append_assoc _ _ _⟩

theorem emit_cases {event : Event} (ht : (Course.emit event c).Trail h d) :
    (h = [] ∧ d = .emit event c) ∨ ∃ s, h = .seen event :: s ∧ c.Trail s d := by
  rcases ht.cases_head with hnone | ⟨s, e, s', hm, ht, rfl⟩
  · exact .inl hnone
  · cases hm
    exact .inr ⟨s', rfl, ht⟩

theorem check_cases (ht : (Course.check c).Trail h d) : (h = [] ∧ d = .check c) ∨ c.Trail h d := by
  rcases ht.cases_head with hnone | ⟨s, e, s', hm, ht, rfl⟩
  · exact .inl hnone
  · cases hm
    exact .inr ht

/-- A course that is over goes nowhere. -/
theorem over_cases (ho : c.isOver = true) (ht : c.Trail h d) : h = [] ∧ d = c := by
  rcases ht.cases_head with hnone | ⟨s, e, s', hm, -, -⟩
  · exact hnone
  · cases hm <;> cases ho

/-- While a reply is awaited some of its beats are left. -/
theorem await_cases {r : Reply α} (ht : (await r).Trail h d) :
    h = [] ∧ ∃ beats, d = await ⟨beats, r.answer⟩ := by
  induction ht with
  | start => exact ⟨rfl, r.beats, rfl⟩
  | move _ hm ih =>
    obtain ⟨rfl, beats, rfl⟩ := ih
    cases beats with
    | nil => cases ha : r.answer <;> rw [ha] at hm <;> cases hm
    | cons beat beats =>
      cases beat <;> cases hm <;> exact ⟨rfl, beats, rfl⟩

/-- When a reply has been awaited its answer is there. -/
theorem await_done {r : Reply α} {a : α} (ht : (await r).Trail h (.done a)) :
    h = [] ∧ r.answer = some a := by
  obtain ⟨rfl, beats, hdone⟩ := ht.await_cases
  refine ⟨rfl, ?_⟩
  cases beats with
  | nil => cases ha : r.answer <;> rw [ha] at hdone <;> cases hdone; rfl
  | cons beat beats => cases beat <;> cases hdone

theorem firm (ht : c.Trail h d) (hc : c.Firm) : d.Firm := by
  induction ht with
  | start => exact hc
  | move _ hm ih =>
    cases hm with
    | emit event next => exact ih
    | ask query shielded next => exact ih
    | cancel next => exact ih
    | check next => exact ih.elim
    | pause shielded next => exact ih.2
    | send chunk next refused => exact ih.elim
    | refuse chunk next refused => exact ih.elim

end Trail

/-! ## Waiting again -/

/-- Nothing but cancellations stands between the course and a wait. -/
@[simp] def Pauses : Course α → Prop
  | .cancel next => next.Pauses
  | .pause _ _ => True
  | .stall _ => True
  | _ => False

/-- Nothing but cancellations stands between the course and its next event, or its end. -/
@[simp] def Brisk : Course α → Prop
  | .cancel next => next.Brisk
  | .done _ => True
  | .interrupted => True
  | .fault _ => True
  | .emit _ _ => True
  | _ => False

/-- A reply that is awaited waits before it answers, which a cancelled request does not live to see;
or it answers at once. -/
theorem await_pauses_or_answers (r : Reply α) (f : α → Course β) :
    ((await r >>= f).Pauses ∧ (await r >>= f).curb = .interrupted) ∨
      ∃ a, r.answer = some a ∧ (await r >>= f).curb = (f a).curb ∧
        ((f a).Brisk → (await r >>= f).Brisk) := by
  obtain ⟨beats, answer⟩ := r
  induction beats with
  | nil =>
    cases answer with
    | none => exact .inl ⟨trivial, rfl⟩
    | some a => exact .inr ⟨a, rfl, rfl, id⟩
  | cons beat beats ih =>
    cases beat with
    | wait => exact .inl ⟨trivial, rfl⟩
    | cancel => exact ih

end Course

/-! ## Machines that are cancelled -/

namespace Machine

variable {α : Type} {m : Machine α}

/-- Whatever the schedule, these events come next and, once the course has worked often enough, this
ending. -/
def ComesTo (m : Machine α) (events : List Event) (ending : Ending α) : Prop :=
  ∃ enough : Nat, ∀ (capacity : Nat) (later : List Act),
    (m.run capacity later).events <+: m.events ++ events ∧
      (enough ≤ later.count .work →
        (m.run capacity later).events = m.events ++ events ∧
          (m.run capacity later).course.ending? = some ending)

/-- What is seen of a cancelled machine in the end, and how it ends. -/
def story (m : Machine α) : List Event × Ending α :=
  (m.events ++ m.rest.curb.trace, m.rest.curb.outcome)

/-- The events that a machine leaves are taken from what was still to come. -/
theorem story_eq {m' : Machine α} {c c' : Course α} (es : List Event) (hr : m.rest = c)
    (hr' : m'.rest = c') (he : m'.events = m.events ++ es)
    (hl : c.curb.log = es.map .seen ++ c'.curb.log) (ho : c.curb.outcome = c'.curb.outcome) :
    m'.story = m.story := by
  have ht : c.curb.trace = es ++ c'.curb.trace := by simp [Course.trace, hl]
  rw [story, story, hr, hr', he, ht, ho, List.append_assoc]

/-- A bound for the work that a cancelled course takes: at most two acts a node. -/
def reach : Course α → Nat
  | .done _ => 0
  | .interrupted => 0
  | .fault _ => 0
  | .emit _ next => reach next + 2
  | .ask _ _ next => reach next + 2
  | .cancel next => reach next + 2
  | .check next => reach next + 2
  | .pause _ next => reach next + 2
  | .stall shielded => if shielded then 0 else 2
  | .send _ next _ => reach next + 2

/-- The work left to a cancelled machine; to have begun to wait counts as done. -/
def due (m : Machine α) : Nat := reach m.course - if m.waiting then 1 else 0

/-- A cancelled machine whose course sends nothing. -/
structure Bound (m : Machine α) : Prop where
  cancelled : m.cancelled = true
  quiet : m.course.Quiet
  waits : m.waiting = true → m.course.Waits

theorem quiet_of_rest (h : m.rest.Quiet) : m.course.Quiet := by
  unfold rest at h
  split at h
  · rename_i hc
    rw [hc]
    exact h
  · exact h

/-- Work changes nothing about the story, and brings its end nearer. -/
theorem Bound.work (hb : m.Bound) (capacity : Nat) :
    (m.work capacity).story = m.story ∧ (m.work capacity).due ≤ m.due - 1 := by
  obtain ⟨hx, hq, -⟩ := hb
  have off (hr : m.rest.curb = .interrupted) :
      (m.goOn .interrupted).story = m.story ∧ (m.goOn .interrupted).due ≤ m.due - 1 :=
    ⟨story_eq [] rfl (rest_goOn m _) (by simp [goOn]) (by rw [hr]; rfl) (by rw [hr]; rfl),
      Nat.zero_le _⟩
  have nearer {m' : Machine α} {next : Course α} (hs : reach m.course = reach next + 2)
      (hdue : m'.due = reach next) : m'.due ≤ m.due - 1 := by
    rw [hdue, due, hs]
    split <;> omega
  have wait {m' : Machine α} (hdue : m'.due = reach m.course - 1) (hw : m.waiting = false) :
      m'.due ≤ m.due - 1 := by
    rw [hdue]
    simp [due, hw]
  have hworks := m.works capacity
  generalize m.work capacity = m' at hworks ⊢
  cases hworks with
  | breaks hw _ hi =>
    refine off ?_
    cases hc : m.course with
    | ask query shielded next =>
      obtain rfl : shielded = false := by simpa [hc, Course.isInterruptible] using hi
      rw [rest_asked hc hw]
      rfl
    | pause shielded next =>
      obtain rfl : shielded = false := by simpa [hc, Course.isInterruptible] using hi
      rw [rest_of_not_ask hc (by simp)]
      rfl
    | stall shielded =>
      obtain rfl : shielded = false := by simpa [hc, Course.isInterruptible] using hi
      rw [rest_of_not_ask hc (by simp)]
      rfl
    | send chunk next refused => simp [hc] at hq
    | _ => simp [hc, Course.isInterruptible] at hi
  | ended ho =>
    have hs : reach m.course = 0 := by
      cases hc : m.course <;> simp_all [reach, Course.isOver]
    exact ⟨rfl, by simp [due, hs]⟩
  | @emit event next hc =>
    exact ⟨story_eq [event] (rest_of_not_ask hc (by simp)) rfl rfl rfl rfl,
      nearer (by rw [hc]; rfl) rfl⟩
  | @ask query shielded next hc hw =>
    exact ⟨story_eq [.asked query] ((rest_of_not_waiting hw).trans hc) (rest_asked hc rfl) rfl
      (by cases shielded <;> rfl) (by cases shielded <;> rfl), wait rfl hw⟩
  | @asked query shielded next hc hw hshield =>
    obtain rfl : shielded = true := by simpa [hx] using hshield
    exact ⟨story_eq [] (rest_asked hc hw) rfl (by simp [goOn]) rfl rfl,
      nearer (by rw [hc]; rfl) rfl⟩
  | cancel hc =>
    exact ⟨story_eq [] (rest_of_not_ask hc (by simp)) rfl (by simp [goOn]) rfl rfl,
      nearer (by rw [hc]; rfl) rfl⟩
  | check _ hx' => simp [hx] at hx'
  | @stop next hc _ =>
    have hr : m.rest = .check next := rest_of_not_ask hc (by simp)
    exact off (by rw [hr]; rfl)
  | pause hc hw =>
    exact ⟨story_eq [] rfl (rest_waiting hc (by simp)) (by simp) rfl rfl, wait rfl hw⟩
  | @paused shielded next hc hw hshield =>
    obtain rfl : shielded = true := by simpa [hx] using hshield
    exact ⟨story_eq [] (rest_of_not_ask hc (by simp)) rfl (by simp [goOn]) rfl rfl,
      nearer (by rw [hc]; rfl) rfl⟩
  | @stall shielded hc hshield =>
    refine ⟨story_eq [] rfl (rest_waiting hc (by simp)) (by simp) rfl rfl, ?_⟩
    cases hw : m.waiting with
    | false => exact wait rfl hw
    | true =>
      obtain rfl : shielded = true := by simpa [hw, hx] using hshield
      simp [due, hc, reach]
  | send hc _ _ _ => simp [hc] at hq
  | refuse hc _ _ => simp [hc] at hq
  | hold hc _ _ _ => simp [hc] at hq

/-- Only work leaves events. -/
theorem step_events (capacity : Nat) (m : Machine α) {a : Act} (h : a ≠ .work) :
    (m.step capacity a).events = m.events := by
  have hsteps := m.steps capacity a
  generalize m.step capacity a = m' at hsteps ⊢
  cases hsteps with
  | work => exact absurd rfl h
  | _ => rfl

theorem Bound.step (hb : m.Bound) (capacity : Nat) (a : Act) :
    (m.step capacity a).Bound ∧ (m.step capacity a).story = m.story ∧
      (m.step capacity a).due ≤ m.due - [a].count .work := by
  by_cases ha : a = .work
  · subst ha
    obtain ⟨hs, hd⟩ := hb.work capacity
    exact ⟨⟨step_cancelled hb.cancelled .work, quiet_work hb.quiet, step_waits hb.waits .work⟩,
      hs, hd⟩
  · obtain ⟨hc, hw⟩ := step_course capacity m ha
    have hr : (m.step capacity a).rest = m.rest := by rw [rest, hc, hw, rest]
    have he : (m.step capacity a).events = m.events := step_events capacity m ha
    refine ⟨⟨step_cancelled hb.cancelled a, hc ▸ hb.quiet, step_waits hb.waits a⟩,
      story_eq [] rfl hr (by simpa using he) rfl rfl, ?_⟩
    have hnone : [a].count Act.work = 0 := List.count_eq_zero.2 (by simpa using Ne.symm ha)
    rw [due, hc, hw, ← due, hnone]
    exact Nat.le_refl _

theorem Bound.run (hb : m.Bound) (capacity : Nat) (schedule : List Act) :
    (m.run capacity schedule).Bound ∧ (m.run capacity schedule).story = m.story ∧
      (m.run capacity schedule).due ≤ m.due - schedule.count .work := by
  induction schedule using List.reverseRecOn with
  | nil => exact ⟨hb, rfl, Nat.le_refl _⟩
  | append_singleton schedule a ih =>
    obtain ⟨hbound, hstory, hdue⟩ := ih
    obtain ⟨hbound', hstory', hdue'⟩ := hbound.step capacity a
    rw [run_append_singleton, List.count_append]
    exact ⟨hbound', hstory'.trans hstory, by omega⟩

/-- A cancelled machine with no work left is at its end. -/
theorem story_of_due (hd : m.due = 0) :
    ∃ e, m.course.ending? = some e ∧ m.story = (m.events, e) := by
  unfold due at hd
  have last (c : Course α) (hc : m.course = c) (hn : ∀ q s next, c ≠ .ask q s next) {e : Ending α}
      (he : c.ending? = some e) (hl : c.curb.log = []) (ho : c.curb.outcome = e) :
      ∃ e, c.ending? = some e ∧ m.story = (m.events, e) := by
    refine ⟨e, he, ?_⟩
    rw [story, rest_of_not_ask hc hn, Course.trace, hl, ho]
    simp
  cases hc : m.course with
  | done a => exact last _ hc (by simp) rfl rfl rfl
  | interrupted => exact last _ hc (by simp) rfl rfl rfl
  | fault cause => exact last _ hc (by simp) rfl rfl rfl
  | stall shielded =>
    cases shielded with
    | true => exact last _ hc (by simp) rfl rfl rfl
    | false =>
      rw [hc] at hd
      cases hwait : m.waiting <;> simp [hwait, reach] at hd
  | _ =>
    rw [hc] at hd
    cases hwait : m.waiting <;> simp [hwait, reach] at hd

/-- **What comes of a cancelled machine** is what is left of its course. -/
theorem Bound.comesTo (hb : m.Bound) : m.ComesTo m.rest.curb.trace m.rest.curb.outcome := by
  refine ⟨m.due, fun capacity later => ?_⟩
  obtain ⟨hbound, hstory, hdue⟩ := hb.run capacity later
  generalize m.run capacity later = m' at hbound hstory hdue ⊢
  obtain ⟨hevents, hending⟩ := Prod.mk.inj hstory
  refine ⟨⟨_, hevents⟩, fun henough => ?_⟩
  obtain ⟨e, he, hs⟩ := story_of_due (m := m') (by omega)
  obtain ⟨hs, ho⟩ := Prod.mk.inj hs
  exact ⟨by rw [← hs, hevents], by rw [he, ← ho, hending]⟩

/-! ## Whether the course waits again -/

/-- The course waits, or will wait once more before anything else happens. -/
def StillWaits (m : Machine α) : Prop :=
  ∃ (capacity : Nat) (later : List Act),
    (m.run capacity later).events = m.events ∧ (m.run capacity later).waiting = true

theorem stillWaits_of_pauses (h : m.rest.Pauses) : m.StillWaits := by
  cases hw : m.waiting with
  | true => exact ⟨0, [], rfl, hw⟩
  | false =>
    have hc : m.course = m.rest := (rest_of_not_waiting hw).symm
    generalize m.rest = c at h hc
    -- the cancellations on the way take one act each
    induction c generalizing m with
    | cancel next ih =>
      obtain ⟨capacity, later, he, hwaits⟩ :=
        ih (m := { m.goOn next with cancelled := true }) rfl h rfl
      have hstep : m.step capacity .work = { m.goOn next with cancelled := true } := work_cancel hc
      refine ⟨capacity, .work :: later, ?_, ?_⟩ <;>
        rw [run, List.foldl_cons, hstep, ← run]
      · exact he
      · exact hwaits
    | pause shielded next _ =>
      have hstep : m.step 0 .work = { m with waiting := true } := work_pause hc hw
      exact ⟨0, [.work], by rw [run, List.foldl_cons, hstep]; rfl,
        by rw [run, List.foldl_cons, hstep]; rfl⟩
    | stall shielded =>
      have hstep : m.step 0 .work = { m with waiting := true } := work_stall hc (by simp [hw])
      exact ⟨0, [.work], by rw [run, List.foldl_cons, hstep]; rfl,
        by rw [run, List.foldl_cons, hstep]; rfl⟩
    | _ => exact h.elim

/-- Something has happened since, or else will before the course waits. -/
def Moves (seen : List Event) (m : Machine α) : Prop :=
  seen.length < m.events.length ∨ seen = m.events ∧ m.waiting = false ∧ m.course.Brisk

theorem Moves.step {seen : List Event} (hm : m.Moves seen) (capacity : Nat) (a : Act) :
    (m.step capacity a).Moves seen := by
  rcases hm with hlt | ⟨rfl, hw, hb⟩
  · exact .inl (Nat.lt_of_lt_of_le hlt (events_prefix_step capacity m a).length_le)
  by_cases ha : a = .work
  · subst ha
    change (m.work capacity).Moves m.events
    have hworks := m.works capacity
    generalize m.work capacity = m' at hworks ⊢
    cases hworks with
    | ended _ => exact .inr ⟨rfl, hw, hb⟩
    | emit _ => exact .inl (by simp)
    | cancel hc =>
      rw [hc] at hb
      exact .inr ⟨rfl, rfl, hb⟩
    | _ => simp_all [Course.Brisk]
  · obtain ⟨hc, hw'⟩ := step_course capacity m ha
    exact .inr ⟨(step_events capacity m ha).symm, hw'.trans hw, hc ▸ hb⟩

theorem Moves.run {seen : List Event} (hm : m.Moves seen) (capacity : Nat) (schedule : List Act) :
    (m.run capacity schedule).Moves seen :=
  run_induction hm (fun _ a hm => hm.step capacity a) schedule

theorem not_stillWaits_of_brisk (hwaits : m.waiting = true → m.course.Waits) (h : m.rest.Brisk) :
    ¬m.StillWaits := by
  have hw : m.waiting = false := by
    by_contra hw
    have hcourse := hwaits (by simpa using hw)
    unfold rest at h
    cases hc : m.course <;> simp_all [Course.Waits]
  rintro ⟨capacity, later, he, hlater⟩
  have hm : m.Moves m.events := .inr ⟨rfl, hw, rest_of_not_waiting hw ▸ h⟩
  rcases hm.run capacity later with hlt | ⟨-, hnot, -⟩
  · rw [he] at hlt
    exact Nat.lt_irrefl _ hlt
  · rw [hnot] at hlater
    cases hlater

end Machine

end ChatGateway
