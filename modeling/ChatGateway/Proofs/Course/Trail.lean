import Mathlib.Data.List.Induction
import ChatGateway.Course.Machine

/-!
# Trails

A machine does nothing but follow its course, whatever the schedule: `Machine.run_trail`. The course
moves node by node (`Course.Move`) and leaves marks as it goes, the events and the fate of each
chunk; a trail (`Course.Trail`) is a sequence of moves. After any schedule the machine stands at the
end of a trail whose marks are what can be seen of it (`Machine.Bears`), unless it was called off at
a node that lets a cancellation through (`Course.Breakable`). What an act can do to a machine is
listed in `Machine.Steps`, and what work can do in `Machine.Works`; what a schedule does follows
from that.
-/

namespace ChatGateway

/-- What a course leaves behind at a node. -/
inductive Mark where
  | seen (event : Event)
  /-- A chunk went to the channel. -/
  | sent (chunk : StreamChunk)
  /-- Nobody would take a chunk. -/
  | refused
deriving DecidableEq, Repr

namespace Mark

def event? : Mark → Option Event
  | .seen event => some event
  | _ => none

def chunk? : Mark → Option StreamChunk
  | .sent chunk => some chunk
  | _ => none

/-- The events among some marks. -/
def events (h : List Mark) : List Event := h.filterMap event?

/-- The chunks among some marks that went to the channel. -/
def chunks (h : List Mark) : List StreamChunk := h.filterMap chunk?

@[simp] theorem events_append (h s : List Mark) : events (h ++ s) = events h ++ events s :=
  List.filterMap_append

@[simp] theorem chunks_append (h s : List Mark) : chunks (h ++ s) = chunks h ++ chunks s :=
  List.filterMap_append

@[simp] theorem events_nil : events [] = [] := rfl

@[simp] theorem chunks_nil : chunks [] = [] := rfl

@[simp] theorem events_seen (e : Event) (h : List Mark) : events (.seen e :: h) = e :: events h :=
  rfl

@[simp] theorem chunks_seen (e : Event) (h : List Mark) : chunks (.seen e :: h) = chunks h := rfl

@[simp] theorem events_sent (c : StreamChunk) (h : List Mark) :
    events (.sent c :: h) = events h := rfl

@[simp] theorem chunks_sent (c : StreamChunk) (h : List Mark) :
    chunks (.sent c :: h) = c :: chunks h := rfl

@[simp] theorem events_refused (h : List Mark) : events (.refused :: h) = events h := rfl

@[simp] theorem chunks_refused (h : List Mark) : chunks (.refused :: h) = chunks h := rfl

@[simp] theorem events_map_sent (cs : List StreamChunk) : events (cs.map .sent) = [] := by
  induction cs with
  | nil => rfl
  | cons c cs ih => simp [ih]

@[simp] theorem chunks_map_sent (cs : List StreamChunk) : chunks (cs.map .sent) = cs := by
  induction cs with
  | nil => rfl
  | cons c cs ih => simp [ih]

@[simp] theorem events_map_seen (es : List Event) : events (es.map .seen) = es := by
  induction es with
  | nil => rfl
  | cons e es ih => simp [ih]

@[simp] theorem chunks_map_seen (es : List Event) : chunks (es.map .seen) = [] := by
  induction es with
  | nil => rfl
  | cons e es ih => simp [ih]

/-- The marks of events up to some moment. -/
theorem of_prefix_seen {s : List Mark} {es : List Event} (h : s <+: es.map .seen) :
    chunks s = [] ∧ events s <+: es := by
  have hchunks : chunks s <+: chunks (es.map .seen) := h.filterMap _
  have hevents : events s <+: events (es.map .seen) := h.filterMap _
  rw [chunks_map_seen, List.prefix_nil] at hchunks
  rw [events_map_seen] at hevents
  exact ⟨hchunks, hevents⟩

end Mark

namespace Course

variable {α : Type}

/-- A move from one node to the next, with the marks it leaves. Once its question is asked a course
waits as at a pause. -/
inductive Move : Course α → List Mark → Course α → Prop
  | emit (event : Event) (next : Course α) : Move (.emit event next) [.seen event] next
  | ask (query : Query) (shielded : Bool) (next : Course α) :
    Move (.ask query shielded next) [.seen (.asked query)] (.pause shielded next)
  | cancel (next : Course α) : Move (.cancel next) [] next
  | check (next : Course α) : Move (.check next) [] next
  | pause (shielded : Bool) (next : Course α) : Move (.pause shielded next) [] next
  | send (chunk : StreamChunk) (next refused : Course α) :
    Move (.send chunk next refused) [.sent chunk] next
  | refuse (chunk : StreamChunk) (next refused : Course α) :
    Move (.send chunk next refused) [.refused] refused

/-- `c.Trail h d`: moves lead from `c` to `d` and leave the marks `h`. -/
inductive Trail (c : Course α) : List Mark → Course α → Prop
  | start : Trail c [] c
  | move {h s : List Mark} {d e : Course α} : Trail c h d → Move d s e → Trail c (h ++ s) e

/-- Whether a course can be called off at its next node. While it waits for an answer it stands at
a pause, not at the question. -/
def Breakable : Course α → Prop
  | .check _ => True
  | .ask _ _ _ => False
  | c => c.isInterruptible = true

end Course

namespace Machine

variable {α : Type}

/-- A machine that is about to begin a course. -/
def start (c : Course α) (cancelled : Bool := false) : Machine α := { course := c, cancelled }

/-- What is left of the course. A machine that waits for an answer has asked already. -/
def rest (m : Machine α) : Course α :=
  match m.waiting, m.course with
  | true, .ask _ shielded next => .pause shielded next
  | _, c => c

/-- The marks account for what can be seen of a machine. -/
structure Bears (m : Machine α) (h : List Mark) : Prop where
  events_eq : m.events = Mark.events h
  received_prefix : m.received <+: Mark.chunks h
  /-- As long as there is a receiver, no chunk is lost on the way. -/
  chunks_eq : m.receiving = true → m.received ++ m.queue = Mark.chunks h ∧ Mark.refused ∉ h

theorem bears_start (c : Course α) (cancelled : Bool) : (start c cancelled).Bears [] where
  events_eq := rfl
  received_prefix := List.nil_prefix
  chunks_eq _ := ⟨rfl, List.not_mem_nil⟩

/-- Marks of events alone come with the same events seen and nothing else changed. -/
theorem Bears.of_seen {m m' : Machine α} {h : List Mark} (hb : m.Bears h) (es : List Event)
    (he : m'.events = m.events ++ es) (hr : m'.received = m.received) (hq : m'.queue = m.queue)
    (hk : m'.receiving = m.receiving) : m'.Bears (h ++ es.map .seen) where
  events_eq := by rw [he, hb.events_eq]; simp
  received_prefix := by rw [hr]; simpa using hb.received_prefix
  chunks_eq hk' := by
    obtain ⟨h₁, h₂⟩ := hb.chunks_eq (hk ▸ hk')
    rw [hr, hq, h₁]
    simpa using h₂

theorem Bears.of_eq {m m' : Machine α} {h : List Mark} (hb : m.Bears h)
    (he : m'.events = m.events) (hr : m'.received = m.received) (hq : m'.queue = m.queue)
    (hk : m'.receiving = m.receiving) : m'.Bears h := by
  simpa using hb.of_seen [] (by simpa using he) hr hq hk

theorem Bears.silent {m m' : Machine α} {h : List Mark} (hb : m.Bears h)
    (he : m'.events = m.events) (hr : m'.received = m.received) (hq : m'.queue = m.queue)
    (hk : m'.receiving = m.receiving) : m'.Bears (h ++ []) := by
  rw [List.append_nil]
  exact hb.of_eq he hr hq hk

/-! ## What one act does -/

section Work

variable {capacity : Nat} {m : Machine α} {next refused : Course α}

theorem work_breaks (h : (m.waiting && m.cancelled && m.course.isInterruptible) = true) :
    m.work capacity = m.goOn .interrupted := by
  rw [work, if_pos h]

theorem work_over (h : m.course.isOver = true) : m.work capacity = m := by
  cases hc : m.course <;> simp_all [work, Course.isOver, Course.isInterruptible]

theorem work_emit {event : Event} (h : m.course = .emit event next) :
    m.work capacity = { m.goOn next with events := m.events ++ [event] } := by
  simp [work, h, Course.isInterruptible]

theorem work_ask {query : Query} {shielded : Bool} (h : m.course = .ask query shielded next)
    (hw : m.waiting = false) :
    m.work capacity = { m with waiting := true, events := m.events ++ [.asked query] } := by
  simp [work, h, hw]

theorem work_asked {query : Query} {shielded : Bool} (h : m.course = .ask query shielded next)
    (hw : m.waiting = true) (hx : (m.cancelled && !shielded) = false) :
    m.work capacity = m.goOn next := by
  simp [work, h, hw, Course.isInterruptible, hx]

theorem work_cancel (h : m.course = .cancel next) :
    m.work capacity = { m.goOn next with cancelled := true } := by
  simp [work, h, Course.isInterruptible]

theorem work_check (h : m.course = .check next) :
    m.work capacity = if m.cancelled then m.goOn .interrupted else m.goOn next := by
  simp [work, h, Course.isInterruptible]

theorem work_pause {shielded : Bool} (h : m.course = .pause shielded next)
    (hw : m.waiting = false) : m.work capacity = { m with waiting := true } := by
  simp [work, h, hw]

theorem work_paused {shielded : Bool} (h : m.course = .pause shielded next)
    (hw : m.waiting = true) (hx : (m.cancelled && !shielded) = false) :
    m.work capacity = m.goOn next := by
  simp [work, h, hw, Course.isInterruptible, hx]

theorem work_stall {shielded : Bool} (h : m.course = .stall shielded)
    (hx : (m.waiting && m.cancelled && !shielded) = false) :
    m.work capacity = { m with waiting := true } := by
  simp [work, h, Course.isInterruptible, hx]

theorem work_send {chunk : StreamChunk} (h : m.course = .send chunk next refused)
    (hx : (m.waiting && m.cancelled) = false) :
    m.work capacity = m.offer capacity chunk next refused := by
  simp [work, h, Course.isInterruptible, hx]

end Work

/-- What work does, by the node at which the course stands. -/
inductive Works (capacity : Nat) (m : Machine α) : Machine α → Prop
  /-- A cancellation gets through to a course that waits. -/
  | breaks : m.waiting = true → m.cancelled = true → m.course.isInterruptible = true →
    Works capacity m (m.goOn .interrupted)
  | ended : m.course.isOver = true → Works capacity m m
  | emit {event : Event} {next : Course α} : m.course = .emit event next →
    Works capacity m { m.goOn next with events := m.events ++ [event] }
  | ask {query : Query} {shielded : Bool} {next : Course α} :
    m.course = .ask query shielded next → m.waiting = false →
    Works capacity m { m with waiting := true, events := m.events ++ [.asked query] }
  | asked {query : Query} {shielded : Bool} {next : Course α} :
    m.course = .ask query shielded next → m.waiting = true → (m.cancelled && !shielded) = false →
    Works capacity m (m.goOn next)
  | cancel {next : Course α} : m.course = .cancel next →
    Works capacity m { m.goOn next with cancelled := true }
  | check {next : Course α} : m.course = .check next → m.cancelled = false →
    Works capacity m (m.goOn next)
  /-- A cancellation is noticed. -/
  | stop {next : Course α} : m.course = .check next → m.cancelled = true →
    Works capacity m (m.goOn .interrupted)
  | pause {shielded : Bool} {next : Course α} : m.course = .pause shielded next →
    m.waiting = false → Works capacity m { m with waiting := true }
  | paused {shielded : Bool} {next : Course α} : m.course = .pause shielded next →
    m.waiting = true → (m.cancelled && !shielded) = false → Works capacity m (m.goOn next)
  | stall {shielded : Bool} : m.course = .stall shielded →
    (m.waiting && m.cancelled && !shielded) = false → Works capacity m { m with waiting := true }
  | send {chunk : StreamChunk} {next refused : Course α} : m.course = .send chunk next refused →
    (m.waiting && m.cancelled) = false → m.receiving = true → m.queue.length < capacity →
    Works capacity m { m.goOn next with queue := m.queue ++ [chunk] }
  | refuse {chunk : StreamChunk} {next refused : Course α} : m.course = .send chunk next refused →
    (m.waiting && m.cancelled) = false → m.receiving = false → Works capacity m (m.goOn refused)
  /-- There is no room for a chunk. -/
  | hold {chunk : StreamChunk} {next refused : Course α} : m.course = .send chunk next refused →
    (m.waiting && m.cancelled) = false → m.receiving = true → capacity ≤ m.queue.length →
    Works capacity m { m with waiting := true }

/-- **Work is one of these.** -/
theorem works (capacity : Nat) (m : Machine α) : m.Works capacity (m.work capacity) := by
  by_cases hi : (m.waiting && m.cancelled && m.course.isInterruptible) = true
  · rw [work_breaks hi]
    simp only [Bool.and_eq_true] at hi
    exact .breaks hi.1.1 hi.1.2 hi.2
  have hended (ho : m.course.isOver = true) : m.Works capacity (m.work capacity) := by
    rw [work_over ho]
    exact .ended ho
  cases hc : m.course with
  | done a => exact hended (by rw [hc]; rfl)
  | interrupted => exact hended (by rw [hc]; rfl)
  | fault cause => exact hended (by rw [hc]; rfl)
  | emit event next =>
    rw [work_emit hc]
    exact .emit hc
  | ask query shielded next =>
    cases hw : m.waiting with
    | false =>
      rw [work_ask hc hw]
      exact .ask hc hw
    | true =>
      have hx : (m.cancelled && !shielded) = false := by
        simpa [hw, hc, Course.isInterruptible] using hi
      rw [work_asked hc hw hx]
      exact .asked hc hw hx
  | cancel next =>
    rw [work_cancel hc]
    exact .cancel hc
  | check next =>
    rw [work_check hc]
    cases hx : m.cancelled with
    | true => exact .stop hc hx
    | false => exact .check hc hx
  | pause shielded next =>
    cases hw : m.waiting with
    | false =>
      rw [work_pause hc hw]
      exact .pause hc hw
    | true =>
      have hx : (m.cancelled && !shielded) = false := by
        simpa [hw, hc, Course.isInterruptible] using hi
      rw [work_paused hc hw hx]
      exact .paused hc hw hx
  | stall shielded =>
    have hx : (m.waiting && m.cancelled && !shielded) = false := by
      simpa [hc, Course.isInterruptible] using hi
    rw [work_stall hc hx]
    exact .stall hc hx
  | send chunk next refused =>
    have hx : (m.waiting && m.cancelled) = false := by
      simpa [hc, Course.isInterruptible] using hi
    rw [work_send hc hx, offer]
    split
    · exact .refuse hc hx ‹_›
    · have hr : m.receiving = true := by simpa using ‹¬m.receiving = false›
      split
      · exact .send hc hx hr ‹_›
      · exact .hold hc hx hr (Nat.le_of_not_lt ‹_›)

/-- What an act does, by who acts. -/
inductive Steps (capacity : Nat) (m : Machine α) : Act → Machine α → Prop
  | work : Steps capacity m .work (m.work capacity)
  | receive {chunk : StreamChunk} {queue : List StreamChunk} : m.queue = chunk :: queue →
    m.receiving = true →
    Steps capacity m .receive { m with queue, received := m.received ++ [chunk] }
  /-- There is no chunk, or nobody to receive it. -/
  | idle : m.queue = [] ∨ m.receiving = false → Steps capacity m .receive m
  | drop : Steps capacity m .drop { m with receiving := false, queue := [] }
  | cancel : (m.waiting || m.course.isOver) = true →
    Steps capacity m .cancel { m with cancelled := true }
  /-- Nobody looks for a cancellation. -/
  | ignore : (m.waiting || m.course.isOver) = false → Steps capacity m .cancel m

/-- **An act is one of these.** -/
theorem steps (capacity : Nat) (m : Machine α) (a : Act) :
    m.Steps capacity a (m.step capacity a) := by
  cases a with
  | work => exact .work
  | receive =>
    change m.Steps capacity .receive m.receive
    unfold receive
    split
    · exact .idle (.inl ‹_›)
    · split
      · exact .receive ‹_› ‹_›
      · exact .idle (.inr (by simpa using ‹¬m.receiving = true›))
  | drop => exact .drop
  | cancel =>
    change m.Steps capacity .cancel m.cancel
    unfold cancel
    split
    · exact .cancel ‹_›
    · exact .ignore (by simpa using ‹¬(m.waiting || m.course.isOver) = true›)

theorem rest_of_not_waiting {m : Machine α} (h : m.waiting = false) : m.rest = m.course := by
  unfold rest
  rw [h]

theorem rest_of_not_ask {m : Machine α} {c : Course α} (hc : m.course = c)
    (h : ∀ q s next, c ≠ .ask q s next) : m.rest = c := by
  unfold rest
  rw [hc]
  split
  · exact absurd rfl (h _ _ _)
  · rfl

theorem rest_asked {m : Machine α} {query : Query} {shielded : Bool} {next : Course α}
    (hc : m.course = .ask query shielded next) (hw : m.waiting = true) :
    m.rest = .pause shielded next := by
  unfold rest
  rw [hc, hw]

theorem rest_waiting {m : Machine α} {c : Course α} (hc : m.course = c)
    (h : ∀ q s next, c ≠ .ask q s next) :
    ({ m with waiting := true } : Machine α).rest = m.rest := by
  rw [rest_of_not_ask hc h]
  exact rest_of_not_ask hc h

@[simp] theorem rest_goOn (m : Machine α) (c : Course α) : (m.goOn c).rest = c := rfl

/-- How an act takes a machine with the marks `h` to another one: it stays where it is, or it moves
on, or it is called off. -/
inductive Shift (m m' : Machine α) (h : List Mark) : Prop
  | stay : m'.rest = m.rest → m'.Bears h → Shift m m' h
  | move {s : List Mark} {d e : Course α} :
    m.rest = d → Course.Move d s e → m'.rest = e → m'.Bears (h ++ s) → Shift m m' h
  | stop : m'.course = .interrupted → m.cancelled = true → m'.cancelled = true →
    m.rest.Breakable → m'.Bears h → Shift m m' h

/-- What the course does at its next node. -/
theorem shift_work (capacity : Nat) (m : Machine α) {h : List Mark} (hb : m.Bears h) :
    m.Shift (m.work capacity) h := by
  have hworks := m.works capacity
  generalize m.work capacity = m' at hworks ⊢
  cases hworks with
  | breaks hw hx hi =>
    refine .stop rfl hx hx ?_ (hb.of_eq rfl rfl rfl rfl)
    cases hc : m.course with
    | ask query shielded next =>
      rw [rest_asked hc hw]
      simpa [Course.Breakable, Course.isInterruptible, hc] using hi
    | _ => simp_all [rest_of_not_ask hc, Course.Breakable, Course.isInterruptible]
  | ended _ => exact .stay rfl hb
  | @emit event next hc =>
    exact .move (rest_of_not_ask hc (by simp)) (.emit event next) rfl
      (hb.of_seen [event] rfl rfl rfl rfl)
  | @ask query shielded next hc hw =>
    exact .move (by rw [rest_of_not_waiting hw, hc]) (.ask query shielded next)
      (rest_asked hc rfl) (hb.of_seen [.asked query] rfl rfl rfl rfl)
  | asked hc hw _ =>
    exact .move (rest_asked hc hw) (.pause _ _) rfl (hb.silent rfl rfl rfl rfl)
  | cancel hc =>
    exact .move (rest_of_not_ask hc (by simp)) (.cancel _) rfl (hb.silent rfl rfl rfl rfl)
  | check hc _ =>
    exact .move (rest_of_not_ask hc (by simp)) (.check _) rfl (hb.silent rfl rfl rfl rfl)
  | stop hc hx =>
    have hrest := rest_of_not_ask hc (by simp)
    exact .stop rfl hx hx (by rw [hrest]; trivial) (hb.of_eq rfl rfl rfl rfl)
  | pause hc _ => exact .stay (rest_waiting hc (by simp)) (hb.of_eq rfl rfl rfl rfl)
  | paused hc _ _ =>
    exact .move (rest_of_not_ask hc (by simp)) (.pause _ _) rfl (hb.silent rfl rfl rfl rfl)
  | stall hc _ => exact .stay (rest_waiting hc (by simp)) (hb.of_eq rfl rfl rfl rfl)
  | @send chunk next refused hc _ _ _ =>
    refine .move (rest_of_not_ask hc (by simp)) (.send chunk next refused) rfl
      ⟨?_, ?_, fun hk => ?_⟩
    · simpa [goOn] using hb.events_eq
    · simpa [goOn] using hb.received_prefix.trans (List.prefix_append _ _)
    · obtain ⟨h₁, h₂⟩ := hb.chunks_eq hk
      exact ⟨by simp [goOn, ← h₁], by simpa using h₂⟩
  | @refuse chunk next refused hc _ hr =>
    refine .move (rest_of_not_ask hc (by simp)) (.refuse chunk next refused) rfl
      ⟨?_, ?_, fun hk => ?_⟩
    · simpa [goOn] using hb.events_eq
    · simpa [goOn] using hb.received_prefix
    · simp [goOn, hr] at hk
  | hold hc _ _ _ => exact .stay (rest_waiting hc (by simp)) (hb.of_eq rfl rfl rfl rfl)

/-- **What one act does.** Whoever acts, the machine stays, moves on or is called off. -/
theorem shift_step (capacity : Nat) (m : Machine α) (a : Act) {h : List Mark} (hb : m.Bears h) :
    m.Shift (m.step capacity a) h := by
  have hsteps := m.steps capacity a
  generalize m.step capacity a = m' at hsteps ⊢
  cases hsteps with
  | work => exact shift_work capacity m hb
  | @receive chunk queue hq hr =>
    obtain ⟨hc, hm⟩ := hb.chunks_eq hr
    have hc' : (m.received ++ [chunk]) ++ queue = Mark.chunks h := by simpa [hq] using hc
    exact .stay rfl ⟨hb.events_eq, ⟨queue, hc'⟩, fun _ => ⟨hc', hm⟩⟩
  | drop => exact .stay rfl ⟨hb.events_eq, hb.received_prefix, fun hr => by cases hr⟩
  | _ => exact .stay rfl (hb.of_eq rfl rfl rfl rfl)

/-! ## What a schedule does -/

theorem run_append (capacity : Nat) (m : Machine α) (schedule later : List Act) :
    m.run capacity (schedule ++ later) = (m.run capacity schedule).run capacity later :=
  List.foldl_append

theorem run_append_singleton (capacity : Nat) (m : Machine α) (schedule : List Act) (a : Act) :
    m.run capacity (schedule ++ [a]) = (m.run capacity schedule).step capacity a :=
  run_append capacity m schedule [a]

/-- What holds at first, and is kept by every act, holds after every schedule. -/
theorem run_induction {capacity : Nat} {p : Machine α → Prop} {m : Machine α} (h : p m)
    (hstep : ∀ m a, p m → p (m.step capacity a)) (schedule : List Act) :
    p (m.run capacity schedule) := by
  induction schedule generalizing m with
  | nil => exact h
  | cons a schedule ih => exact ih (hstep m a h)

theorem course_of_rest {m : Machine α} {c : Course α} (h : m.rest = c)
    (hc : ∀ s next, c ≠ .pause s next) : m.course = c := by
  unfold rest at h
  split at h
  · exact absurd h.symm (hc _ _)
  · exact h

/-- A cancellation is never taken back. -/
theorem step_cancelled {capacity : Nat} {m : Machine α} (h : m.cancelled = true) (a : Act) :
    (m.step capacity a).cancelled = true := by
  have hsteps := m.steps capacity a
  generalize m.step capacity a = m' at hsteps ⊢
  cases hsteps with
  | work =>
    have hworks := m.works capacity
    generalize m.work capacity = m' at hworks ⊢
    cases hworks with
    | cancel _ => rfl
    | _ => exact h
  | cancel _ => rfl
  | _ => exact h

theorem step_receiving {capacity : Nat} (m : Machine α) {a : Act} (h : a ≠ .drop) :
    (m.step capacity a).receiving = m.receiving := by
  have hsteps := m.steps capacity a
  generalize m.step capacity a = m' at hsteps ⊢
  cases hsteps with
  | work =>
    have hworks := m.works capacity
    generalize m.work capacity = m' at hworks ⊢
    cases hworks <;> rfl
  | drop => exact absurd rfl h
  | _ => rfl

/-- A receiver stays unless it goes away. -/
theorem run_receiving {capacity : Nat} {m : Machine α} {schedule : List Act}
    (h : Act.drop ∉ schedule) : (m.run capacity schedule).receiving = m.receiving := by
  induction schedule using List.reverseRecOn with
  | nil => rfl
  | append_singleton schedule a ih =>
    simp only [List.mem_append, List.mem_singleton, not_or] at h
    rw [run_append_singleton, step_receiving _ (Ne.symm h.2), ih h.1]

/-- **What a schedule does.** After any schedule the machine stands at the end of a trail whose
marks account for what can be seen of it, unless it was called off there. -/
theorem run_trail (capacity : Nat) (c : Course α) (cancelled : Bool) (schedule : List Act) :
    ∃ h d, c.Trail h d ∧ ((start c cancelled).run capacity schedule).Bears h ∧
      (((start c cancelled).run capacity schedule).rest = d ∨
        ((start c cancelled).run capacity schedule).course = .interrupted ∧
          ((start c cancelled).run capacity schedule).cancelled = true ∧ d.Breakable) := by
  induction schedule using List.reverseRecOn with
  | nil => exact ⟨[], c, .start, bears_start c cancelled, .inl rfl⟩
  | append_singleton schedule a ih =>
    obtain ⟨h, d, ht, hb, hm⟩ := ih
    rw [run_append_singleton]
    generalize (start c cancelled).run capacity schedule = m at hb hm ⊢
    rcases hm with rfl | ⟨hi, hx, hd⟩
    · cases shift_step capacity m a hb with
      | stay hr hb' => exact ⟨h, m.rest, ht, hb', .inl hr⟩
      | move hd hmove he hb' => exact ⟨_, _, ht.move (hd ▸ hmove), hb', .inl he⟩
      | stop hi' _ hx' hd hb' => exact ⟨h, m.rest, ht, hb', .inr ⟨hi', hx', hd⟩⟩
    · -- nothing moves once the course was called off
      have hrest : m.rest = .interrupted := rest_of_not_ask hi (by simp)
      cases shift_step capacity m a hb with
      | stay hr hb' =>
        exact ⟨h, d, ht, hb', .inr ⟨course_of_rest (hr.trans hrest) (by simp),
          step_cancelled hx a, hd⟩⟩
      | move hd' hmove _ _ =>
        rw [← hd', hrest] at hmove
        cases hmove
      | stop hi' _ hx' _ hb' => exact ⟨h, d, ht, hb', .inr ⟨hi', hx', hd⟩⟩

end Machine

end ChatGateway
