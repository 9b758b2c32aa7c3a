import ChatGateway.Proofs.Course.Following

/-!
# What follows a cancellation

A cancellation that comes from outside finds a course where it waits. A course that cancels its
request itself goes on until it waits next: until then it is hot. `c.Heeds ok faults post hot` says
what it may do meanwhile: it leaves only marks that are `ok`, and stops by a fault only if `faults`.
This passes through `>>=` (`heeds_bind`). A reply leaves a course as hot as its beats (`Beat.heat`);
courses that wait for replies that rest (`Reply.Rests`) are calm (`Course.Calm`).
-/

namespace ChatGateway

/-! ## Beats -/

/-- Whether a request is hot after some beats: it was cancelled and has not waited since. -/
def Beat.heat (hot : Bool) : List Beat → Bool
  | [] => hot
  | .wait :: beats => heat false beats
  | .cancel :: beats => heat true beats

namespace Beat

end Beat

namespace Reply

variable {α : Type}

/-- The call does not answer right after it cancels the request. -/
def Rests (r : Reply α) : Prop := r.answer ≠ none → Beat.heat false r.beats = false

end Reply

/-! ## While a course is hot -/

namespace Course

variable {α β : Type}

/-- A cancellation gets through wherever the course waits. -/
@[simp] def Open : Course α → Prop
  | .done _ => True
  | .interrupted => True
  | .fault _ => True
  | .emit _ next => next.Open
  | .ask _ shielded next => shielded = false ∧ next.Open
  | .cancel next => next.Open
  | .check next => next.Open
  | .pause shielded next => shielded = false ∧ next.Open
  | .stall shielded => shielded = false
  | .send _ next refused => next.Open ∧ refused.Open

/-- What a course does while it is hot, and whether it is hot at its end. A wait cools it down,
since a cancellation that comes before the end of the wait gets through; only a shielded wait does
not. -/
@[simp] def Heeds (ok : Mark → Prop) (faults : Prop) (post : α → Bool → Prop) :
    Course α → Bool → Prop
  | .done a, hot => post a hot
  | .interrupted, _ => True
  | .fault _, hot => hot = true → faults
  | .emit event next, hot => (hot = true → ok (.seen event)) ∧ next.Heeds ok faults post hot
  | .ask query shielded next, hot => (hot = true → ok (.seen (.asked query))) ∧
    ∀ later, (later = true → shielded = true) → next.Heeds ok faults post later
  | .cancel next, _ => next.Heeds ok faults post true
  | .check next, _ => next.Heeds ok faults post false
  | .pause shielded next, _ =>
    ∀ later, (later = true → shielded = true) → next.Heeds ok faults post later
  | .stall _, _ => True
  | .send chunk next refused, hot => (hot = true → ok (.sent chunk) ∧ ok .refused) ∧
    next.Heeds ok faults post hot ∧ refused.Heeds ok faults post hot

variable {ok : Mark → Prop} {faults : Prop} {post : α → Bool → Prop}

theorem Open.bind {c : Course α} (hc : c.Open) {f : α → Course β} (hf : ∀ a, (f a).Open) :
    (c >>= f).Open := by
  change (c.bind f).Open
  induction c with
  | done a => exact hf a
  | emit event next ih => exact ih hc
  | ask query shielded next ih => exact ⟨hc.1, ih hc.2⟩
  | cancel next ih => exact ih hc
  | check next ih => exact ih hc
  | pause shielded next ih => exact ⟨hc.1, ih hc.2⟩
  | stall shielded => exact hc
  | send chunk next refused ih ih' => exact ⟨ih hc.1, ih' hc.2⟩
  | _ => trivial

theorem heeds_bind {post : β → Bool → Prop} (c : Course α) (f : α → Course β) (hot : Bool) :
    (c >>= f).Heeds ok faults post hot ↔
      c.Heeds ok faults (fun a hot => (f a).Heeds ok faults post hot) hot := by
  change (c.bind f).Heeds ok faults post hot ↔ _
  induction c generalizing hot with
  | done a => rfl
  | interrupted => rfl
  | fault cause => rfl
  | emit event next ih => simp [Course.bind, ih]
  | ask query shielded next ih => simp [Course.bind, ih]
  | cancel next ih => simp [Course.bind, ih]
  | check next ih => simp [Course.bind, ih]
  | pause shielded next ih => simp [Course.bind, ih]
  | stall shielded => rfl
  | send chunk next refused ih ih' => simp [Course.bind, ih, ih']

theorem Heeds.mono {ok' : Mark → Prop} {faults' : Prop} {post' : α → Bool → Prop} {c : Course α}
    {hot : Bool} (hc : c.Heeds ok faults post hot) (hok : ∀ x, ok x → ok' x)
    (hfaults : faults → faults') (hpost : ∀ a hot, post a hot → post' a hot) :
    c.Heeds ok' faults' post' hot := by
  induction c generalizing hot with
  | done a => exact hpost a hot hc
  | interrupted => trivial
  | fault cause => exact fun h => hfaults (hc h)
  | emit event next ih => exact ⟨fun h => hok _ (hc.1 h), ih hc.2⟩
  | ask query shielded next ih =>
    exact ⟨fun h => hok _ (hc.1 h), fun later hlater => ih (hc.2 later hlater)⟩
  | cancel next ih => exact ih hc
  | check next ih => exact ih hc
  | pause shielded next ih => exact fun later hlater => ih (hc later hlater)
  | stall shielded => trivial
  | send chunk next refused ih ih' =>
    exact ⟨fun h => (hc.1 h).imp (hok _) (hok _), ih hc.2.1, ih' hc.2.2⟩

/-- A course whose events are all `ok` may be as hot as it likes. -/
theorem heeds_of_trace {c : Course α} (hq : c.Quiet) (hok : ∀ e ∈ c.trace, ok (.seen e))
    (hfaults : faults) (hpost : ∀ a hot, post a hot) (hot : Bool) :
    c.Heeds ok faults post hot := by
  induction c generalizing hot with
  | done a => exact hpost a hot
  | interrupted => trivial
  | fault cause => exact fun _ => hfaults
  | emit event next ih =>
    obtain ⟨hevent, hnext⟩ := List.forall_mem_cons.1 hok
    exact ⟨fun _ => hevent, ih hq hnext hot⟩
  | ask query shielded next ih =>
    obtain ⟨hevent, hnext⟩ := List.forall_mem_cons.1 hok
    exact ⟨fun _ => hevent, fun later _ => ih hq hnext later⟩
  | cancel next ih => exact ih hq hok true
  | check next ih => exact ih hq hok false
  | pause shielded next ih => exact fun later _ => ih hq hok later
  | stall shielded => trivial
  | send chunk next refused _ _ => exact hq.elim

theorem open_await (r : Reply α) : (await r).Open := by
  obtain ⟨beats, answer⟩ := r
  induction beats with
  | nil => cases answer <;> trivial
  | cons beat beats ih =>
    cases beat with
    | wait => exact ⟨rfl, ih⟩
    | cancel => exact ih

/-- A reply leaves a course as hot as its beats. -/
theorem heeds_await {r : Reply α} {hot : Bool}
    (hpost : ∀ a, r.answer = some a → post a (Beat.heat hot r.beats)) :
    (await r).Heeds ok faults post hot := by
  obtain ⟨beats, answer⟩ := r
  induction beats generalizing hot with
  | nil =>
    cases answer with
    | none => trivial
    | some a => exact hpost a rfl
  | cons beat beats ih =>
    cases beat with
    | wait =>
      intro later hlater
      obtain rfl : later = false := by simpa using hlater
      exact ih hpost
    | cancel => exact ih hpost

/-! ## Courses that stay calm -/

/-- A cancellation gets through wherever the course waits, and unless `lax` it begins and ends its
work cold, with nothing to do while it is hot. -/
structure Calm (lax : Prop) (c : Course α) : Prop where
  isOpen : c.Open
  heeds : ∀ hot, (hot = true → lax) →
    c.Heeds (fun _ => lax) lax (fun _ later => later = true → lax) hot

namespace Calm

variable {lax : Prop}

theorem bind {c : Course α} (hc : c.Calm lax) {f : α → Course β} (hf : ∀ a, (f a).Calm lax) :
    (c >>= f).Calm lax where
  isOpen := hc.isOpen.bind fun a => (hf a).isOpen
  heeds hot h := by
    rw [heeds_bind]
    exact (hc.heeds hot h).mono (fun _ => id) id fun a later => (hf a).heeds later

theorem done (a : α) : (Course.done a).Calm lax := ⟨trivial, fun _ h => h⟩

theorem emit {event : Event} {next : Course α} (hn : next.Calm lax) :
    (Course.emit event next).Calm lax :=
  ⟨hn.isOpen, fun hot h => ⟨h, hn.heeds hot h⟩⟩

theorem pause {next : Course α} (hn : next.Calm lax) : (Course.pause false next).Calm lax where
  isOpen := ⟨rfl, hn.isOpen⟩
  heeds _ _ later hlater := hn.heeds later fun h => nomatch hlater h

theorem send {chunk : StreamChunk} {next refused : Course α} (hn : next.Calm lax)
    (hr : refused.Calm lax) : (Course.send chunk next refused).Calm lax :=
  ⟨⟨hn.isOpen, hr.isOpen⟩, fun hot h => ⟨fun hh => ⟨h hh, h hh⟩, hn.heeds hot h, hr.heeds hot h⟩⟩

theorem consult (query : Query) (a : α) : (Course.consult query a).Calm lax where
  isOpen := ⟨rfl, trivial⟩
  heeds _ h := ⟨h, fun _ hlater hh => nomatch hlater hh⟩

theorem ofExcept (r : Except Fault α) : (Course.ofExcept r).Calm lax := by
  cases r with
  | ok a => exact .done a
  | error cause => exact ⟨trivial, fun _ h => h⟩

theorem record (event : Event) : (Course.record event).Calm lax := .emit (.done ())

theorem await {r : Reply α} (h : lax ∨ r.Rests) : (Course.await r).Calm lax where
  isOpen := open_await r
  heeds hot hhot := by
    refine heeds_await fun a ha hlater => ?_
    rcases h with hlax | hrests
    · exact hlax
    · cases hot with
      | true => exact hhot rfl
      | false =>
        rw [hrests (by simp [ha])] at hlater
        cases hlater

end Calm

end Course

end ChatGateway
