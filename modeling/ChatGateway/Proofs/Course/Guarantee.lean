import ChatGateway.Proofs.Course.Undisturbed

/-!
# What a course guarantees

`c.Ensures stop post h`: when `c` goes on after the marks `h`, `stop` holds of all marks so far
wherever it may be found at work, called off or stopped by a fault, and `post` holds of its value
and all marks at its end, whoever cancels the request and whether or not the chunks are taken. It is
computed node by node, passes through `>>=` (`ensures_bind`), and holds of every run
(`Machine.run_ensures`).
-/

namespace ChatGateway

/-- How a course may be found short of its value. -/
inductive Cut where
  | running
  | interrupted
  | faulted (cause : Fault)
deriving DecidableEq, Repr

namespace Course

variable {α β : Type}

/-- What holds wherever the course stops, and of its value. -/
@[simp] def Ensures (stop : Cut → List Mark → Prop) (post : α → List Mark → Prop) :
    Course α → List Mark → Prop
  | .done a, h => post a h
  | .interrupted, h => stop .interrupted h
  | .fault cause, h => stop (.faulted cause) h
  | .emit event next, h => stop .running h ∧ next.Ensures stop post (h ++ [.seen event])
  | .ask query shielded next, h =>
    stop .running h ∧ stop .running (h ++ [.seen (.asked query)]) ∧
      (shielded = false → stop .interrupted (h ++ [.seen (.asked query)])) ∧
      next.Ensures stop post (h ++ [.seen (.asked query)])
  | .cancel next, h => stop .running h ∧ next.Ensures stop post h
  | .check next, h => stop .running h ∧ stop .interrupted h ∧ next.Ensures stop post h
  | .pause shielded next, h =>
    stop .running h ∧ (shielded = false → stop .interrupted h) ∧ next.Ensures stop post h
  | .stall shielded, h => stop .running h ∧ (shielded = false → stop .interrupted h)
  | .send chunk next refused, h =>
    stop .running h ∧ stop .interrupted h ∧ next.Ensures stop post (h ++ [.sent chunk]) ∧
      refused.Ensures stop post (h ++ [.refused])

variable {stop : Cut → List Mark → Prop} {post : α → List Mark → Prop}

theorem ensures_bind {stop : Cut → List Mark → Prop} {post : β → List Mark → Prop}
    (c : Course α) (f : α → Course β) (h : List Mark) :
    (c >>= f).Ensures stop post h ↔
      c.Ensures stop (fun a h => (f a).Ensures stop post h) h := by
  change (c.bind f).Ensures stop post h ↔ _
  induction c generalizing h with
  | done a => rfl
  | interrupted => rfl
  | fault cause => rfl
  | emit event next ih => simp [Course.bind, ih]
  | ask query shielded next ih => simp [Course.bind, ih]
  | cancel next ih => simp [Course.bind, ih]
  | check next ih => simp [Course.bind, ih]
  | pause shielded next ih => simp [Course.bind, ih]
  | stall shielded => rfl
  | send chunk next refused ih ih' => simp [Course.bind, ih, ih']

theorem Ensures.mono {stop' : Cut → List Mark → Prop} {post' : α → List Mark → Prop}
    {c : Course α} {h : List Mark} (hc : c.Ensures stop post h)
    (hstop : ∀ cut s, stop cut s → stop' cut s) (hpost : ∀ a s, post a s → post' a s) :
    c.Ensures stop' post' h := by
  induction c generalizing h with
  | done a => exact hpost a h hc
  | interrupted => exact hstop _ h hc
  | fault cause => exact hstop _ h hc
  | emit event next ih => exact ⟨hstop _ _ hc.1, ih hc.2⟩
  | ask query shielded next ih =>
    obtain ⟨h₁, h₂, h₃, h₄⟩ := hc
    exact ⟨hstop _ _ h₁, hstop _ _ h₂, fun hs => hstop _ _ (h₃ hs), ih h₄⟩
  | cancel next ih => exact ⟨hstop _ _ hc.1, ih hc.2⟩
  | check next ih => exact ⟨hstop _ _ hc.1, hstop _ _ hc.2.1, ih hc.2.2⟩
  | pause shielded next ih =>
    exact ⟨hstop _ _ hc.1, fun hs => hstop _ _ (hc.2.1 hs), ih hc.2.2⟩
  | stall shielded => exact ⟨hstop _ _ hc.1, fun hs => hstop _ _ (hc.2 hs)⟩
  | send chunk next refused ih ih' =>
    obtain ⟨h₁, h₂, h₃, h₄⟩ := hc
    exact ⟨hstop _ _ h₁, hstop _ _ h₂, ih h₃, ih' h₄⟩

/-- A quiet course does nothing but go through its log. -/
theorem Quiet.ensures {c : Course α} (hc : c.Quiet) {h : List Mark}
    (hstop : ∀ cut s, s <+: c.log → stop cut (h ++ s))
    (hpost : ∀ a, c.outcome = .finished a → post a (h ++ c.log)) : c.Ensures stop post h := by
  have first : ∀ cut, stop cut h := fun cut => by
    simpa using hstop cut [] List.nil_prefix
  induction c generalizing h with
  | done a => simpa using hpost a rfl
  | interrupted => exact first _
  | fault cause => exact first _
  | emit event next ih =>
    have later : ∀ cut s, s <+: next.log → stop cut (h ++ [.seen event] ++ s) := fun cut s hs => by
      simpa using hstop cut (.seen event :: s) (by simpa using hs)
    refine ⟨first _, ih hc later (fun a ha => ?_) fun cut => ?_⟩
    · simpa using hpost a ha
    · simpa using later cut [] List.nil_prefix
  | ask query shielded next ih =>
    have later : ∀ cut s, s <+: next.log → stop cut (h ++ [.seen (.asked query)] ++ s) :=
      fun cut s hs => by
        simpa using hstop cut (.seen (.asked query) :: s) (by simpa using hs)
    have asked : ∀ cut, stop cut (h ++ [.seen (.asked query)]) := fun cut => by
      simpa using later cut [] List.nil_prefix
    refine ⟨first _, asked _, fun _ => asked _, ih hc later (fun a ha => ?_) asked⟩
    simpa using hpost a ha
  | cancel next ih => exact ⟨first _, ih hc hstop hpost first⟩
  | check next ih => exact ⟨first _, first _, ih hc hstop hpost first⟩
  | pause shielded next ih => exact ⟨first _, fun _ => first _, ih hc hstop hpost first⟩
  | stall shielded => exact ⟨first _, fun _ => first _⟩
  | send chunk next refused _ _ => exact hc.elim

/-- While a reply is awaited nothing happens. -/
theorem ensures_await {r : Reply α} {h : List Mark} (hstop : ∀ cut, stop cut h)
    (hpost : ∀ a, r.answer = some a → post a h) : (await r).Ensures stop post h := by
  refine (quiet_await r).ensures (fun cut s hs => ?_) fun a ha => ?_
  · rw [log_await, List.prefix_nil] at hs
    rw [hs, List.append_nil]
    exact hstop cut
  · rw [log_await, List.append_nil]
    exact hpost a (answer_of_await ha)

theorem Move.ensures {d e : Course α} {s h : List Mark} (hm : Move d s e)
    (hd : d.Ensures stop post h) : e.Ensures stop post (h ++ s) := by
  cases hm with
  | emit event next => exact hd.2
  | ask query shielded next => exact hd.2
  | cancel next => simpa using hd.2
  | check next => simpa using hd.2.2
  | pause shielded next => simpa using hd.2.2
  | send chunk next refused => exact hd.2.2.1
  | refuse chunk next refused => exact hd.2.2.2

theorem Trail.ensures {c d : Course α} {h : List Mark} (ht : c.Trail h d)
    (hc : c.Ensures stop post []) : d.Ensures stop post h := by
  induction ht with
  | start => exact hc
  | move _ hm ih => exact hm.ensures ih

theorem Ensures.interrupted {d : Course α} {h : List Mark} (hd : d.Ensures stop post h)
    (hb : d.Breakable) : stop .interrupted h := by
  cases d with
  | check next => exact hd.2.1
  | ask query shielded next => exact hb.elim
  | _ => simp_all [Breakable, isInterruptible]

end Course

/-- **Runs keep guarantees.** After any schedule there are marks that account for what can be seen
of the machine, and of which the guarantees hold that belong to where it stands. -/
theorem Machine.run_ensures {α : Type} {c : Course α} {stop : Cut → List Mark → Prop}
    {post : α → List Mark → Prop} (hc : c.Ensures stop post []) (capacity : Nat)
    (cancelled : Bool) (schedule : List Act) :
    ∃ h, ((start c cancelled).run capacity schedule).Bears h ∧
      match ((start c cancelled).run capacity schedule).course with
      | .done a => post a h
      | .interrupted => stop .interrupted h
      | .fault cause => stop (.faulted cause) h
      | _ => stop .running h := by
  obtain ⟨h, d, ht, hb, hm⟩ := run_trail capacity c cancelled schedule
  have hd := ht.ensures hc
  refine ⟨h, hb, ?_⟩
  generalize (start c cancelled).run capacity schedule = m at hm ⊢
  rcases hm with rfl | ⟨hi, -, hbreak⟩
  · cases hcourse : m.course with
    | ask query shielded next =>
      cases hw : m.waiting with
      | false =>
        rw [rest_of_not_waiting hw, hcourse] at hd
        exact hd.1
      | true =>
        rw [rest_asked hcourse hw] at hd
        exact hd.1
    | done a => simpa [rest_of_not_ask hcourse] using hd
    | interrupted => simpa [rest_of_not_ask hcourse] using hd
    | fault cause => simpa [rest_of_not_ask hcourse] using hd
    | emit event next => exact (rest_of_not_ask hcourse (by simp) ▸ hd).1
    | cancel next => exact (rest_of_not_ask hcourse (by simp) ▸ hd).1
    | check next => exact (rest_of_not_ask hcourse (by simp) ▸ hd).1
    | pause shielded next => exact (rest_of_not_ask hcourse (by simp) ▸ hd).1
    | stall shielded => exact (rest_of_not_ask hcourse (by simp) ▸ hd).1
    | send chunk next refused => exact (rest_of_not_ask hcourse (by simp) ▸ hd).1
  · rw [hi]
    exact hd.interrupted hbreak

namespace Course

variable {α β : Type}

/-- All events of the course are of a kind, whatever happens. -/
def Within (ok : Event → Prop) (c : Course α) : Prop :=
  ∀ h, (∀ e ∈ Mark.events h, ok e) →
    c.Ensures (fun _ s => ∀ e ∈ Mark.events s, ok e) (fun _ s => ∀ e ∈ Mark.events s, ok e) h

variable {ok : Event → Prop}

theorem within_of_quiet {c : Course α} (hc : c.Quiet) (ht : ∀ e ∈ c.trace, ok e) :
    c.Within ok := by
  intro h hh
  refine hc.ensures (fun _ s hs e he => ?_) fun _ _ e he => ?_
  · rw [Mark.events_append, List.mem_append] at he
    exact he.elim (hh e) fun he => ht e ((hs.filterMap _).subset he)
  · rw [Mark.events_append, List.mem_append] at he
    exact he.elim (hh e) (ht e)

theorem Within.bind {c : Course α} (hc : c.Within ok) {f : α → Course β}
    (hf : ∀ a, (f a).Within ok) : (c >>= f).Within ok := by
  intro h hh
  rw [ensures_bind]
  exact (hc h hh).mono (fun _ _ => id) fun a s hs => hf a s hs

/-- Of a quiet course only its value is gone on from. -/
theorem within_bind_of_quiet {c : Course α} (hc : c.Quiet) (ht : ∀ e ∈ c.trace, ok e)
    {f : α → Course β} (hf : ∀ a, c.outcome = .finished a → (f a).Within ok) :
    (c >>= f).Within ok := by
  intro h hh
  rw [ensures_bind]
  have hlog : ∀ s, s <+: c.log → ∀ e ∈ Mark.events (h ++ s), ok e := by
    intro s hs e he
    rw [Mark.events_append, List.mem_append] at he
    exact he.elim (hh e) fun he => ht e ((hs.filterMap _).subset he)
  exact hc.ensures (fun _ s hs => hlog s hs) fun a ha => hf a ha _ (hlog _ (List.prefix_refl _))

theorem within_done (a : α) : (Course.done a).Within ok := fun _ hh => hh

theorem within_await (r : Reply α) : (Course.await r).Within ok :=
  within_of_quiet (quiet_await r) fun e he => by simp [trace, log_await] at he

theorem within_ofExcept (r : Except Fault α) : (Course.ofExcept r).Within ok :=
  within_of_quiet (quiet_ofExcept r) fun e he => by simp [trace, log_ofExcept] at he

theorem within_emit {event : Event} {next : Course α} (he : ok event) (hn : next.Within ok) :
    (Course.emit event next).Within ok := by
  intro h hh
  refine ⟨hh, hn _ fun e he' => ?_⟩
  rw [Mark.events_append, List.mem_append, Mark.events_seen, Mark.events_nil,
    List.mem_singleton] at he'
  exact he'.elim (hh e) fun h => h ▸ he

theorem within_send {chunk : StreamChunk} {next refused : Course α} (hn : next.Within ok)
    (hr : refused.Within ok) : (Course.send chunk next refused).Within ok :=
  fun _ hh => ⟨hh, hh, hn _ (by simpa using hh), hr _ (by simpa using hh)⟩

theorem within_check {next : Course α} (hn : next.Within ok) : (Course.check next).Within ok :=
  fun h hh => ⟨hh, hh, hn h hh⟩

theorem within_pause {shielded : Bool} {next : Course α} (hn : next.Within ok) :
    (Course.pause shielded next).Within ok :=
  fun h hh => ⟨hh, fun _ => hh, hn h hh⟩

end Course

/-- All events of a run are of the kind of those of its course. -/
theorem Machine.events_within {α : Type} {c : Course α} {ok : Event → Prop} (hc : c.Within ok)
    (capacity : Nat) (cancelled : Bool) (schedule : List Act) {e : Event}
    (he : e ∈ ((start c cancelled).run capacity schedule).events) : ok e := by
  obtain ⟨h, hb, hm⟩ := run_ensures (hc [] (by simp)) capacity cancelled schedule
  rw [hb.events_eq] at he
  split at hm <;> exact hm e he

end ChatGateway
