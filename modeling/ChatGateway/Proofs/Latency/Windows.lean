import Mathlib.Data.List.DropRight
import Mathlib.Data.List.Induction
import Mathlib.Data.List.Sort
import Mathlib.Data.String.Basic
import ChatGateway.Proofs.Latency.Sums

/-!
# What a history remembers

Durations are recorded for providers and everything is forgotten now and then, in any order. As long
as windows can be made and every duration finds a slot (`LatencyHistory.FindsSlots`), a history
answers as if it looked its answers up in all that was recorded since it last forgot: a window is
made of the last durations of its provider, as many as there is room for
(`LatencyHistory.run_mirrors`). Where windows cannot be made, nothing is ever recorded
(`LatencyHistory.run_of_no_room`).
-/

namespace ChatGateway

/-- What is done to a history. -/
inductive LatencyAct where
  | record (provider : String) (d : Duration)
  | reset
deriving DecidableEq

namespace LatencyAct

/-- The duration that is recorded for a provider. -/
def recorded? (provider : String) : LatencyAct → Option Duration
  | .record name d => if name = provider then some d else none
  | .reset => none

/-- The acts since everything was last forgotten. -/
def sinceReset (acts : List LatencyAct) : List LatencyAct := acts.rtakeWhile (· ≠ .reset)

/-- The durations recorded for a provider since everything was last forgotten. -/
def recorded (acts : List LatencyAct) (provider : String) : List Duration :=
  (sinceReset acts).filterMap (recorded? provider)

variable {acts : List LatencyAct}

theorem recorded_record (acts : List LatencyAct) (name provider : String) (d : Duration) :
    recorded (acts ++ [.record name d]) provider =
      recorded acts provider ++ if name = provider then [d] else [] := by
  have hsince : sinceReset (acts ++ [.record name d]) = sinceReset acts ++ [.record name d] :=
    List.rtakeWhile_concat_pos _ _ _ (by simp)
  rw [recorded, hsince, List.filterMap_append, recorded]
  by_cases h : name = provider <;> simp [recorded?, h]

theorem recorded_reset (acts : List LatencyAct) (provider : String) :
    recorded (acts ++ [.reset]) provider = [] := by
  have hsince : sinceReset (acts ++ [.reset]) = [] := List.rtakeWhile_concat_neg _ _ _ (by simp)
  rw [recorded, hsince]
  rfl

end LatencyAct

open LatencyAct

namespace LatencyHistory

variable {h h' : LatencyHistory} {acts : List LatencyAct} {provider name : String} {d : Duration}

/-! ## One window -/

theorem evict_suffix (capacity : Nat) (ds : List Duration) : evict capacity ds <:+ ds := by
  induction ds with
  | nil => exact List.suffix_rfl
  | cons d ds ih =>
    unfold evict
    split
    · exact ih.trans (List.suffix_cons d ds)
    · exact List.suffix_rfl

theorem length_evict (capacity : Nat) (ds : List Duration) :
    (evict capacity ds).length = min ds.length capacity := by
  induction ds with
  | nil => simp [evict]
  | cons d ds ih =>
    unfold evict
    split
    · rename_i hlong
      rw [ih]
      rw [List.length_cons] at hlong ⊢
      omega
    · rw [List.length_cons]
      rename_i hshort
      rw [List.length_cons] at hshort
      omega

theorem window_push (h : LatencyHistory) (name provider : String) (d : Duration) :
    (h.push name d).window provider =
      if name = provider then evict h.capacity (h.window provider ++ [d])
      else h.window provider := by
  unfold push window
  rw [InsertionMap.get?_put]
  split
  · rename_i heq
    rw [heq]
    rfl
  · rfl

theorem record_of_room (hroom : h.capacity ≤ largestCapacity)
    (hslot : (h.window provider).length < h.capacity ∨ h.capacity ≤ largestDoubled) (d : Duration) :
    h.record provider d = .ok (h.push provider d) := by
  rw [record, ensureRoom_of_le hroom, ensureSlot, if_pos hslot]
  rfl

/-- A full window whose room cannot be doubled takes no more durations. -/
theorem record_of_full (hfull : h.capacity ≤ (h.window provider).length)
    (hlarge : largestDoubled < h.capacity) (d : Duration) :
    h.record provider d = .error .windowTooLarge := by
  rw [record, ensureSlot, if_neg (by omega)]
  rcases Nat.lt_or_ge largestCapacity h.capacity with hnone | hroom
  · rw [ensureRoom_of_lt hnone]
    rfl
  · rw [ensureRoom_of_le hroom]
    rfl

/-! ## Answers -/

theorem mem_providers (hnames : h.windows.names.Nodup) :
    provider ∈ h.providers ↔ h.window provider ≠ [] := by
  have hentry : provider ∈ h.providers ↔ ∃ ds, (provider, ds) ∈ h.windows ∧ ds ≠ [] := by
    simp [providers]
  rw [hentry]
  constructor
  · rintro ⟨ds, hmem, hds⟩
    rwa [window, InsertionMap.get?_of_mem hnames hmem]
  · intro hwindow
    exact ⟨_, (h.window_eq_nil_or_mem provider).resolve_left hwindow, hwindow⟩

/-- The names of the providers are sorted, and none is there twice. -/
theorem providers_sorted (hnames : h.windows.names.Nodup) : h.providers.Pairwise (· < ·) := by
  have hle : h.providers.Pairwise (· ≤ ·) := List.pairwise_mergeSort' (· ≤ ·) _
  have hnodup : h.providers.Nodup :=
    (List.mergeSort_perm _ _).nodup_iff.2 (hnames.sublist (List.filter_sublist.map _))
  exact hle.imp₂ (fun _ _ hle hne => lt_of_le_of_ne hle hne) hnodup

/-- A window is counted if its durations can be added up and their sum can be divided. -/
theorem stats_count (h : LatencyHistory) (provider : String) :
    (h.stats provider).map (·.count) =
      if largestDivisor < (h.window provider).length then .ok 0
      else if Duration.totalNanos (h.window provider) < Duration.nanosLimit then
        .ok (h.window provider).length
      else .error .durationOverflow := by
  unfold stats
  generalize h.window provider = ds
  cases ds with
  | nil => rfl
  | cons d ds =>
    have hpos : 0 < (d :: ds).length := Nat.succ_pos _
    simp only [mean?]
    rcases Nat.lt_or_ge largestDivisor (d :: ds).length with hlong | hshort
    · rw [dif_neg (by omega), if_pos hlong]
      rfl
    · rw [dif_pos ⟨hpos, hshort⟩, if_neg (by omega)]
      cases hsum : Duration.sum? (d :: ds) with
      | none =>
        rw [if_neg (by simp [← Duration.isSome_sum?_iff, hsum])]
        rfl
      | some total =>
        rw [if_pos (by simp [← Duration.isSome_sum?_iff, hsum])]
        rfl

/-! ## One act -/

/-- The history with something done to it. -/
def step (h : LatencyHistory) : LatencyAct → Except Fault LatencyHistory
  | .record provider d => h.record provider d
  | .reset => .ok h.reset

/-- The history with all of that done to it, one after the other. -/
def run (h : LatencyHistory) (acts : List LatencyAct) : Except Fault LatencyHistory :=
  acts.foldlM step h

/-- The windows of the history are what there is room for of what the acts recorded. -/
structure Keeps (capacity : Nat) (acts : List LatencyAct) (h : LatencyHistory) : Prop where
  capacity_eq : h.capacity = capacity
  names_nodup : h.windows.names.Nodup
  window_suffix : ∀ provider, h.window provider <:+ recorded acts provider
  length_window : ∀ provider,
    (h.window provider).length = min (recorded acts provider).length capacity

namespace Keeps

variable {capacity : Nat}

theorem push (hk : Keeps capacity acts h) (name : String) (d : Duration) :
    Keeps capacity (acts ++ [.record name d]) (h.push name d) where
  capacity_eq := hk.capacity_eq
  names_nodup := by
    have hnames := hk.names_nodup
    unfold LatencyHistory.push
    rw [InsertionMap.names_put]
    split
    · exact hnames
    · rename_i hnew
      rw [← List.concat_eq_append]
      exact hnames.concat hnew
  window_suffix provider := by
    have hsuffix := hk.window_suffix provider
    rw [window_push, recorded_record]
    split
    · obtain ⟨earlier, hearlier⟩ := hsuffix
      exact (evict_suffix _ _).trans ⟨earlier, by rw [← List.append_assoc, hearlier]⟩
    · rwa [List.append_nil]
  length_window provider := by
    have hlength := hk.length_window provider
    rw [window_push, recorded_record]
    split
    · rw [length_evict, List.length_append, List.length_append, hk.capacity_eq, hlength]
      omega
    · rwa [List.append_nil]

theorem reset (hk : Keeps capacity acts h) : Keeps capacity (acts ++ [.reset]) h.reset where
  capacity_eq := hk.capacity_eq
  names_nodup := List.nodup_nil
  window_suffix provider := by
    rw [recorded_reset]
    exact List.suffix_rfl
  length_window provider := by
    rw [recorded_reset]
    exact (Nat.zero_min capacity).symm

/-- Where windows can be made, a duration is recorded if it finds a slot. -/
theorem record (hk : Keeps capacity acts h) (hroom : capacity ≤ largestCapacity)
    (hslot : (recorded acts name).length < capacity ∨ capacity ≤ largestDoubled) (d : Duration) :
    h.record name d = .ok (h.push name d) := by
  have hlength := hk.length_window name
  refine record_of_room (hk.capacity_eq ▸ hroom) ?_ d
  rw [hk.capacity_eq]
  omega

/-- Otherwise it is not. -/
theorem record_of_no_slot (hk : Keeps capacity acts h)
    (hslot : ¬((recorded acts name).length < capacity ∨ capacity ≤ largestDoubled))
    (d : Duration) : h.record name d = .error .windowTooLarge := by
  have hlength := hk.length_window name
  refine record_of_full ?_ ?_ d
  · rw [hk.capacity_eq]
    omega
  · rw [hk.capacity_eq]
    omega

end Keeps

/-! ## All acts -/

/-- The number of durations that a window has room for. -/
def roomFor (capacity : Nat) : Nat := (ofCapacity capacity).capacity

theorem roomFor_pos (capacity : Nat) : 0 < roomFor capacity := by
  unfold roomFor ofCapacity defaultCapacity
  split <;> dsimp only <;> omega

theorem roomFor_le {capacity : Nat} (hroom : capacity ≤ largestCapacity) :
    roomFor capacity ≤ largestCapacity := by
  unfold roomFor ofCapacity
  split
  · decide
  · exact hroom

theorem keeps_ofCapacity (capacity : Nat) : Keeps (roomFor capacity) [] (ofCapacity capacity) where
  capacity_eq := rfl
  names_nodup := List.nodup_nil
  window_suffix _ := List.suffix_rfl
  length_window _ := (Nat.zero_min _).symm

/-- Every duration that is recorded finds a slot: its window is not full then, or the room of a full
window can be doubled. -/
def FindsSlots (size : Nat) (acts : List LatencyAct) : Prop :=
  ∀ before name d, before ++ [.record name d] <+: acts →
    (recorded before name).length < size ∨ size ≤ largestDoubled

theorem findsSlots_of_le {size : Nat} (h : size ≤ largestDoubled) (acts : List LatencyAct) :
    FindsSlots size acts :=
  fun _ _ _ _ => .inr h

theorem findsSlots_append_singleton {size : Nat} {act : LatencyAct} :
    FindsSlots size (acts ++ [act]) ↔ FindsSlots size acts ∧ ∀ name d, act = .record name d →
      (recorded acts name).length < size ∨ size ≤ largestDoubled := by
  constructor
  · intro h
    refine ⟨fun before name d hbefore => ?_, fun name d hact => ?_⟩
    · exact h before name d (hbefore.trans (List.prefix_append acts [act]))
    · exact h acts name d (hact ▸ List.prefix_rfl)
  · rintro ⟨h, hlast⟩ before name d hbefore
    rcases List.prefix_concat_iff.1 hbefore with heq | hbefore
    · obtain ⟨rfl, hact⟩ := List.append_inj' heq rfl
      exact hlast name d (List.cons.inj hact).1.symm
    · exact h before name d hbefore

theorem run_append_singleton (h : LatencyHistory) (acts : List LatencyAct) (act : LatencyAct) :
    h.run (acts ++ [act]) = (h.run acts).bind fun h' => h'.step act := by
  unfold run
  rw [List.foldlM_append]
  refine congrArg ((acts.foldlM step h).bind ·) (funext fun h' => ?_)
  rw [List.foldlM_cons]
  cases h'.step act <;> rfl

/-- All acts are done if every duration finds a slot, and otherwise the run stops at the first one
that does not. -/
theorem run_cases (capacity : Nat) (hroom : capacity ≤ largestCapacity) (acts : List LatencyAct) :
    (FindsSlots (roomFor capacity) acts →
      ∃ h, (ofCapacity capacity).run acts = .ok h ∧ Keeps (roomFor capacity) acts h) ∧
    (¬FindsSlots (roomFor capacity) acts →
      (ofCapacity capacity).run acts = .error .windowTooLarge) := by
  induction acts using List.reverseRecOn with
  | nil =>
    refine ⟨fun _ => ⟨_, rfl, keeps_ofCapacity capacity⟩, fun h => absurd ?_ h⟩
    exact fun before name d hbefore => absurd (List.prefix_nil.1 hbefore) (by simp)
  | append_singleton acts act ih =>
    rw [findsSlots_append_singleton, run_append_singleton]
    by_cases hslots : FindsSlots (roomFor capacity) acts
    · obtain ⟨h, hrun, hk⟩ := ih.1 hslots
      rw [hrun]
      cases act with
      | reset => exact ⟨fun _ => ⟨_, rfl, hk.reset⟩, fun hnot => absurd ⟨hslots, nofun⟩ hnot⟩
      | record name d =>
        refine ⟨fun ⟨_, hslot⟩ => ⟨_, hk.record (roomFor_le hroom) (hslot name d rfl) d,
          hk.push name d⟩, fun hnot => hk.record_of_no_slot (fun hslot => hnot ⟨hslots, ?_⟩) d⟩
        intro name' d' hact
        cases hact
        exact hslot
    · exact ⟨fun h => absurd h.1 hslots, fun _ => by rw [ih.2 hslots]; rfl⟩

/-- All that a history says of a provider. -/
structure Account where
  window : List Duration
  average : Except Fault Duration
  recent : Option Duration
  stats : Except Fault LatencyStats
  isListed : Bool

/-- What the history says of a provider. -/
def account (h : LatencyHistory) (provider : String) : Account where
  window := h.window provider
  average := h.average provider
  recent := h.recent provider
  stats := h.stats provider
  isListed := h.providers.contains provider

/-- The history answers as if it looked its answers up in `recorded`, with room for `size` durations
in a window. -/
structure Mirrors (size : Nat) (recorded : String → List Duration) (h : LatencyHistory) :
    Prop where
  /-- A window is made of what was recorded last, in the order in which it was recorded. -/
  window_suffix : ∀ provider, h.window provider <:+ recorded provider
  /-- It is as long as there is room for. -/
  length_window : ∀ provider, (h.window provider).length = min (recorded provider).length size
  recent_eq : ∀ provider, h.recent provider = (recorded provider).getLast?
  /-- Its durations are counted if they can be added up and their sum can be divided. -/
  count_eq : ∀ provider, (h.stats provider).map (·.count) =
    if largestDivisor < min (recorded provider).length size then .ok 0
    else if Duration.totalNanos (h.window provider) < Duration.nanosLimit then
      .ok (min (recorded provider).length size)
    else .error .durationOverflow
  providers_sorted : h.providers.Pairwise (· < ·)
  mem_providers : ∀ provider, provider ∈ h.providers ↔ recorded provider ≠ []
  /-- One more duration of a provider changes nothing that is said of the others. -/
  others_unchanged : ∀ name d, (recorded name).length < size ∨ size ≤ largestDoubled →
    ∃ h', h.record name d = .ok h' ∧
      ∀ provider, provider ≠ name → h'.account provider = h.account provider

namespace Keeps

variable {capacity : Nat}

theorem window_ne_nil_iff (hk : Keeps capacity acts h) (hpos : 0 < capacity) (provider : String) :
    h.window provider ≠ [] ↔ recorded acts provider ≠ [] := by
  have hlength := hk.length_window provider
  rw [← List.length_pos_iff, ← List.length_pos_iff]
  omega

theorem recent_eq (hk : Keeps capacity acts h) (hpos : 0 < capacity) (provider : String) :
    h.recent provider = (recorded acts provider).getLast? := by
  have hne := hk.window_ne_nil_iff hpos provider
  obtain ⟨earlier, hearlier⟩ := hk.window_suffix provider
  unfold recent
  by_cases hwindow : h.window provider = []
  · rw [hwindow, not_not.1 (mt hne.2 (not_not.2 hwindow))]
  · rw [← hearlier, List.getLast?_append_of_ne_nil _ hwindow]

/-- What is said of a provider depends on its window alone. -/
theorem account_eq (hk : Keeps capacity acts h) {capacity' : Nat} {acts' : List LatencyAct}
    (hk' : Keeps capacity' acts' h') (hwindow : h'.window provider = h.window provider) :
    h'.account provider = h.account provider := by
  have hlisted : h'.providers.contains provider = h.providers.contains provider := by
    rw [Bool.eq_iff_iff, List.contains_iff_mem, List.contains_iff_mem,
      LatencyHistory.mem_providers hk'.names_nodup, LatencyHistory.mem_providers hk.names_nodup,
      hwindow]
  simp only [account, average, recent, stats, hwindow, hlisted]

theorem mirrors (hk : Keeps capacity acts h) (hpos : 0 < capacity)
    (hroom : capacity ≤ largestCapacity) : Mirrors capacity (recorded acts) h where
  window_suffix := hk.window_suffix
  length_window := hk.length_window
  recent_eq := hk.recent_eq hpos
  count_eq provider := by rw [h.stats_count, hk.length_window]
  providers_sorted := LatencyHistory.providers_sorted hk.names_nodup
  mem_providers provider := by
    rw [LatencyHistory.mem_providers hk.names_nodup, hk.window_ne_nil_iff hpos]
  others_unchanged name d hslot := by
    refine ⟨_, hk.record hroom hslot d, fun provider hne => ?_⟩
    refine hk.account_eq (hk.push name d) ?_
    rw [window_push, if_neg (Ne.symm hne)]

end Keeps

/-- **A history mirrors what was recorded**, whatever was recorded and forgotten and in which
order, if windows can be made and every duration finds a slot. It does for every capacity of which
the double is one. A duration that finds no slot stops everything. -/
theorem run_mirrors (capacity : Nat) (hroom : capacity ≤ largestCapacity)
    (acts : List LatencyAct) :
    (capacity ≤ largestDoubled → FindsSlots (if capacity = 0 then 100 else capacity) acts) ∧
    (FindsSlots (if capacity = 0 then 100 else capacity) acts →
      ∃ h, (ofCapacity capacity).run acts = .ok h ∧
        Mirrors (if capacity = 0 then 100 else capacity) (recorded acts) h) ∧
    (¬FindsSlots (if capacity = 0 then 100 else capacity) acts →
      (ofCapacity capacity).run acts = .error .windowTooLarge) := by
  obtain ⟨hfound, hnot⟩ := run_cases capacity hroom acts
  refine ⟨fun hle => findsSlots_of_le ?_ acts, fun h => ?_, hnot⟩
  · split
    · decide
    · exact hle
  · obtain ⟨h, hrun, hk⟩ := hfound h
    exact ⟨h, hrun, hk.mirrors (roomFor_pos capacity) (roomFor_le hroom)⟩

/-- Two providers by turns, with a window that overflows and one that is forgotten. -/
def busyActs : List LatencyAct :=
  [.record "slow" .oneSecond, .reset, .record "quick" .zero, .record "slow" .zero,
    .record "quick" .oneSecond, .record "quick" .zero]

theorem busy_history_mirrors :
    2 ≤ largestCapacity ∧ recorded busyActs "quick" = [.zero, .oneSecond, .zero] ∧
      ∃ h, (ofCapacity 2).run busyActs = .ok h ∧ Mirrors 2 (recorded busyActs) h := by
  have hroom : 2 ≤ largestCapacity := by decide
  obtain ⟨hslots, hmirrors, -⟩ := run_mirrors 2 hroom busyActs
  exact ⟨hroom, rfl, hmirrors (hslots (by decide))⟩

/-! ## At the limits -/

/-- Where no window can be made, nothing can be recorded. -/
theorem run_of_no_room (hroom : largestCapacity < h.capacity)
    (hrecord : LatencyAct.record provider d ∈ acts) : h.run acts = .error .windowTooLarge := by
  induction acts generalizing h with
  | nil => cases hrecord
  | cons act acts ih =>
    unfold run
    rw [List.foldlM_cons]
    cases act with
    | record name d' =>
      rw [step, record, ensureRoom_of_lt hroom]
      rfl
    | reset =>
      have hrest : LatencyAct.record provider d ∈ acts := by simpa using hrecord
      exact ih (h := h.reset) hroom hrest

theorem recorded_replicate (n : Nat) (provider : String) (d : Duration) :
    recorded (List.replicate n (.record provider d)) provider = List.replicate n d := by
  induction n with
  | zero => rfl
  | succ n ih => rw [List.replicate_succ', recorded_record, ih, if_pos rfl, List.replicate_succ']

/-- A window that cannot be made, one that is full and whose room cannot be doubled, one whose
durations cannot be added up, and one with too many of them to be counted. -/
theorem windows_beyond_the_limits :
    (ofCapacity 0x800000000000000).run [.record "slow" .oneSecond] = .error .windowTooLarge ∧
      (ofCapacity 0x400000000000000).run
          (List.replicate 0x400000000000001 (.record "slow" .zero)) = .error .windowTooLarge ∧
      (∃ h, (ofCapacity 2).run
          [.record "slow" (.ofSecs 0xFFFFFFFFFFFFFFFF (by decide)), .record "slow" .oneSecond] =
            .ok h ∧
        h.count "slow" = 2 ∧ h.stats "slow" = .error .durationOverflow) ∧
      ∃ h, (ofCapacity 0x100000000).run (List.replicate 0x100000000 (.record "slow" .zero)) =
          .ok h ∧
        h.count "slow" = 0x100000000 ∧ (h.stats "slow").map (·.count) = .ok 0 := by
  refine ⟨run_of_no_room (by decide) (List.mem_singleton_self _), ?_, ⟨_, rfl, rfl, rfl⟩, ?_⟩
  · refine (run_cases 0x400000000000000 (by decide) _).2 fun hslots => ?_
    rw [List.replicate_succ'] at hslots
    have hslot := hslots _ "slow" .zero List.prefix_rfl
    rw [recorded_replicate, List.length_replicate] at hslot
    exact absurd hslot (by decide)
  · obtain ⟨h, hrun, hk⟩ := (run_cases 0x100000000 (by decide)
      (List.replicate 0x100000000 (.record "slow" .zero))).1 (findsSlots_of_le (by decide) _)
    have hcount : h.count "slow" = 0x100000000 := by
      rw [count, hk.length_window, recorded_replicate, List.length_replicate]
      rfl
    have hlong : largestDivisor < (h.window "slow").length := by
      rw [← count, hcount]
      decide
    exact ⟨h, hrun, hcount, by rw [stats_count, if_pos hlong]⟩

end LatencyHistory

end ChatGateway
