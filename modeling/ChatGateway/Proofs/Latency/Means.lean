import Mathlib
import ChatGateway.Proofs.Latency.Windows

/-!
# Means of windows

The mean of a window is the exact length of all its durations divided by their number, what is less
than a nanosecond dropped, although both are worked out on seconds and nanoseconds apart
(`Duration.toNanos_divNat`). So it lies between the shortest and the longest of them, and there is
one unless the durations together reach `2 ^ 64` seconds, as long as they can be counted
(`LatencyHistory.serve_measures`).
-/

namespace ChatGateway

namespace Duration

variable {d : Duration} {ds : List Duration}

theorem nanos_eq (d : Duration) : d.nanos = d.toNanos % 1000000000 := by
  have hd := d.nanos_lt
  unfold toNanos
  omega

/-- **Division drops what is less than a nanosecond**, and nothing else. -/
theorem toNanos_divNat (d : Duration) {n : Nat} (hn : 0 < n) :
    (d.divNat n hn).toNanos = d.toNanos / n := by
  -- the nanoseconds take over what is left of the seconds
  have hnanos : d.nanos / n + (d.secs % n * 1000000000 + d.nanos % n) / n =
      (d.secs % n * 1000000000 + d.nanos) / n := by
    have hd := Nat.mod_add_div d.nanos n
    rw [Nat.add_comm, ← Nat.add_mul_div_left _ _ hn, Nat.add_assoc, hd]
  have hsecs : d.secs * 1000000000 + d.nanos =
      n * (d.secs / n * 1000000000) + (d.secs % n * 1000000000 + d.nanos) := by
    conv_lhs => rw [← Nat.div_add_mod d.secs n]
    ring
  simp only [toNanos, divNat]
  rw [hnanos, hsecs, Nat.mul_add_div hn]

theorem length_mul_le_totalNanos {n : Nat} (h : ∀ d ∈ ds, n ≤ d.toNanos) :
    ds.length * n ≤ totalNanos ds := by
  induction ds with
  | nil => simp
  | cons d ds ih =>
    obtain ⟨hd, hds⟩ := List.forall_mem_cons.1 h
    have hrest := ih hds
    simp only [List.length_cons, totalNanos, Nat.succ_mul]
    omega

theorem totalNanos_le_length_mul {n : Nat} (h : ∀ d ∈ ds, d.toNanos ≤ n) :
    totalNanos ds ≤ ds.length * n := by
  induction ds with
  | nil => simp [totalNanos]
  | cons d ds ih =>
    obtain ⟨hd, hds⟩ := List.forall_mem_cons.1 h
    have hrest := ih hds
    simp only [List.length_cons, totalNanos, Nat.succ_mul]
    omega

/-! ## Extremes -/

section Extremes

variable {before : Duration → Duration → Prop} {pick : Duration → Duration → Duration}

/-- Of two durations `pick` is one, and neither is before it. -/
def Prefers (before : Duration → Duration → Prop) (pick : Duration → Duration → Duration) : Prop :=
  ∀ a b, (pick a b = a ∨ pick a b = b) ∧ before (pick a b) a ∧ before (pick a b) b

/-- Going through some durations with `pick` finds one of them that none is before. -/
theorem foldl_prefers (hpick : Prefers before pick) (hrefl : ∀ a, before a a)
    (htrans : ∀ a b c, before a b → before b c → before a c) (d : Duration) (ds : List Duration) :
    ds.foldl pick d ∈ d :: ds ∧ ∀ e ∈ d :: ds, before (ds.foldl pick d) e := by
  induction ds generalizing d with
  | nil => simp [hrefl]
  | cons a ds ih =>
    obtain ⟨hmem, hbefore⟩ := ih (pick d a)
    obtain ⟨hone, hd, ha⟩ := hpick d a
    have hfirst := hbefore (pick d a) List.mem_cons_self
    rw [List.foldl_cons]
    constructor
    · rcases List.mem_cons.1 hmem with heq | hmem
      · rw [heq]
        rcases hone with hone | hone <;> simp [hone]
      · simp [hmem]
    · intro e he
      rcases List.mem_cons.1 he with rfl | he
      · exact htrans _ _ _ hfirst hd
      · rcases List.mem_cons.1 he with rfl | he
        · exact htrans _ _ _ hfirst ha
        · exact hbefore e (List.mem_cons_of_mem _ he)

end Extremes

theorem prefers_shorter : Prefers (fun a b => a.toNanos ≤ b.toNanos) shorter := by
  intro a b
  unfold shorter
  split
  · rename_i h
    rw [lt_iff_toNanos] at h
    exact ⟨.inr rfl, h.le, le_rfl⟩
  · rename_i h
    rw [lt_iff_toNanos] at h
    exact ⟨.inl rfl, le_rfl, not_lt.1 h⟩

theorem prefers_longer : Prefers (fun a b => b.toNanos ≤ a.toNanos) longer := by
  intro a b
  unfold longer
  split
  · rename_i h
    rw [lt_iff_toNanos] at h
    exact ⟨.inl rfl, le_rfl, h.le⟩
  · rename_i h
    rw [lt_iff_toNanos] at h
    exact ⟨.inr rfl, not_lt.1 h, le_rfl⟩

theorem foldl_shorter (d : Duration) (ds : List Duration) :
    ds.foldl shorter d ∈ d :: ds ∧
      ∀ e ∈ d :: ds, (ds.foldl shorter d).toNanos ≤ e.toNanos :=
  foldl_prefers prefers_shorter (fun _ => le_rfl) (fun _ _ _ => le_trans) d ds

theorem foldl_longer (d : Duration) (ds : List Duration) :
    ds.foldl longer d ∈ d :: ds ∧
      ∀ e ∈ d :: ds, e.toNanos ≤ (ds.foldl longer d).toNanos :=
  foldl_prefers prefers_longer (fun _ => le_rfl) (fun _ _ _ hab hbc => hbc.trans hab) d ds

end Duration

/-! ## What a window amounts to -/

/-- The figures are those of the durations of a window. -/
structure LatencyStats.Measures (s : LatencyStats) (ds : List Duration) : Prop where
  /-- The mean is exact but for what is less than a nanosecond. -/
  average_eq : s.average.toNanos = Duration.totalNanos ds / ds.length
  /-- It is written with whole seconds, and with nanoseconds for the rest. -/
  average_nanos : s.average.nanos = Duration.totalNanos ds / ds.length % 1000000000
  min_mem : s.min ∈ ds
  min_le : ∀ d ∈ ds, s.min.toNanos ≤ d.toNanos
  max_mem : s.max ∈ ds
  le_max : ∀ d ∈ ds, d.toNanos ≤ s.max.toNanos
  min_le_average : s.min.toNanos ≤ s.average.toNanos
  average_le_max : s.average.toNanos ≤ s.max.toNanos
  count_eq : s.count = ds.length

/-- A mean and the extremes of a window are figures that measure it. -/
theorem LatencyStats.measures_of_average {average d : Duration} {ds : List Duration}
    (h : average.toNanos = Duration.totalNanos (d :: ds) / (d :: ds).length) :
    Measures ⟨average, ds.foldl .shorter d, ds.foldl .longer d, ds.length + 1⟩ (d :: ds) := by
  obtain ⟨hmin, hleast⟩ := Duration.foldl_shorter d ds
  obtain ⟨hmax, hgreatest⟩ := Duration.foldl_longer d ds
  have hpos : 0 < (d :: ds).length := Nat.succ_pos _
  refine ⟨h, ?_, hmin, hleast, hmax, hgreatest, ?_, ?_, rfl⟩
  · rw [Duration.nanos_eq, h]
  · rw [h, Nat.le_div_iff_mul_le hpos, Nat.mul_comm]
    exact Duration.length_mul_le_totalNanos hleast
  · rw [h]
    exact Nat.div_le_of_le_mul (Duration.totalNanos_le_length_mul hgreatest)

/-! ## Calls -/

/-- What is done with a history: it is changed, or it is asked for figures. -/
inductive LatencyCall where
  | act (act : LatencyAct)
  | average (provider : String)
  | stats (provider : String)

/-- What comes of a call. -/
inductive LatencyReply where
  | done
  | average (d : Duration)
  | stats (s : LatencyStats)
  | failed (fault : Fault)
deriving DecidableEq

namespace LatencyHistory

/-- The reply to a call and the history after it, if the call does not fail. -/
def call (h : LatencyHistory) : LatencyCall → Except Fault (LatencyReply × LatencyHistory)
  | .act act => (h.step act).map fun h' => (.done, h')
  | .average provider => (h.average provider).map fun d => (.average d, h)
  | .stats provider => (h.stats provider).map fun s => (.stats s, h)

/-- The reply to a call and the history that it leaves. A call that fails leaves what was there. -/
def serve (h : LatencyHistory) (c : LatencyCall) : LatencyReply × LatencyHistory :=
  match h.call c with
  | .ok served => served
  | .error fault => (.failed fault, h)

variable {h : LatencyHistory} {provider : String} {ds : List Duration}

theorem average_of_mean? {mean : Option Duration} (hmean : mean? (h.window provider) = .ok mean) :
    h.average provider = .ok (mean.getD defaultLatency) := by
  rw [average, hmean]
  rfl

theorem stats_of_mean? {average d : Duration} (hwindow : h.window provider = d :: ds)
    (hmean : mean? (d :: ds) = .ok (some average)) :
    h.stats provider =
      .ok ⟨average, ds.foldl .shorter d, ds.foldl .longer d, ds.length + 1⟩ := by
  rw [stats, hwindow]
  simp only [hmean]
  rfl

/-- Durations that are too long together have no mean. -/
theorem mean?_of_long (hpos : 0 < ds.length) (hcount : ds.length ≤ largestDivisor)
    (hlong : Duration.nanosLimit ≤ Duration.totalNanos ds) :
    mean? ds = .error .durationOverflow := by
  have hnone : Duration.sum? ds = none := by
    rw [← Option.not_isSome_iff_eq_none, Duration.isSome_sum?_iff]
    omega
  rw [mean?, dif_pos ⟨hpos, hcount⟩, hnone]

/-- Others have one, if there are some and they can be counted. -/
theorem mean?_of_short (hpos : 0 < ds.length) (hcount : ds.length ≤ largestDivisor)
    (hshort : Duration.totalNanos ds < Duration.nanosLimit) :
    ∃ d, mean? ds = .ok (some d) ∧ d.toNanos = Duration.totalNanos ds / ds.length := by
  obtain ⟨total, htotal⟩ := Option.isSome_iff_exists.1 (Duration.isSome_sum?_iff.2 hshort)
  refine ⟨total.divNat ds.length hpos, ?_, ?_⟩
  · rw [mean?, dif_pos ⟨hpos, hcount⟩, htotal]
  · rw [Duration.toNanos_divNat, Duration.sum?_eq_some_iff.1 htotal]

/-- Without a mean both questions fail. -/
theorem serve_of_long (hpos : 0 < (h.window provider).length)
    (hcount : (h.window provider).length ≤ largestDivisor)
    (hlong : Duration.nanosLimit ≤ Duration.totalNanos (h.window provider)) :
    h.serve (.average provider) = (.failed .durationOverflow, h) ∧
      h.serve (.stats provider) = (.failed .durationOverflow, h) := by
  have hmean := mean?_of_long hpos hcount hlong
  have haverage : h.average provider = .error .durationOverflow := by
    rw [average, hmean]
    rfl
  have hstats : h.stats provider = .error .durationOverflow := by
    unfold stats
    cases hwindow : h.window provider with
    | nil => simp [hwindow] at hpos
    | cons d ds =>
      rw [hwindow] at hmean
      simp only [hmean]
      rfl
  constructor
  · simp only [serve, call, haverage, Except.map]
  · simp only [serve, call, hstats, Except.map]

/-- With a mean both questions give it. -/
theorem serve_of_short (hpos : 0 < (h.window provider).length)
    (hcount : (h.window provider).length ≤ largestDivisor)
    (hshort : Duration.totalNanos (h.window provider) < Duration.nanosLimit) :
    ∃ s, s.Measures (h.window provider) ∧
      h.serve (.average provider) = (.average s.average, h) ∧
        h.serve (.stats provider) = (.stats s, h) := by
  obtain ⟨average, hmean, hexact⟩ := mean?_of_short hpos hcount hshort
  have haverage := average_of_mean? hmean
  obtain ⟨d, ds, hwindow⟩ := List.exists_cons_of_length_pos hpos
  rw [hwindow] at hmean hexact ⊢
  have hstats := stats_of_mean? hwindow hmean
  refine ⟨_, LatencyStats.measures_of_average hexact, ?_, ?_⟩
  · simp only [serve, call, haverage, Except.map]
    rfl
  · simp only [serve, call, hstats, Except.map]

/-- **What asking for figures comes to.** Where nothing was recorded, all of them are a second. The
durations of a window that can be counted have a mean unless they reach `2 ^ 64` seconds together;
then both questions fail, and leave the history as it was. Otherwise both give the same mean, the
exact one but for what is less than a nanosecond, between the shortest and the longest duration. -/
theorem serve_measures (h : LatencyHistory) (provider : String) :
    (h.window provider = [] →
      h.serve (.average provider) = (.average .oneSecond, h) ∧
        h.serve (.stats provider) = (.stats ⟨.oneSecond, .oneSecond, .oneSecond, 0⟩, h)) ∧
      (1 ≤ (h.window provider).length → (h.window provider).length ≤ 0xFFFFFFFF →
        (Duration.nanosLimit ≤ Duration.totalNanos (h.window provider) →
          h.serve (.average provider) = (.failed .durationOverflow, h) ∧
            h.serve (.stats provider) = (.failed .durationOverflow, h)) ∧
        (Duration.totalNanos (h.window provider) < Duration.nanosLimit →
          ∃ s, s.Measures (h.window provider) ∧
            h.serve (.average provider) = (.average s.average, h) ∧
              h.serve (.stats provider) = (.stats s, h))) := by
  refine ⟨fun hempty => ?_,
    fun hpos hcount => ⟨serve_of_long hpos hcount, serve_of_short hpos hcount⟩⟩
  have haverage : h.average provider = .ok .oneSecond := by
    rw [average, hempty]
    rfl
  have hstats : h.stats provider = .ok ⟨.oneSecond, .oneSecond, .oneSecond, 0⟩ := by
    rw [stats, hempty]
    rfl
  constructor
  · simp only [serve, call, haverage, Except.map]
  · simp only [serve, call, hstats, Except.map]

/-- Three durations whose mean is not whole, two that are too long together, and none. -/
def unevenHistory : LatencyHistory :=
  ⟨3, [("uneven", [⟨2, 999999998, by decide, by decide⟩, .oneSecond, .zero]),
    ("endless", [.ofSecs 0x8000000000000000 (by decide), .ofSecs 0x8000000000000000 (by decide)])]⟩

theorem uneven_history_measures :
    (∃ s, s.Measures (unevenHistory.window "uneven") ∧
        s.average = ⟨1, 333333332, by decide, by decide⟩ ∧
        unevenHistory.serve (.stats "uneven") = (.stats s, unevenHistory)) ∧
      unevenHistory.serve (.average "endless") = (.failed .durationOverflow, unevenHistory) ∧
      unevenHistory.serve (.average "unknown") = (.average .oneSecond, unevenHistory) := by
  obtain ⟨s, hs, haverage, hstats⟩ :=
    ((serve_measures unevenHistory "uneven").2 (by decide) (by decide)).2 (by decide)
  refine ⟨⟨s, hs, ?_, hstats⟩, ?_, ?_⟩
  · have hmean : unevenHistory.serve (.average "uneven") =
        (.average ⟨1, 333333332, by decide, by decide⟩, unevenHistory) := rfl
    rw [hmean] at haverage
    exact (LatencyReply.average.inj (Prod.mk.inj haverage).1).symm
  · exact (((serve_measures unevenHistory "endless").2 (by decide) (by decide)).1 (by decide)).1
  · exact ((serve_measures unevenHistory "unknown").1 rfl).1

end LatencyHistory

end ChatGateway
