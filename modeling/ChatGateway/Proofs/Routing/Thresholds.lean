import ChatGateway.Proofs.Binary64.Truncation
import ChatGateway.Proofs.Json.Records
import ChatGateway.Proofs.Latency.Sums
import ChatGateway.Proofs.Routing.Rules

/-!
# Latency thresholds

A threshold is any number of a document, and the mean latency of a provider is held against it in
whole milliseconds. Both are made doubles first, and the threshold is cut to a whole number. So the
comparison is that of the numbers themselves with two exceptions (`Duration.Meets`): a provider that
takes less than a millisecond meets a threshold between minus one and zero, and from `2 ^ 53` on a
threshold is met by what it cannot be told from as a double (`StoredRule.holdsFor_iff_meets`).
-/

namespace ChatGateway

open Binary64

variable {j : Json} {limit : ℚ} {x : Float} {n : ℕ}

/-- The number that a value is, exactly. -/
def Json.number? : Json → Option ℚ
  | .int n => some n
  | .real x => some (value x)
  | _ => none

/-- The duration meets the threshold: its whole milliseconds are no more, or both are cut to zero,
or doubles cannot tell them apart. -/
def Duration.Meets (d : Duration) (limit : ℚ) : Prop :=
  (d.wholeMillis : ℚ) ≤ limit ∨ d.wholeMillis = 0 ∧ -1 < limit ∧ limit < 0 ∨
    2 ^ 53 ≤ limit ∧ limit < d.wholeMillis ∧
      value (Float.ofNat d.wholeMillis) = value (Float.ofNat ⌊limit⌋₊)

theorem Duration.wholeMillis_lt (d : Duration) : d.wholeMillis < 2 ^ 200 := by
  have hs := d.secs_lt
  have hn := d.nanos_lt
  unfold wholeMillis
  omega

/-! ## Thresholds as doubles -/

theorem Json.IsTree.natAbs_lt {n : ℤ} (h : (Json.int n).IsTree) : n.natAbs < 2 ^ 200 := by
  cases h
  omega

/-- A threshold that is not below zero becomes the double nearest to its whole part. -/
theorem Json.IsTree.value_truncate_of_nonneg (hj : j.IsTree) (hlimit : j.number? = some limit)
    (hx : j.Reads x) (hnonneg : 0 ≤ limit) : value (truncate x) = nearest ⌊limit⌋₊ := by
  have hfinite := hj.isFinite_of_asFloat? (asFloat?_eq_some_iff.2 hx)
  rw [value_truncate hfinite]
  cases hx with
  | int n =>
    obtain rfl : (n : ℚ) = limit := Option.some.inj hlimit
    obtain ⟨k, rfl⟩ := Int.eq_ofNat_of_zero_le (Int.cast_nonneg_iff.1 hnonneg)
    have hcounts : value (ofWhole k) = ((nearest k : ℤ) : ℚ) :=
      (counts_ofWhole_natCast hj.natAbs_lt).value_eq
    rw [hcounts, wholePart_intCast]
    simp
  | real x =>
    obtain rfl : value x = limit := Option.some.inj hlimit
    rw [wholePart_of_nonneg hnonneg, nearest_floor_value hfinite hnonneg,
      ← Int.natCast_floor_eq_floor hnonneg, Int.cast_natCast]

/-- One below zero becomes a negative zero above minus one, and stays below zero otherwise. -/
theorem Json.IsTree.value_truncate_of_neg (hj : j.IsTree) (hlimit : j.number? = some limit)
    (hx : j.Reads x) (hneg : limit < 0) :
    value (truncate x) ≤ 0 ∧ (0 ≤ value (truncate x) ↔ -1 < limit) := by
  have hfinite := hj.isFinite_of_asFloat? (asFloat?_eq_some_iff.2 hx)
  rw [value_truncate hfinite]
  cases hx with
  | int n =>
    obtain rfl : (n : ℚ) = limit := Option.some.inj hlimit
    have hn : n < 0 := Int.cast_lt_zero.1 hneg
    obtain ⟨k, hk⟩ := Int.eq_ofNat_of_zero_le (show 0 ≤ -n by omega)
    obtain rfl : n = -(k : ℤ) := by omega
    have hcounts : value (ofWhole (-k)) = ((-(nearest k : ℤ) : ℤ) : ℚ) := by
      have hsmall := hj.natAbs_lt
      rw [(counts_ofWhole_neg (by omega) (by omega)).value_eq]
      simp [signed]
    have hk' : (1 : ℚ) ≤ k := by exact_mod_cast (show 1 ≤ k by omega)
    have hpos : (1 : ℚ) ≤ nearest k := by exact_mod_cast nearest_pos (show 0 < k by omega)
    rw [hcounts, wholePart_intCast]
    push_cast
    exact ⟨by linarith, fun h => by linarith, fun h => by linarith⟩
  | real x =>
    obtain rfl : value x = limit := Option.some.inj hlimit
    have hceil : -1 < ⌈value x⌉ ↔ -1 < value x := by
      rw [Int.lt_ceil, Int.cast_neg, Int.cast_one]
    rw [wholePart_of_neg hneg, ← hceil]
    constructor
    · exact Int.cast_nonpos.2 (Int.ceil_le.2 (by simpa using hneg.le))
    · rw [Int.cast_nonneg_iff]
      omega

/-- Below zero a threshold is met only above minus one, and only by zero. -/
theorem nearest_le_value_truncate_of_neg (hj : j.IsTree) (hlimit : j.number? = some limit)
    (hx : j.Reads x) (hneg : limit < 0) :
    (nearest n : ℚ) ≤ value (truncate x) ↔ n = 0 ∧ -1 < limit := by
  obtain ⟨hle, hzero⟩ := hj.value_truncate_of_neg hlimit hx hneg
  constructor
  · intro h
    have hnearest : (0 : ℚ) ≤ nearest n := Nat.cast_nonneg _
    refine ⟨?_, hzero.1 (hnearest.trans h)⟩
    by_contra hn
    have hpos : (0 : ℚ) < nearest n := by exact_mod_cast nearest_pos (Nat.pos_of_ne_zero hn)
    linarith
  · rintro ⟨rfl, hone⟩
    simpa [nearest_of_le] using hzero.2 hone

/-- **Doubles compare a duration and a threshold** as the one meets the other. -/
theorem Duration.ofNat_le_truncate_iff (d : Duration) (hj : j.IsTree)
    (hlimit : j.number? = some limit) (hx : j.Reads x) :
    Float.ofNat d.wholeMillis ≤ truncate x ↔ d.Meets limit := by
  have hsmall := d.wholeMillis_lt
  have hfinite := hj.isFinite_of_asFloat? (Json.asFloat?_eq_some_iff.2 hx)
  rw [le_iff_value (isFinite_ofNat hsmall) (isFinite_truncate hfinite), value_ofNat hsmall, Meets]
  rcases lt_or_ge limit 0 with hneg | hnonneg
  · rw [nearest_le_value_truncate_of_neg hj hlimit hx hneg]
    constructor
    · rintro ⟨hzero, hone⟩
      exact .inr (.inl ⟨hzero, hone, hneg⟩)
    · rintro (hle | ⟨hzero, hone, -⟩ | ⟨hlarge, -, -⟩)
      · have hmillis : (0 : ℚ) ≤ d.wholeMillis := Nat.cast_nonneg _
        linarith
      · exact ⟨hzero, hone⟩
      · linarith
  · have hlarge : 2 ^ 53 ≤ ⌊limit⌋₊ ↔ 2 ^ 53 ≤ limit := by
      rw [Nat.le_floor_iff hnonneg]
      norm_num
    have hlt : ⌊limit⌋₊ < d.wholeMillis ↔ limit < d.wholeMillis := Nat.floor_lt hnonneg
    rw [hj.value_truncate_of_nonneg hlimit hx hnonneg, Nat.cast_le, nearest_le_nearest_iff,
      Nat.le_floor_iff hnonneg, hlarge, hlt]
    refine or_congr_right ?_
    constructor
    · rintro ⟨hfar, hless, hsame⟩
      refine .inr ⟨hfar, hless, ?_⟩
      rw [value_ofNat hsmall, value_ofNat ((hlt.2 hless).trans hsmall), hsame]
    · rintro (⟨-, -, hneg⟩ | ⟨hfar, hless, hsame⟩)
      · exact absurd hneg hnonneg.not_gt
      · rw [value_ofNat hsmall, value_ofNat ((hlt.2 hless).trans hsmall), Nat.cast_inj] at hsame
        exact ⟨hfar, hless, hsame⟩

/-- Other thresholds are met if and only if they are not passed. -/
theorem Duration.meets_iff_le {d : Duration} (hsmall : limit < 2 ^ 53)
    (houtside : limit ≤ -1 ∨ 0 ≤ limit) : d.Meets limit ↔ (d.wholeMillis : ℚ) ≤ limit := by
  constructor
  · rintro (hle | ⟨-, hone, hneg⟩ | ⟨hlarge, -, -⟩)
    · exact hle
    · rcases houtside with hle | hge <;> linarith
    · exact absurd hlarge hsmall.not_ge
  · exact .inl

/-! ## Rules -/

theorem Json.exists_reads (hlimit : j.number? = some limit) : ∃ x, j.Reads x := by
  cases j with
  | int n => exact ⟨_, .int n⟩
  | real x => exact ⟨_, .real x⟩
  | _ => cases hlimit

namespace StoredRule

variable {r : StoredRule} {s : Signals}

/-- **A latency rule matches if and only if its threshold is met** by the mean of the provider, as
long as the durations of every window add up. -/
theorem holdsFor_iff_meets (request : ChatRequest) (hcondition : r.condition = "latency_threshold")
    (hgives : r.Gives "max_latency_ms" j) (hj : j.IsTree) (hlimit : j.number? = some limit)
    (hfits : s.latency.Fits) :
    ∃ mean b, s.latency.average r.provider = .ok mean ∧ r.compile.holdsFor s request = .ok b ∧
      (b = true ↔ mean.Meets limit) := by
  obtain ⟨x, hx⟩ := Json.exists_reads hlimit
  obtain ⟨mean, hmean⟩ := LatencyHistory.average_of_fits hfits r.provider
  have hstates : r.States (.latencyAtMost (truncate x)) := .latency hcondition ⟨j, hgives, hx⟩
  refine ⟨mean, decide (Float.ofNat mean.wholeMillis ≤ truncate x), hmean, ?_, ?_⟩
  · rw [hstates.holdsFor_compile, RoutingRule.holdsFor, hmean]
    rfl
  · rw [decide_eq_true_eq]
    exact mean.ofNat_le_truncate_iff hj hlimit hx

/-- A provider that has taken half a millisecond. -/
def swiftSignals : Signals :=
  ⟨.builtin, ⟨1, [("swift", [Duration.oneSecond.divNat 2000 (by decide)])]⟩⟩

theorem fits_swiftSignals : swiftSignals.latency.Fits :=
  LatencyHistory.fits_of_forall_mem (by decide)

theorem average_swiftSignals :
    swiftSignals.latency.average "swift" = .ok ⟨0, 500000, by decide, by decide⟩ := rfl

/-- A rule for the provider with a threshold that is written in a document. -/
def swiftRule (threshold : Json) : StoredRule :=
  ⟨"latency_threshold", [("max_latency_ms", threshold)], "swift", 1⟩

/-- Half a millisecond meets a threshold of zero, and not one of minus one. -/
theorem zero_threshold_is_met :
    (latencyThreshold 0 "swift" 1).compile.holdsFor swiftSignals briefRequest = .ok true ∧
      (swiftRule (.int (-1))).compile.holdsFor swiftSignals briefRequest = .ok false := by
  constructor
  · obtain ⟨mean, b, haverage, hb, hmeets⟩ := holdsFor_iff_meets
      (r := latencyThreshold 0 "swift" 1) briefRequest rfl rfl (Json.isTree_uint64 0) rfl
      fits_swiftSignals
    obtain rfl := Except.ok.inj (average_swiftSignals.symm.trans haverage)
    rw [hb, hmeets.2 (.inl (by norm_num [Duration.wholeMillis]))]
  · obtain ⟨mean, b, haverage, hb, hmeets⟩ := holdsFor_iff_meets (r := swiftRule (.int (-1)))
      briefRequest rfl rfl (.int (by decide) (by decide)) rfl fits_swiftSignals
    obtain rfl := Except.ok.inj (average_swiftSignals.symm.trans haverage)
    rw [Duration.meets_iff_le (by norm_num) (.inl (by norm_num))] at hmeets
    cases b with
    | false => exact hb
    | true => exact absurd (hmeets.1 rfl) (by norm_num [Duration.wholeMillis])

theorem value_neg_half : value (-0.5) = -1 / 2 := by
  have hunpack : (-0.5 : Float).toModel.unpack =
      .finite .negative (2 ^ 52) (-53) (by decide) := rfl
  rw [value, hunpack, unpackedValue_negative]
  norm_num

/-- A threshold of `2 ^ 53` is met by a mean that is above it by a millisecond, and one of minus a
half by half a millisecond. -/
theorem higher_mean_meets_threshold :
    (¬∀ (threshold : UInt64) (provider : String) (priority : Int32) (s : Signals)
        (request : ChatRequest) (mean : Duration), s.latency.Fits →
        s.latency.average provider = .ok mean →
          ((latencyThreshold threshold provider priority).compile.holdsFor s request = .ok true ↔
            mean.wholeMillis ≤ threshold.toNat)) ∧
      ¬∀ (r : StoredRule) (s : Signals) (request : ChatRequest) (j : Json) (limit : ℚ)
        (mean : Duration), r.condition = "latency_threshold" → r.Gives "max_latency_ms" j →
        j.IsTree → j.number? = some limit → s.latency.Fits →
        s.latency.average r.provider = .ok mean →
          (r.compile.holdsFor s request = .ok true ↔ (mean.wholeMillis : ℚ) ≤ limit) := by
  constructor
  · intro h
    have hle := (h 9007199254740992 "far" 1 farSignals briefRequest _
      (LatencyHistory.fits_of_forall_mem (by decide)) rfl).1 holdsFor_far
    exact absurd hle (by decide)
  · intro h
    have htree : (Json.real (-0.5)).IsTree := .real rfl
    have hmatches : (swiftRule (.real (-0.5))).compile.holdsFor swiftSignals briefRequest =
        .ok true := by
      refine holdsFor_eq_ok_true_iff.2 (.latency rfl ⟨_, rfl, .real (-0.5)⟩ average_swiftSignals ?_)
      rw [Duration.ofNat_le_truncate_iff _ htree rfl (.real (-0.5)), value_neg_half]
      exact .inr (.inl ⟨rfl, by norm_num, by norm_num⟩)
    have hle := (h (swiftRule (.real (-0.5))) swiftSignals briefRequest _ _ _ rfl rfl htree rfl
      fits_swiftSignals average_swiftSignals).1 hmatches
    rw [value_neg_half] at hle
    norm_num [Duration.wholeMillis] at hle

end StoredRule

end ChatGateway
