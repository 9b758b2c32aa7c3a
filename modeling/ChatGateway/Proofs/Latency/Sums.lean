import ChatGateway.Latency.History

/-!
# Sums of durations

Durations are added exactly or not at all. A sum of durations has the length that their lengths add
up to (`Duration.sum?_eq_some_iff`), and there is one if and only if that length is one of a
duration (`Duration.isSome_sum?_iff`). So a mean is found whenever the durations of a window add up
to one (`LatencyHistory.average_of_fits`).
-/

namespace ChatGateway

namespace Duration

/-- The number of nanoseconds from which on a length is too long for a duration. -/
def nanosLimit : Nat := 0x10000000000000000 * 1000000000

/-- The exact length of some durations together, in nanoseconds. -/
def totalNanos : List Duration → Nat
  | [] => 0
  | d :: ds => d.toNanos + totalNanos ds

variable {a b c d : Duration} {ds : List Duration}

theorem toNanos_lt (d : Duration) : d.toNanos < nanosLimit := by
  have hs := d.secs_lt
  have hn := d.nanos_lt
  unfold toNanos nanosLimit
  omega

theorem toNanos_inj : a.toNanos = b.toNanos ↔ a = b := by
  refine ⟨fun h => ?_, fun h => by rw [h]⟩
  have ha := a.nanos_lt
  have hb := b.nanos_lt
  unfold toNanos at h
  have hsecs : a.secs = b.secs := by omega
  have hnanos : a.nanos = b.nanos := by omega
  cases a
  cases b
  simp_all

theorem toNanos_zero : zero.toNanos = 0 := rfl

/-- Seconds and nanoseconds make up a duration of their length, unless that is too long. -/
theorem of?_eq_some_iff {secs nanos : Nat} :
    of? secs nanos = some d ↔ d.toNanos = secs * 1000000000 + nanos := by
  have hd := d.toNanos_lt
  simp only [of?]
  split
  · rw [Option.some.injEq, ← toNanos_inj]
    simp only [toNanos]
    omega
  · unfold nanosLimit at hd
    simp only [reduceCtorEq, false_iff]
    omega

theorem isSome_of?_iff {secs nanos : Nat} :
    (of? secs nanos).isSome ↔ secs * 1000000000 + nanos < nanosLimit := by
  simp only [of?, nanosLimit]
  split
  · simp only [Option.isSome_some, true_iff]
    omega
  · simp only [Option.isSome_none, Bool.false_eq_true, false_iff]
    omega

/-- **Addition is exact.** -/
theorem add?_eq_some_iff : a.add? b = some c ↔ c.toNanos = a.toNanos + b.toNanos := by
  rw [add?, of?_eq_some_iff]
  unfold toNanos
  omega

theorem isSome_add?_iff : (a.add? b).isSome ↔ a.toNanos + b.toNanos < nanosLimit := by
  rw [add?, isSome_of?_iff]
  unfold toNanos
  omega

/-- Durations are added to one that is there already. -/
theorem foldlM_add?_eq_some_iff :
    ds.foldlM add? a = some d ↔ d.toNanos = a.toNanos + totalNanos ds := by
  induction ds generalizing a with
  | nil => simp [totalNanos, toNanos_inj, eq_comm]
  | cons b ds ih =>
    rw [List.foldlM_cons, totalNanos, ← Nat.add_assoc]
    cases hab : a.add? b with
    | some c =>
      have hc := add?_eq_some_iff.1 hab
      rw [← hc]
      exact ih
    | none =>
      -- a sum that is too long so far stays so
      have hlong : ¬(a.add? b).isSome := by simp [hab]
      rw [isSome_add?_iff] at hlong
      have hd := d.toNanos_lt
      simp only [Option.bind_eq_bind, Option.bind_none, reduceCtorEq, false_iff]
      omega

/-- **Sums are exact.** -/
theorem sum?_eq_some_iff : sum? ds = some d ↔ d.toNanos = totalNanos ds := by
  rw [sum?, foldlM_add?_eq_some_iff, toNanos_zero, Nat.zero_add]

/-- A length below the limit is that of a duration. -/
theorem exists_toNanos_eq {n : Nat} (h : n < nanosLimit) : ∃ d : Duration, d.toNanos = n := by
  have hsome : (of? 0 n).isSome := isSome_of?_iff.2 (by omega)
  obtain ⟨d, hd⟩ := Option.isSome_iff_exists.1 hsome
  exact ⟨d, by simpa using of?_eq_some_iff.1 hd⟩

/-- Durations have a sum if and only if their lengths add up to that of a duration. -/
theorem isSome_sum?_iff : (sum? ds).isSome ↔ totalNanos ds < nanosLimit := by
  constructor
  · intro h
    obtain ⟨d, hd⟩ := Option.isSome_iff_exists.1 h
    rw [← sum?_eq_some_iff.1 hd]
    exact d.toNanos_lt
  · intro h
    obtain ⟨d, hd⟩ := exists_toNanos_eq h
    rw [sum?_eq_some_iff.2 hd]
    rfl

end Duration

namespace LatencyHistory

/-- The durations of every window add up to a duration. -/
def Fits (h : LatencyHistory) : Prop :=
  ∀ provider, Duration.totalNanos (h.window provider) < Duration.nanosLimit

variable {h : LatencyHistory} {ds : List Duration}

theorem window_eq_nil_or_mem (h : LatencyHistory) (provider : String) :
    h.window provider = [] ∨ (provider, h.window provider) ∈ h.windows := by
  unfold window
  cases hget : h.windows.get? provider with
  | none => exact .inl rfl
  | some ds => exact .inr (InsertionMap.mem_of_get? hget)

/-- It is enough to look at the windows that are there. -/
theorem fits_of_forall_mem
    (hall : ∀ entry ∈ h.windows, Duration.totalNanos entry.2 < Duration.nanosLimit) : h.Fits := by
  intro provider
  rcases h.window_eq_nil_or_mem provider with hnil | hmem
  · rw [hnil]
    decide
  · exact hall _ hmem

/-- Only a sum that is too long keeps a window from being measured. -/
theorem mean?_of_fits (hds : Duration.totalNanos ds < Duration.nanosLimit) :
    ∃ mean, mean? ds = .ok mean ∧
      (mean.isSome ↔ 0 < ds.length ∧ ds.length ≤ largestDivisor) := by
  unfold mean?
  split
  · rename_i hlength
    obtain ⟨total, htotal⟩ := Option.isSome_iff_exists.1 (Duration.isSome_sum?_iff.2 hds)
    exact ⟨some (total.divNat ds.length hlength.1), by rw [htotal], by simp [hlength]⟩
  · rename_i hlength
    exact ⟨none, rfl, by simpa using hlength⟩

/-- **There is a mean** where the durations of every window add up. -/
theorem average_of_fits (hfits : h.Fits) (provider : String) :
    ∃ mean, h.average provider = .ok mean := by
  obtain ⟨mean, hmean, -⟩ := mean?_of_fits (hfits provider)
  exact ⟨mean.getD defaultLatency, by rw [average, hmean]; rfl⟩

end LatencyHistory

end ChatGateway
