import ChatGateway.Proofs.Binary64.Value

/-!
# Whole numbers as doubles

A whole number becomes the double that is nearest to it: it is cut to 53 binary digits, and the last
of them is rounded, a half to the even digit (`Binary64.nearest`). This keeps the order of numbers
(`nearest_mono`), and up to `2 ^ 53` it keeps the numbers themselves (`nearest_of_le`), but two
larger ones can become the same double (`nearest_le_nearest_iff`). Both conversions of whole numbers
round in this way (`value_ofNat`, `value_ofWhole`), although one multiplies with a power of ten
before or after it rounds.
-/

namespace ChatGateway.Binary64

open Float.Model Float.Model.UnpackedFloat

variable {k m n : ℕ}

/-! ## Rounding to some digits -/

/-- A number without its last `k` digits, rounded to the nearest, a half to the even one. -/
def roundOff (k n : ℕ) : ℕ :=
  if 2 * (n % 2 ^ k) < 2 ^ k then n / 2 ^ k
  else if 2 * (n % 2 ^ k) = 2 ^ k then n / 2 ^ k + n / 2 ^ k % 2
  else n / 2 ^ k + 1

theorem le_roundOff (k n : ℕ) : n / 2 ^ k ≤ roundOff k n := by
  unfold roundOff
  split
  · exact le_rfl
  · split <;> omega

theorem roundOff_le (k n : ℕ) : roundOff k n ≤ n / 2 ^ k + 1 := by
  unfold roundOff
  split
  · omega
  · split <;> omega

theorem roundOff_of_dvd (h : 2 ^ k ∣ n) : roundOff k n = n / 2 ^ k := by
  rw [roundOff, Nat.mod_eq_zero_of_dvd h, if_pos (by positivity)]

theorem roundOff_mono (h : m ≤ n) : roundOff k m ≤ roundOff k n := by
  rcases (Nat.div_le_div_right h : m / 2 ^ k ≤ n / 2 ^ k).lt_or_eq with hlt | heq
  · exact (roundOff_le k m).trans ((Nat.succ_le_of_lt hlt).trans (le_roundOff k n))
  · have hmod : m % 2 ^ k ≤ n % 2 ^ k := by
      have hm := Nat.div_add_mod m (2 ^ k)
      have hn := Nat.div_add_mod n (2 ^ k)
      rw [heq] at hm
      omega
    simp only [roundOff, heq]
    split_ifs <;> omega

/-- Zeros at the end are dropped first. -/
theorem roundOff_mul_two_pow (k n a : ℕ) : roundOff (k + a) (n * 2 ^ a) = roundOff k n := by
  have hpos : 0 < 2 ^ a := by positivity
  have hlt : 2 * (n % 2 ^ k * 2 ^ a) < 2 ^ k * 2 ^ a ↔ 2 * (n % 2 ^ k) < 2 ^ k := by
    rw [← Nat.mul_assoc, Nat.mul_lt_mul_right hpos]
  have heq : 2 * (n % 2 ^ k * 2 ^ a) = 2 ^ k * 2 ^ a ↔ 2 * (n % 2 ^ k) = 2 ^ k := by
    rw [← Nat.mul_assoc, Nat.mul_left_inj hpos.ne']
  simp only [roundOff, pow_add, Nat.mul_mod_mul_right, Nat.mul_div_mul_right _ _ hpos, hlt, heq]

/-- The number that counts as much as the double nearest to `n`. -/
def nearest (n : ℕ) : ℕ := roundOff (n.log2 - 52) n * 2 ^ (n.log2 - 52)

theorem nearest_of_dvd (h : 2 ^ (n.log2 - 52) ∣ n) : nearest n = n := by
  rw [nearest, roundOff_of_dvd h, Nat.div_mul_cancel h]

/-- **Up to `2 ^ 53` every whole number is a double.** -/
theorem nearest_of_le (hn : n ≤ 2 ^ 53) : nearest n = n := by
  apply nearest_of_dvd
  rcases hn.lt_or_eq with hlt | rfl
  · rcases Nat.eq_zero_or_pos n with rfl | hpos
    · exact dvd_zero _
    · have hlog : n.log2 < 53 := (Nat.log2_lt hpos.ne').2 hlt
      rw [show n.log2 - 52 = 0 by omega, pow_zero]
      exact one_dvd n
  · rw [Nat.log2_two_pow]
    decide

theorem two_pow_log2_le_nearest (hn : n ≠ 0) : 2 ^ n.log2 ≤ nearest n := by
  have hlog := Nat.log2_self_le hn
  have hsplit : 2 ^ n.log2 = 2 ^ (n.log2 - (n.log2 - 52)) * 2 ^ (n.log2 - 52) := by
    rw [← pow_add, Nat.sub_add_cancel (Nat.sub_le _ _)]
  have hdiv : 2 ^ (n.log2 - (n.log2 - 52)) ≤ n / 2 ^ (n.log2 - 52) := by
    rw [Nat.le_div_iff_mul_le (by positivity), ← hsplit]
    exact hlog
  calc 2 ^ n.log2 = 2 ^ (n.log2 - (n.log2 - 52)) * 2 ^ (n.log2 - 52) := hsplit
    _ ≤ nearest n := Nat.mul_le_mul_right _ (hdiv.trans (le_roundOff _ n))

theorem nearest_pos (hn : 0 < n) : 0 < nearest n :=
  (show 0 < 2 ^ n.log2 by positivity).trans_le (two_pow_log2_le_nearest hn.ne')

theorem nearest_le_two_pow (n : ℕ) : nearest n ≤ 2 ^ (n.log2 + 1) := by
  have hlog : n < 2 ^ (n.log2 + 1) := Nat.lt_log2_self
  have hsplit : 2 ^ (n.log2 + 1) = 2 ^ (n.log2 + 1 - (n.log2 - 52)) * 2 ^ (n.log2 - 52) := by
    rw [← pow_add, Nat.sub_add_cancel (by omega)]
  have hdiv : n / 2 ^ (n.log2 - 52) < 2 ^ (n.log2 + 1 - (n.log2 - 52)) := by
    rw [Nat.div_lt_iff_lt_mul (by positivity), ← hsplit]
    exact hlog
  calc nearest n ≤ 2 ^ (n.log2 + 1 - (n.log2 - 52)) * 2 ^ (n.log2 - 52) :=
        Nat.mul_le_mul_right _ ((roundOff_le _ n).trans hdiv)
    _ = 2 ^ (n.log2 + 1) := hsplit.symm

/-- **Rounding keeps the order.** -/
theorem nearest_mono (h : m ≤ n) : nearest m ≤ nearest n := by
  rcases Nat.eq_zero_or_pos m with rfl | hm
  · rw [nearest_of_le (Nat.zero_le _)]
    exact Nat.zero_le _
  have hn : n ≠ 0 := by omega
  have hlog : m.log2 ≤ n.log2 := (Nat.le_log2 hn).2 ((Nat.log2_self_le hm.ne').trans h)
  rcases hlog.lt_or_eq with hlt | heq
  · -- a power of two is between them
    calc nearest m ≤ 2 ^ (m.log2 + 1) := nearest_le_two_pow m
      _ ≤ 2 ^ n.log2 := Nat.pow_le_pow_right two_pos hlt
      _ ≤ nearest n := two_pow_log2_le_nearest hn
  · rw [nearest, nearest, heq]
    exact Nat.mul_le_mul_right _ (roundOff_mono h)

/-- Larger numbers are no smaller as doubles, and smaller only below `2 ^ 53`. -/
theorem nearest_le_nearest_iff :
    nearest m ≤ nearest n ↔ m ≤ n ∨ 2 ^ 53 ≤ n ∧ n < m ∧ nearest m = nearest n := by
  constructor
  · intro hle
    rcases le_or_gt m n with h | hlt
    · exact .inl h
    · refine .inr ⟨?_, hlt, le_antisymm hle (nearest_mono hlt.le)⟩
      by_contra hsmall
      have hsucc : n + 1 ≤ nearest m := by
        rw [← nearest_of_le (show n + 1 ≤ 2 ^ 53 by omega)]
        exact nearest_mono hlt
      rw [nearest_of_le (show n ≤ 2 ^ 53 by omega)] at hle
      omega
  · rintro (h | ⟨-, -, heq⟩)
    · exact nearest_mono h
    · exact heq.le

theorem log2_mul_two_pow (hn : 0 < n) (a : ℕ) : (n * 2 ^ a).log2 = n.log2 + a := by
  rw [Nat.log2_eq_iff (by positivity), show n.log2 + a + 1 = n.log2 + 1 + a by omega, pow_add,
    pow_add]
  exact ⟨Nat.mul_le_mul_right _ (Nat.log2_self_le hn.ne'),
    Nat.mul_lt_mul_of_pos_right Nat.lt_log2_self (by positivity)⟩

theorem nearest_mul_two_pow (n a : ℕ) : nearest (n * 2 ^ a) = nearest n * 2 ^ a := by
  rcases Nat.eq_zero_or_pos n with rfl | hn
  · simp [nearest_of_le]
  have hlog := log2_mul_two_pow hn a
  rcases le_or_gt 52 n.log2 with hfull | hshort
  · rw [nearest, nearest, hlog, show n.log2 + a - 52 = n.log2 - 52 + a by omega,
      roundOff_mul_two_pow, pow_add, Nat.mul_assoc]
  · have hsmall : n ≤ 2 ^ 53 := by
      have hlt := (Nat.log2_lt hn.ne').1 hshort
      omega
    rw [nearest_of_le hsmall]
    apply nearest_of_dvd
    rw [hlog]
    exact (pow_dvd_pow 2 (by omega)).trans (Nat.dvd_mul_left _ n)

/-! ## Rounding as doubles do -/

/-- The digits that are dropped: the first of them, and whether a further one counts anything. -/
theorem shiftRight_exact (m k : ℕ) :
    ExtendedMantissa.ofMantissaAndAccuracy m .exact >>> (k + 1) =
      ⟨m / 2 ^ (k + 1), m / 2 ^ k % 2 != 0, m % 2 ^ k != 0⟩ := by
  induction k with
  | zero =>
    change (⟨m / 2, m % 2 != 0, false⟩ : ExtendedMantissa) = _
    simp [Nat.mod_one]
  | succ k ih =>
    have hstep : ExtendedMantissa.ofMantissaAndAccuracy m .exact >>> (k + 1 + 1) =
        (ExtendedMantissa.ofMantissaAndAccuracy m .exact >>> (k + 1)).shiftRightOne := rfl
    have hdropped : (m / 2 ^ k % 2 != 0 || m % 2 ^ k != 0) = (m % 2 ^ (k + 1) != 0) := by
      rw [Nat.mod_pow_succ, Bool.eq_iff_iff]
      simp
      omega
    rw [hstep, ih, ExtendedMantissa.shiftRightOne, Nat.div_div_eq_div_mul, ← pow_succ, hdropped]

theorem roundedMantissa_shiftRight (m k : ℕ) :
    (ExtendedMantissa.ofMantissaAndAccuracy m .exact >>> k).roundedMantissa = roundOff k m := by
  cases k with
  | zero =>
    rw [roundOff_of_dvd (one_dvd m)]
    exact (Nat.div_one m).symm
  | succ k =>
    have hlast := Nat.mod_pow_succ (b := 2) (x := m) (k := k)
    have hrest : m % 2 ^ k < 2 ^ k := Nat.mod_lt m (by positivity)
    rw [shiftRight_exact, roundOff, hlast, pow_succ]
    -- a half is a first digit with nothing after it
    rcases Nat.mod_two_eq_zero_or_one (m / 2 ^ k) with hfirst | hfirst <;>
      rcases Nat.eq_zero_or_pos (m % 2 ^ k) with hzero | hpos
    · rw [hfirst, hzero, if_pos (by omega)]
      rfl
    · rw [hfirst, bne_iff_ne.2 hpos.ne', if_pos (by omega)]
      rfl
    · rw [hfirst, hzero, if_neg (by omega), if_pos (by omega)]
      rfl
    · rw [hfirst, bne_iff_ne.2 hpos.ne', if_neg (by omega), if_neg (by omega)]
      rfl

/-- A number with digits to spare is cut to 53 of them. -/
theorem shiftToTargetExponent_of_full {e : ℤ} (hfull : 52 ≤ m.log2) (he : -1074 ≤ e) :
    shiftToTargetExponent .binary64 m e .exact =
      (ExtendedMantissa.ofMantissaAndAccuracy m .exact >>> (m.log2 - 52),
        e + (m.log2 - 52 : ℕ)) := by
  have hlast : (lastDigit m e - e).toNat = m.log2 - 52 := by
    rw [lastDigit_eq]
    omega
  change (ExtendedMantissa.ofMantissaAndAccuracy m .exact >>> (lastDigit m e - e).toNat,
    e + ((lastDigit m e - e).toNat : ℤ)) = _
  rw [hlast]

theorem two_pow_le_roundOff (hfull : 52 ≤ m.log2) : 2 ^ 52 ≤ roundOff (m.log2 - 52) m := by
  have hm : m ≠ 0 := by
    rintro rfl
    rw [Nat.log2_zero] at hfull
    omega
  apply Nat.le_of_mul_le_mul_right (c := 2 ^ (m.log2 - 52)) _ (by positivity)
  calc 2 ^ 52 * 2 ^ (m.log2 - 52) = 2 ^ m.log2 := by
        rw [← pow_add, Nat.add_sub_cancel' hfull]
    _ ≤ nearest m := two_pow_log2_le_nearest hm

theorem roundOff_le_two_pow (hfull : 52 ≤ m.log2) : roundOff (m.log2 - 52) m ≤ 2 ^ 53 := by
  apply Nat.le_of_mul_le_mul_right (c := 2 ^ (m.log2 - 52)) _ (by positivity)
  calc nearest m ≤ 2 ^ (m.log2 + 1) := nearest_le_two_pow m
    _ = 2 ^ 53 * 2 ^ (m.log2 - 52) := by
      rw [← pow_add]
      congr 1
      omega

/-- Of a number of 53 digits nothing is dropped, and of the next one a zero. -/
theorem div_full {r : ℕ} (hlow : 2 ^ 52 ≤ r) (hhigh : r ≤ 2 ^ 53) :
    (2 ^ 52 ≤ r / 2 ^ (r.log2 - 52) ∧ r / 2 ^ (r.log2 - 52) < 2 ^ 53) ∧
      r / 2 ^ (r.log2 - 52) * 2 ^ (r.log2 - 52) = r ∧ 52 ≤ r.log2 ∧ r.log2 ≤ 53 := by
  rcases hhigh.lt_or_eq with hlt | rfl
  · rw [log2_of_full hlow hlt]
    simpa using ⟨hlow, hlt⟩
  · rw [Nat.log2_two_pow]
    decide

/-- **Rounding goes to the nearest.** -/
theorem normal_roundWithAccuracy {e : ℤ} (hfull : 52 ≤ m.log2) (he : -1074 ≤ e)
    (hroom : e + m.log2 ≤ 1022) (sign : Sign) :
    Normal sign (nearest m * 2 ^ e) (roundWithAccuracy .binary64 sign m e .exact) := by
  have hfirst := shiftToTargetExponent_of_full hfull he
  obtain ⟨hdigits, hexact, hagain, htop⟩ :=
    div_full (two_pow_le_roundOff hfull) (roundOff_le_two_pow hfull)
  have hnearest : nearest m = roundOff (m.log2 - 52) m * 2 ^ (m.log2 - 52) := rfl
  generalize hk : m.log2 - 52 = k at *
  generalize hr : roundOff k m = r at *
  generalize hj : r.log2 - 52 = j at *
  have hsecond := shiftToTargetExponent_of_full (e := e + k) hagain (by omega)
  have hmantissa :
      (ExtendedMantissa.ofMantissaAndAccuracy r .exact >>> j).mantissa = r / 2 ^ j := by
    rw [mantissa_shiftRight, mantissa_ofMantissaAndAccuracy]
  unfold roundWithAccuracy
  simp only [hfirst, roundedMantissa_shiftRight, hr, hsecond, hj, hmantissa]
  rw [dif_neg (by omega)]
  refine ⟨_, _, _, rfl, hdigits, by omega, ?_⟩
  calc ((r / 2 ^ j : ℕ) : ℚ) * 2 ^ (e + k + j)
      = ((r / 2 ^ j * 2 ^ j : ℕ) : ℚ) * 2 ^ k * 2 ^ e := by
        rw [zpow_add₀ two_ne_zero, zpow_add₀ two_ne_zero, zpow_natCast, zpow_natCast]
        push_cast
        ring
    _ = nearest m * 2 ^ e := by
        rw [hexact, hnearest]
        push_cast
        rfl

/-- A number with few digits is given zeros first. -/
theorem normal_round {e : ℤ} (hm : 0 < m) (he : -1000 ≤ e) (hroom : e + m.log2 ≤ 1000)
    (sign : Sign) : Normal sign (nearest m * 2 ^ e) (UnpackedFloat.round .binary64 sign m e) := by
  have hshift : (e - lastDigit m e).toNat = 52 - m.log2 := by
    rw [lastDigit_eq]
    omega
  have hzeros : decreaseExponent m e (lastDigit m e) =
      (m * 2 ^ (52 - m.log2), e - (52 - m.log2 : ℕ)) := by
    rw [decreaseExponent, hshift, Nat.shiftLeft_eq]
  have hlog := log2_mul_two_pow hm (52 - m.log2)
  have hnormal := normal_roundWithAccuracy (e := e - (52 - m.log2 : ℕ))
    (show 52 ≤ (m * 2 ^ (52 - m.log2)).log2 by omega) (by omega) (by omega) sign
  have hvalue : (nearest (m * 2 ^ (52 - m.log2)) : ℚ) * 2 ^ (e - (52 - m.log2 : ℕ)) =
      nearest m * 2 ^ e := by
    rw [nearest_mul_two_pow, zpow_sub₀ two_ne_zero, zpow_natCast]
    push_cast
    field_simp
  rw [hvalue] at hnormal
  change Normal sign _ (roundWithAccuracy .binary64 sign
    (decreaseExponent m e (lastDigit m e)).1 (decreaseExponent m e (lastDigit m e)).2 .exact)
  rwa [hzeros]

/-! ## Conversion -/

theorem counts_ofWhole_natCast (hn : n < 2 ^ 200) :
    Counts .positive (nearest n) (ofWhole n) := by
  rcases Nat.eq_zero_or_pos n with rfl | hpos
  · exact .inl ⟨rfl, by simp [nearest_of_le]⟩
  · have hlog : n.log2 < 200 := (Nat.log2_lt hpos.ne').2 hn
    have hround := normal_round (e := 0) hpos (by omega) (by omega) .positive
    have hpositive : compare (n : ℤ) 0 = .gt := compare_gt_iff_gt.2 (by omega)
    apply Counts.of_pack
    simpa only [UnpackedFloat.ofInt, UnpackedFloat.normalize, hpositive, Int.toNat_natCast,
      zpow_zero, mul_one] using hround

theorem counts_ofWhole_neg (hpos : 0 < n) (hn : n < 2 ^ 200) :
    Counts .negative (nearest n) (ofWhole (-n)) := by
  have hlog : n.log2 < 200 := (Nat.log2_lt hpos.ne').2 hn
  have hround := normal_round (e := 0) hpos (by omega) (by omega) .negative
  have hnegative : compare (-n : ℤ) 0 = .lt := compare_lt_iff_lt.2 (by omega)
  apply Counts.of_pack
  simpa only [UnpackedFloat.ofInt, UnpackedFloat.normalize, hnegative, neg_neg, Int.toNat_natCast,
    zpow_zero, mul_one] using hround

/-- A number is the same when it is multiplied with one. -/
theorem Normal.mul_one {sign : Sign} {q : ℚ} {u : UnpackedFloat} (h : Normal sign q u)
    (hlow : 1 ≤ q) (hhigh : q < 2 ^ 53) :
    Normal sign q
      (UnpackedFloat.mul .binary64 u (.finite .positive (2 ^ 52) (-52) (by decide))) := by
  obtain ⟨m, e, hm, rfl, hfull, -, rfl⟩ := h
  have hlog := log2_of_full hfull.1 hfull.2
  have hlog' := log2_mul_two_pow hm 52
  have hbelow : -53 < e := by
    have hm' : (m : ℚ) < 2 ^ 53 := by exact_mod_cast hfull.2
    by_contra hle
    apply hlow.not_gt
    calc (m : ℚ) * 2 ^ e < 2 ^ 53 * 2 ^ e := by gcongr
      _ ≤ 2 ^ 53 * 2 ^ (-53 : ℤ) :=
        mul_le_mul_of_nonneg_left (zpow_le_zpow_right₀ one_le_two (not_lt.1 hle)) (by positivity)
      _ = 1 := by norm_num
  have habove : e < 1 := by
    have hm' : (2 : ℚ) ^ 52 ≤ m := by exact_mod_cast hfull.1
    by_contra hge
    apply hhigh.not_ge
    calc (2 : ℚ) ^ 53 = (2 : ℚ) ^ 52 * 2 ^ (1 : ℤ) := by norm_num
      _ ≤ (m : ℚ) * 2 ^ e :=
        mul_le_mul hm' (zpow_le_zpow_right₀ one_le_two (not_lt.1 hge)) (by positivity)
          (by positivity)
  have hround := normal_roundWithAccuracy (m := m * 2 ^ 52) (e := e + -52) (by omega) (by omega)
    (by omega) sign
  have hvalue : (nearest (m * 2 ^ 52) : ℚ) * 2 ^ (e + -52) = m * 2 ^ e := by
    rw [nearest_mul_two_pow, nearest_of_le hfull.2.le, zpow_add₀ two_ne_zero]
    push_cast
    ring
  rw [hvalue] at hround
  cases sign <;> exact hround

/-- A number of few digits is converted and then multiplied with one. -/
theorem counts_ofNat_of_lt (hn : n < 2 ^ 53) : Counts .positive (nearest n) (Float.ofNat n) := by
  rw [ofNat_eq hn]
  rcases Nat.eq_zero_or_pos n with rfl | hpos
  · exact .inl ⟨rfl, by simp [nearest_of_le]⟩
  · have hlow : (1 : ℚ) ≤ n := by exact_mod_cast hpos
    have hhigh : (n : ℚ) < 2 ^ 53 := by exact_mod_cast hn
    have hwhole := counts_ofWhole_natCast (hn.trans (by decide))
    rw [nearest_of_le hn.le] at hwhole ⊢
    obtain ⟨-, hzero⟩ | hnormal := hwhole
    · exact absurd hzero (by positivity)
    · exact .of_pack (hnormal.mul_one hlow hhigh)

/-- A number of many digits is multiplied with one before it is cut. -/
theorem counts_ofNat_of_le (hlow : 2 ^ 53 ≤ n) (hn : n < 2 ^ 200) :
    Counts .positive (nearest n) (Float.ofNat n) := by
  have hpos : 0 < n := by omega
  have hlog : n.log2 < 200 := (Nat.log2_lt hpos.ne').2 hn
  have hmore := log2_mul_two_pow hpos 53
  have hround := normal_roundWithAccuracy (m := n * 2 ^ 53) (e := -53) (by omega) (by omega)
    (by omega) .positive
  have hvalue : (nearest (n * 2 ^ 53) : ℚ) * 2 ^ (-53 : ℤ) = nearest n := by
    rw [nearest_mul_two_pow, zpow_neg]
    push_cast
    exact mul_inv_cancel_right₀ (by positivity) _
  have hcut : UnpackedFloat.ofScientific .binary64 n 0 =
      roundWithAccuracy .binary64 .positive (n * 2 ^ 53) (-53) .exact := by
    have hsmall : ¬(0 : ℤ) > 2 ^ Format.binary64.exponentBits := by decide
    have hlarge : ¬(0 : ℤ) < -(2 ^ Format.binary64.exponentBits + n.log2) := by
      change ¬(0 : ℤ) < -(2048 + n.log2)
      omega
    rw [UnpackedFloat.ofScientific, dif_neg (by omega), if_neg hsmall, if_neg hlarge,
      if_pos le_rfl]
    change roundWithAccuracy .binary64 .positive ((n <<< 53) * 1) (-53) .exact = _
    rw [Nat.mul_one, Nat.shiftLeft_eq]
  have hmany : Float.ofNat n = .ofModel (.pack (UnpackedFloat.ofScientific .binary64 n 0)) := by
    simp only [Float.ofNat, OfScientific.ofScientific, Float.ofScientific]
    rw [dif_neg (by omega)]
    rfl
  rw [hvalue, ← hcut] at hround
  rw [hmany]
  exact .of_pack hround

theorem counts_ofNat (hn : n < 2 ^ 200) : Counts .positive (nearest n) (Float.ofNat n) := by
  rcases lt_or_ge n (2 ^ 53) with hlt | hge
  · exact counts_ofNat_of_lt hlt
  · exact counts_ofNat_of_le hge hn

/-- **A natural number is converted to the nearest double.** -/
theorem value_ofNat (hn : n < 2 ^ 200) : value (Float.ofNat n) = nearest n :=
  (counts_ofNat hn).value_eq

/-- **A whole number is converted to the nearest double.** -/
theorem value_ofWhole {n : ℤ} (hn : n.natAbs < 2 ^ 200) :
    value (ofWhole n) = (n.sign * nearest n.natAbs : ℤ) := by
  rcases lt_or_ge n 0 with hneg | hnonneg
  · have hcounts := counts_ofWhole_neg (show 0 < n.natAbs by omega) hn
    rw [show -(n.natAbs : ℤ) = n by omega] at hcounts
    rw [hcounts.value_eq, Int.sign_eq_neg_one_of_neg hneg]
    simp [signed]
  · have hcounts := counts_ofWhole_natCast hn
    rw [show (n.natAbs : ℤ) = n by omega] at hcounts
    rw [hcounts.value_eq]
    rcases hnonneg.eq_or_lt with rfl | hpos
    · simp [signed, nearest_of_le]
    · simp [signed, Int.sign_eq_one_of_pos hpos]

theorem isFinite_ofNat (hn : n < 2 ^ 200) : (Float.ofNat n).isFinite = true :=
  (counts_ofNat hn).isFinite

end ChatGateway.Binary64
