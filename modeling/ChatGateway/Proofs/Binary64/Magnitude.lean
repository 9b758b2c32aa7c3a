import ChatGateway.Proofs.Binary64.Order

/-!
# The size of doubles

What is computed with doubles is rounded, and rounding adds at most one part in `2 ^ 52` and next to
nothing (`Binary64.widen`). So a bound on the size of what is added, multiplied or divided gives one
on the result (`Binary64.Within.add`, `mul`, `div`), as long as it is far below the largest double.
Bounds are rational numbers: doubles between zero and a given one are bounded by what that one is
(`Within.of_le`), and those with a smaller bound are below it (`Within.lt`).

Whole numbers of up to 64 binary digits are finite doubles (`Binary64.isFinite_ofWhole`).
-/

namespace ChatGateway.Binary64

open Float.Model Float.Model.UnpackedFloat

/-- The number is finite and at most `b` in size, and a double can have its last digit. -/
def Bounded (b : ℚ) : UnpackedFloat → Prop
  | .zero _ => 0 ≤ b
  | .finite _ mantissa exponent _ => -1074 ≤ exponent ∧ (mantissa : ℚ) * 2 ^ exponent ≤ b
  | _ => False

/-- What is at most `b` is at most this when it is rounded. -/
def widen (b : ℚ) : ℚ := b + (b + 1) / 2 ^ 52

variable {b c : ℚ} {u v : UnpackedFloat}

namespace Bounded

theorem nonneg (h : Bounded b u) : 0 ≤ b := by
  cases u with
  | zero sign => exact h
  | finite sign m e hm => exact le_trans (by positivity) h.2
  | _ => exact h.elim

theorem mono (h : Bounded b u) (hbc : b ≤ c) : Bounded c u := by
  cases u with
  | zero sign => exact le_trans h hbc
  | finite sign m e hm => exact ⟨h.1, h.2.trans hbc⟩
  | _ => exact h.elim

theorem isFinite (h : Bounded b u) : u.isFinite := by
  cases u with
  | zero sign => rfl
  | finite sign m e hm => rfl
  | _ => exact h.elim

theorem isNaN (h : Bounded b u) : u.isNaN = false := by
  cases u with
  | notANumber => exact h.elim
  | _ => rfl

theorem exponent_le {sign : Sign} {m : ℕ} {e : ℤ} {hm : 0 < m} {k : ℕ}
    (h : Bounded b (.finite sign m e hm)) (hb : b ≤ 2 ^ k) : e ≤ k := by
  have hone : (1 : ℚ) ≤ m := by exact_mod_cast hm
  have hle : (2 : ℚ) ^ e ≤ 2 ^ (k : ℤ) := by
    calc (2 : ℚ) ^ e ≤ m * 2 ^ e := le_mul_of_one_le_left (by positivity) hone
      _ ≤ b := h.2
      _ ≤ 2 ^ k := hb
      _ = 2 ^ (k : ℤ) := (zpow_natCast 2 k).symm
  exact (zpow_le_zpow_iff_right₀ one_lt_two).1 hle

end Bounded

theorem le_widen (hb : 0 ≤ b) : b ≤ widen b := by
  unfold widen
  linarith [show 0 ≤ (b + 1) / 2 ^ 52 by positivity]

theorem widen_mono (h : b ≤ c) : widen b ≤ widen c := by
  unfold widen
  gcongr

/-! ## Rounding -/

theorem mantissa_shiftRight (em : ExtendedMantissa) (n : ℕ) :
    (em >>> n).mantissa = em.mantissa / 2 ^ n := by
  induction n with
  | zero => exact (Nat.div_one em.mantissa).symm
  | succ n ih =>
    have hstep : (em >>> (n + 1)).mantissa = (em >>> n).mantissa / 2 := rfl
    rw [hstep, ih, Nat.div_div_eq_div_mul, pow_succ]

theorem mantissa_ofMantissaAndAccuracy (m : ℕ) (accuracy : Accuracy) :
    (ExtendedMantissa.ofMantissaAndAccuracy m accuracy).mantissa = m := by
  unfold ExtendedMantissa.ofMantissaAndAccuracy
  split <;> rfl

theorem roundedMantissa_le (em : ExtendedMantissa) : em.roundedMantissa ≤ em.mantissa + 1 := by
  obtain ⟨mantissa, roundBit, stickyBit⟩ := em
  cases roundBit <;> cases stickyBit <;>
    simp only [ExtendedMantissa.roundedMantissa, ExtendedMantissa.accuracy,
      Accuracy.roundToNearestEven] <;> omega

/-- The exponent of the last digit that a double has room for. -/
def lastDigit (m : ℕ) (e : ℤ) : ℤ := Format.binary64.targetExponent (totalExponent m e)

theorem lastDigit_eq (m : ℕ) (e : ℤ) : lastDigit m e = max (m.log2 + e - 52) (-1074) := by
  simp only [lastDigit, Format.targetExponent, totalExponent, Format.mantissaBits,
    Format.minExponent]
  omega

theorem shifted_exponent (m : ℕ) (e : ℤ) (accuracy : Accuracy) :
    (shiftToTargetExponent .binary64 m e accuracy).2 = max e (lastDigit m e) := by
  simp only [shiftToTargetExponent, shiftToExponent]
  unfold lastDigit
  omega

/-- Dropping digits makes a number no larger. -/
theorem shifted_size (m : ℕ) (e : ℤ) (accuracy : Accuracy) :
    ((shiftToTargetExponent .binary64 m e accuracy).1.mantissa : ℚ) *
      2 ^ (shiftToTargetExponent .binary64 m e accuracy).2 ≤ m * 2 ^ e := by
  simp only [shiftToTargetExponent, shiftToExponent, mantissa_shiftRight,
    mantissa_ofMantissaAndAccuracy]
  generalize (Format.binary64.targetExponent (totalExponent m e) - e).toNat = n
  have hle : ((m / 2 ^ n : ℕ) : ℚ) * 2 ^ n ≤ m := by
    exact_mod_cast Nat.div_mul_le_self m (2 ^ n)
  calc ((m / 2 ^ n : ℕ) : ℚ) * 2 ^ (e + (n : ℤ))
      = ((m / 2 ^ n : ℕ) : ℚ) * 2 ^ n * 2 ^ e := by
        rw [zpow_add₀ two_ne_zero, zpow_natCast]
        ring
    _ ≤ m * 2 ^ e := by gcongr

/-- The last digit that is kept is small, unless fewer than 53 are there. -/
theorem unit_le {m : ℕ} {e : ℤ} (h : e < lastDigit m e ∨ 2 ^ 52 ≤ m ∨ e ≤ -1074) :
    (2 : ℚ) ^ max e (lastDigit m e) ≤ (m * 2 ^ e + 1) / 2 ^ 52 := by
  have hsize : (0 : ℚ) ≤ m * 2 ^ e := by positivity
  have hlast := lastDigit_eq m e
  rw [le_div_iff₀ (by positivity)]
  rcases le_or_gt (max e (lastDigit m e)) (-52) with hle | hgt
  · -- what such a digit counts is next to nothing
    have htiny : (2 : ℚ) ^ max e (lastDigit m e) ≤ 2 ^ (-52 : ℤ) :=
      zpow_le_zpow_right₀ one_le_two hle
    have hunit : (2 : ℚ) ^ (-52 : ℤ) * 2 ^ 52 = 1 := by norm_num
    linarith
  · rcases lt_or_ge e (lastDigit m e) with hlt | hge
    · have hm : m ≠ 0 := by
        rintro rfl
        rw [Nat.log2_zero] at hlast
        omega
      have hlog : (2 : ℚ) ^ m.log2 ≤ m := by exact_mod_cast Nat.log2_self_le hm
      have hexponent : max e (lastDigit m e) + (52 : ℕ) = m.log2 + e := by omega
      calc (2 : ℚ) ^ max e (lastDigit m e) * 2 ^ 52
          = 2 ^ m.log2 * 2 ^ e := by
            rw [← zpow_natCast, ← zpow_natCast, ← zpow_add₀ two_ne_zero, ← zpow_add₀ two_ne_zero,
              hexponent]
        _ ≤ m * 2 ^ e := by gcongr
        _ ≤ m * 2 ^ e + 1 := by linarith
    · rw [max_eq_left hge] at hgt ⊢
      have hm : (2 : ℚ) ^ 52 ≤ m := by exact_mod_cast (show 2 ^ 52 ≤ m by omega)
      calc (2 : ℚ) ^ e * 2 ^ 52 = 2 ^ 52 * 2 ^ e := mul_comm _ _
        _ ≤ m * 2 ^ e := by gcongr
        _ ≤ m * 2 ^ e + 1 := by linarith

/-- Rounding up adds no more than the last digit. -/
theorem rounded_size {m : ℕ} {e : ℤ} {accuracy : Accuracy}
    (h : accuracy = .exact ∨ 2 ^ 52 ≤ m ∨ e ≤ -1074) :
    ((shiftToTargetExponent .binary64 m e accuracy).1.roundedMantissa : ℚ) *
      2 ^ (shiftToTargetExponent .binary64 m e accuracy).2 ≤ widen (m * 2 ^ e) := by
  by_cases hsmall : e < lastDigit m e ∨ 2 ^ 52 ≤ m ∨ e ≤ -1074
  · have hsize := shifted_size m e accuracy
    have hunit := unit_le hsmall
    rw [← shifted_exponent m e accuracy] at hunit
    generalize shiftToTargetExponent .binary64 m e accuracy = shifted at hsize hunit ⊢
    have hrounded : (shifted.1.roundedMantissa : ℚ) ≤ shifted.1.mantissa + 1 := by
      exact_mod_cast roundedMantissa_le shifted.1
    calc (shifted.1.roundedMantissa : ℚ) * 2 ^ shifted.2
        ≤ (shifted.1.mantissa + 1) * 2 ^ shifted.2 := by gcongr
      _ = shifted.1.mantissa * 2 ^ shifted.2 + 2 ^ shifted.2 := by ring
      _ ≤ widen (m * 2 ^ e) := by unfold widen; linarith
  · -- nothing is dropped, and nothing is rounded
    obtain ⟨hge, hfew⟩ := not_or.1 hsmall
    obtain rfl := h.resolve_right hfew
    have hnone : (Format.binary64.targetExponent (totalExponent m e) - e).toNat = 0 := by
      change (lastDigit m e - e).toNat = 0
      omega
    have hsame : shiftToTargetExponent .binary64 m e .exact =
        (.ofMantissaAndAccuracy m .exact, e) := by
      rw [shiftToTargetExponent, shiftToExponent, hnone]
      exact congrArg _ (Int.add_zero e)
    rw [hsame]
    exact le_widen (by positivity)

/-- **Rounding adds little.** -/
theorem roundWithAccuracy_bounded {m : ℕ} {e : ℤ} {accuracy : Accuracy} (hb : m * 2 ^ e ≤ b)
    (h : accuracy = .exact ∨ 2 ^ 52 ≤ m ∨ e ≤ -1074) (sign : Sign) :
    Bounded (widen b) (roundWithAccuracy .binary64 sign m e accuracy) := by
  have hrounded := (rounded_size h).trans (widen_mono hb)
  unfold roundWithAccuracy
  generalize shiftToTargetExponent .binary64 m e accuracy = shifted at hrounded ⊢
  -- rounding may have made one digit too many, which is dropped
  have hagain := shifted_size shifted.1.roundedMantissa shifted.2 .exact
  have hexponent := shifted_exponent shifted.1.roundedMantissa shifted.2 .exact
  have hlast := lastDigit_eq shifted.1.roundedMantissa shifted.2
  dsimp only
  split
  · exact le_trans (by positivity) hrounded
  · exact ⟨by omega, hagain.trans hrounded⟩

theorem decreaseExponent_size (m : ℕ) (e target : ℤ) :
    ((decreaseExponent m e target).1 : ℚ) * 2 ^ (decreaseExponent m e target).2 = m * 2 ^ e := by
  simp only [decreaseExponent, Nat.shiftLeft_eq]
  generalize (e - target).toNat = n
  push_cast
  rw [mul_assoc, ← zpow_natCast, ← zpow_add₀ two_ne_zero, add_sub_cancel]

theorem decreaseExponent_size_of_le (m : ℕ) {e target : ℤ} (h : target ≤ e) :
    ((decreaseExponent m e target).1 : ℚ) * 2 ^ target = m * 2 ^ e := by
  have hreached : (decreaseExponent m e target).2 = target := by
    simp only [decreaseExponent]
    omega
  rw [← decreaseExponent_size m e target, hreached]

theorem round_bounded {m : ℕ} {e : ℤ} (hb : m * 2 ^ e ≤ b) (sign : Sign) :
    Bounded (widen b) (UnpackedFloat.round .binary64 sign m e) :=
  roundWithAccuracy_bounded ((decreaseExponent_size m e _).trans_le hb) (.inl rfl) sign

theorem normalize_bounded {n : ℤ} {e : ℤ} (hb : n.natAbs * 2 ^ e ≤ b) (zeroSign : Sign) :
    Bounded (widen b) (UnpackedFloat.normalize .binary64 n e zeroSign) := by
  have hround {m : ℕ} (hm : m ≤ n.natAbs) (sign : Sign) :
      Bounded (widen b) (UnpackedFloat.round .binary64 sign m e) := by
    refine round_bounded (le_trans ?_ hb) sign
    gcongr
  unfold UnpackedFloat.normalize
  split
  · exact hround (by omega) .negative
  · have hnonneg : 0 ≤ b := le_trans (by positivity) hb
    exact hnonneg.trans (le_widen hnonneg)
  · exact hround (by omega) .positive

/-! ## Arithmetic -/

theorem mul_bounded (hu : Bounded b u) (hv : Bounded c v) :
    Bounded (widen (b * c)) (UnpackedFloat.mul .binary64 u v) := by
  have hzero : 0 ≤ widen (b * c) := by
    have hbc := mul_nonneg hu.nonneg hv.nonneg
    exact hbc.trans (le_widen hbc)
  cases u with
  | zero sign =>
    cases v with
    | zero sign => exact hzero
    | finite sign n f hn => exact hzero
    | _ => exact hv.elim
  | finite sign m e hm =>
    cases v with
    | zero sign => exact hzero
    | finite sign n f hn =>
      refine roundWithAccuracy_bounded ?_ (.inl rfl) _
      calc ((m * n : ℕ) : ℚ) * 2 ^ (e + f)
          = m * 2 ^ e * (n * 2 ^ f) := by
            rw [zpow_add₀ two_ne_zero]
            push_cast
            ring
        _ ≤ b * c := mul_le_mul hu.2 hv.2 (by positivity) hu.nonneg
    | _ => exact hv.elim
  | _ => exact hu.elim

theorem natAbs_apply_add_le (s t : Sign) (m n : ℕ) :
    (s.apply m + t.apply n).natAbs ≤ m + n := by
  cases s <;> cases t <;> simp only [Sign.apply] <;> omega

theorem add_bounded (hu : Bounded b u) (hv : Bounded c v) :
    Bounded (widen (b + c)) (UnpackedFloat.add .binary64 u v) := by
  have hb := hu.nonneg
  have hc := hv.nonneg
  have hwiden := le_widen (add_nonneg hb hc)
  cases u with
  | zero sign =>
    cases v with
    | zero sign' => cases sign <;> cases sign' <;> exact (add_nonneg hb hc).trans hwiden
    | finite sign n f hn => exact hv.mono (by linarith)
    | _ => exact hv.elim
  | finite sign m e hm =>
    cases v with
    | zero sign => exact hu.mono (by linarith)
    | finite sign' n f hn =>
      have hm' := decreaseExponent_size_of_le m (min_le_left e f)
      have hn' := decreaseExponent_size_of_le n (min_le_right e f)
      have hsum := natAbs_apply_add_le sign sign' (decreaseExponent m e (min e f)).1
        (decreaseExponent n f (min e f)).1
      refine normalize_bounded
        ((mul_le_mul_of_nonneg_right (Nat.cast_le.2 hsum) (by positivity)).trans ?_) .positive
      calc (((decreaseExponent m e (min e f)).1 + (decreaseExponent n f (min e f)).1 : ℕ) : ℚ) *
            2 ^ min e f
          = m * 2 ^ e + n * 2 ^ f := by rw [← hm', ← hn', Nat.cast_add, add_mul]
        _ ≤ b + c := add_le_add hu.2 hv.2
    | _ => exact hv.elim
  | _ => exact hu.elim

/-- A quotient is taken to as many digits as a double has, or to the last that it can have. -/
theorem divCore_digits {m n : ℕ} (hm : 0 < m) (hn : 0 < n) (e f : ℤ) :
    2 ^ 52 ≤ (divCore .binary64 m e n f).1 ∨ (divCore .binary64 m e n f).2.1 ≤ -1074 := by
  simp only [divCore, Format.targetExponent, totalExponent, Format.mantissaBits,
    Format.minExponent, Nat.shiftLeft_eq]
  generalize hk : (e - f - min (e - f) _).toNat = k
  by_cases hlow : e - f ≤ -1074 ∨ (m.log2 : ℤ) + e - n.log2 - f - 53 ≤ -1074
  · right
    omega
  · left
    have hdigits : n.log2 + 1 + 52 ≤ m.log2 + k := by omega
    have hm' : 2 ^ m.log2 ≤ m := Nat.log2_self_le hm.ne'
    have hn' : n < 2 ^ (n.log2 + 1) := Nat.lt_log2_self
    rw [Nat.le_div_iff_mul_le hn]
    calc 2 ^ 52 * n ≤ 2 ^ 52 * 2 ^ (n.log2 + 1) := by gcongr
      _ = 2 ^ (n.log2 + 1 + 52) := by rw [← pow_add, add_comm]
      _ ≤ 2 ^ (m.log2 + k) := Nat.pow_le_pow_right (by decide) hdigits
      _ = 2 ^ m.log2 * 2 ^ k := pow_add _ _ _
      _ ≤ m * 2 ^ k := by gcongr

theorem divCore_size {m n : ℕ} (hn : 0 < n) (e f : ℤ) :
    ((divCore .binary64 m e n f).1 : ℚ) * 2 ^ (divCore .binary64 m e n f).2.1 ≤
      m * 2 ^ e / (n * 2 ^ f) := by
  simp only [divCore, Nat.shiftLeft_eq]
  generalize htarget : min (e - f) _ = target
  have hshift : target + ((e - f - target).toNat : ℤ) = e - f := by omega
  generalize (e - f - target).toNat = k at hshift
  have hfloor : ((m * 2 ^ k / n : ℕ) : ℚ) ≤ m * 2 ^ k / n := by
    exact_mod_cast Nat.cast_div_le (α := ℚ)
  calc ((m * 2 ^ k / n : ℕ) : ℚ) * 2 ^ target ≤ m * 2 ^ k / n * 2 ^ target := by gcongr
    _ = m * (2 ^ target * 2 ^ k) / n := by ring
    _ = m * 2 ^ (e - f) / n := by rw [← zpow_natCast, ← zpow_add₀ two_ne_zero, hshift]
    _ = m * 2 ^ e / (n * 2 ^ f) := by
      rw [zpow_sub₀ two_ne_zero]
      field_simp

theorem div_bounded (hu : Bounded b u) (sign : Sign) {n : ℕ} (f : ℤ) (hn : 0 < n) :
    Bounded (widen (b / (n * 2 ^ f))) (UnpackedFloat.div .binary64 u (.finite sign n f hn)) := by
  have hzero : 0 ≤ b / (n * 2 ^ f) := div_nonneg hu.nonneg (by positivity)
  cases u with
  | zero sign => exact hzero.trans (le_widen hzero)
  | finite sign m e hm =>
    refine roundWithAccuracy_bounded ((divCore_size hn e f).trans ?_)
      (.inr (divCore_digits hm hn e f)) _
    have hle := hu.2
    gcongr
  | _ => exact hu.elim

/-! ## Packing -/

theorem implicitBit_toNat (fraction : BitVec 52) :
    (1#1 ++ fraction).toNat = 2 ^ 52 + fraction.toNat := by
  rw [BitVec.toNat_append, ← Nat.shiftLeft_add_eq_or_of_lt fraction.isLt]
  rfl

variable (bits : BitVec Format.binary64.numBits)

theorem unpack_normal (hlow : unpackExponent bits ≠ 0#_) (htop : unpackExponent bits ≠ -1#_) :
    ∃ hm, UnpackedFloat.unpack .binary64 bits = .finite (Sign.ofBitVec (unpackSign bits))
      (2 ^ 52 + (unpackMantissa bits).toNat) ((unpackExponent bits).toNat - 1075) hm := by
  refine ⟨by positivity, ?_⟩
  simp only [UnpackedFloat.unpack, if_neg htop, if_neg hlow]
  congr 1
  exact implicitBit_toNat (unpackMantissa bits)

theorem unpack_subnormal (hlow : unpackExponent bits = 0#_) :
    ((unpackMantissa bits).toNat = 0 ∧
        UnpackedFloat.unpack .binary64 bits = .zero (Sign.ofBitVec (unpackSign bits))) ∨
      ∃ hm, UnpackedFloat.unpack .binary64 bits =
        .finite (Sign.ofBitVec (unpackSign bits)) (unpackMantissa bits).toNat (-1074) hm := by
  have htop : (0#11 : BitVec 11) ≠ -1#11 := by decide
  simp only [UnpackedFloat.unpack, hlow]
  rw [if_neg htop, if_pos trivial]
  split
  · rename_i hzero
    exact .inl ⟨congrArg BitVec.toNat hzero, rfl⟩
  · exact .inr ⟨BitVec.toNat_pos_of_ne_zero ‹_›, rfl⟩

/-- The mantissa is full, or the exponent is the lowest. -/
def Full : UnpackedFloat → Prop
  | .finite _ mantissa exponent _ =>
    mantissa < 2 ^ 53 ∧ -1074 ≤ exponent ∧ (2 ^ 52 ≤ mantissa ∨ exponent = -1074)
  | _ => True

theorem full_unpack : Full (UnpackedFloat.unpack .binary64 bits) := by
  have hfraction : (unpackMantissa bits).toNat < 2 ^ 52 := (unpackMantissa bits).isLt
  by_cases hlow : unpackExponent bits = 0#_
  · obtain ⟨-, h⟩ | ⟨hm, h⟩ := unpack_subnormal bits hlow
    · rw [h]
      trivial
    · rw [h]
      exact ⟨by omega, le_rfl, .inr rfl⟩
  · by_cases htop : unpackExponent bits = -1#_
    · simp only [UnpackedFloat.unpack, if_pos htop]
      split <;> trivial
    · obtain ⟨hm, h⟩ := unpack_normal bits hlow htop
      have hpos : 0 < (unpackExponent bits).toNat := BitVec.toNat_pos_of_ne_zero hlow
      rw [h]
      exact ⟨by omega, by omega, .inl (by omega)⟩

theorem unpackSign_packComponents (sign : Sign) (exponent : BitVec 11) (mantissa : BitVec 52) :
    Sign.ofBitVec (unpackSign (packComponents .binary64 sign exponent mantissa)) = sign := by
  simp only [unpackSign, packComponents, BitVec.extractLsb]
  rw [BitVec.extractLsb'_append_eq_of_le (by omega),
    BitVec.extractLsb'_append_eq_of_le (by omega)]
  cases sign <;> rfl

/-- A full mantissa is packed without its first digit. -/
theorem unpack_components_normal {m k : ℕ} (sign : Sign) (hm : m.log2 + 1 = 53) (hpos : 0 < k)
    (hroom : k < 2047) :
    ∃ hm, UnpackedFloat.unpack .binary64
      (packComponents .binary64 sign (BitVec.ofNat _ k) (BitVec.ofNat _ m)) =
        .finite sign m ((k : ℤ) - 1075) hm := by
  have h := unpack_normal (packComponents .binary64 sign (BitVec.ofNat _ k) (BitVec.ofNat _ m))
  rw [unpackExponent_packComponents, unpackMantissa_packComponents] at h
  have hexponent : (BitVec.ofNat Format.binary64.exponentBits k).toNat = k := by
    rw [BitVec.toNat_ofNat]
    exact Nat.mod_eq_of_lt (hroom.trans (by decide))
  have hmantissa :
      2 ^ 52 + (BitVec.ofNat Format.binary64.mantissaBitsWithoutImplicit m).toNat = m := by
    have hzero : m ≠ 0 := by
      rintro rfl
      rw [Nat.log2_zero] at hm
      omega
    have hdigits := (Nat.log2_eq_iff hzero).1 (Nat.succ.inj hm)
    rw [BitVec.toNat_ofNat]
    change 2 ^ 52 + m % 2 ^ 52 = m
    omega
  obtain ⟨hm', h⟩ := h
    (fun hlow => by rw [hlow] at hexponent; exact hpos.ne hexponent)
    (fun htop => by rw [htop] at hexponent; exact hroom.ne' hexponent)
  refine ⟨by omega, h.trans ?_⟩
  congr 1
  · exact unpackSign_packComponents _ _ _
  · rw [hexponent]

theorem unpack_components_subnormal {m : ℕ} (sign : Sign) (hb : m * 2 ^ (-1074 : ℤ) ≤ b) :
    Bounded b (UnpackedFloat.unpack .binary64
      (packComponents .binary64 sign 0#_ (BitVec.ofNat _ m))) := by
  have h := unpack_subnormal (packComponents .binary64 sign 0#_ (BitVec.ofNat _ m))
  rw [unpackExponent_packComponents, unpackMantissa_packComponents] at h
  have hmantissa : (BitVec.ofNat Format.binary64.mantissaBitsWithoutImplicit m).toNat ≤ m := by
    rw [BitVec.toNat_ofNat]
    exact Nat.mod_le m _
  obtain ⟨-, h⟩ | ⟨hm', h⟩ := h rfl
  · rw [h]
    exact le_trans (by positivity) hb
  · rw [h]
    exact ⟨le_rfl, le_trans
      (mul_le_mul_of_nonneg_right (Nat.cast_le.2 hmantissa) (by positivity)) hb⟩

/-- Packing a number that is not too large makes it no larger. -/
theorem unpack_pack_bounded (hu : Bounded b u) (hb : b ≤ 2 ^ 200) :
    Bounded b (UnpackedFloat.unpack .binary64 (UnpackedFloat.pack .binary64 u)) := by
  cases u with
  | zero sign => cases sign <;> exact hu
  | finite sign m e hm =>
    have htop : e ≤ 200 := hu.exponent_le hb
    obtain ⟨hlow, hsize⟩ := hu
    simp only [UnpackedFloat.pack]
    generalize hbiased : (e + Format.binary64.exponentBias +
      Format.binary64.mantissaBitsWithoutImplicit).toNat = biased
    change (e + 1023 + 52).toNat = biased at hbiased
    have hroom : ¬2 ^ Format.binary64.exponentBits ≤ biased + 1 := by
      change ¬2048 ≤ biased + 1
      omega
    rw [if_neg hroom]
    split
    · obtain ⟨hm', h⟩ := unpack_components_normal sign ‹_› (show 0 < biased by omega) (by omega)
      rw [h]
      refine ⟨by omega, ?_⟩
      rwa [show (biased : ℤ) - 1075 = e by omega]
    · refine unpack_components_subnormal sign (le_trans ?_ hsize)
      exact mul_le_mul_of_nonneg_left (zpow_le_zpow_right₀ one_le_two hlow) (by positivity)
  | _ => exact hu.elim

/-! ## The order -/

section Order

variable {sign : Sign} {m n : ℕ} {e f : ℤ} {hm : 0 < m} {hn : 0 < n}

/-- Of two sizes the one with the higher exponent is larger, as long as its mantissa is full. -/
theorem size_lt_size (hm : m < 2 ^ 53) (he : -1074 ≤ e) (hn : 2 ^ 52 ≤ n ∨ f = -1074)
    (h : e < f ∨ e = f ∧ m < n) : (m : ℚ) * 2 ^ e < n * 2 ^ f := by
  rcases h with hlt | ⟨rfl, hlt⟩
  · have hm' : (m : ℚ) < 2 ^ 53 := by exact_mod_cast hm
    have hn' : (2 : ℚ) ^ 52 ≤ n := by exact_mod_cast hn.resolve_right (by omega)
    calc (m : ℚ) * 2 ^ e < 2 ^ 53 * 2 ^ e := by gcongr
      _ = 2 ^ 52 * 2 ^ (e + 1) := by
        rw [zpow_add_one₀ two_ne_zero]
        ring
      _ ≤ n * 2 ^ f := mul_le_mul hn' (zpow_le_zpow_right₀ one_le_two hlt) (by positivity)
        (by positivity)
  · gcongr

/-- Of two positive numbers the one to the left is no larger. -/
theorem size_le_of_place_le (hu : Full (.finite .positive m e hm))
    (hv : Full (.finite .positive n f hn))
    (h : unpackedPlace (.finite .positive m e hm) ≤ unpackedPlace (.finite .positive n f hn)) :
    (m : ℚ) * 2 ^ e ≤ n * 2 ^ f := by
  obtain ⟨hless, hlow, -⟩ := hu
  obtain ⟨-, -, hfull⟩ := hv
  simp only [unpackedPlace, Prod.Lex.toLex_le_toLex, lt_self_iff_false, false_or, true_and] at h
  rcases h with hlt | ⟨rfl, hle⟩
  · exact (size_lt_size hless hlow hfull (.inl hlt)).le
  · gcongr
    exact_mod_cast hle

theorem bounded_of_place_le (hu : Full u) (hv : Full (.finite .positive n f hn))
    (hnumber : u.isNaN = false) (hleft : toLex (0, toLex (0, 0)) ≤ unpackedPlace u)
    (hright : unpackedPlace u ≤ unpackedPlace (.finite .positive n f hn)) :
    Bounded (n * 2 ^ f) u := by
  cases u with
  | infinity sign =>
    cases sign with
    | negative => exact absurd hleft (by decide)
    | positive => simp [unpackedPlace, Prod.Lex.toLex_le_toLex] at hright
  | notANumber => cases hnumber
  | zero sign => exact (show (0 : ℚ) ≤ n * 2 ^ f by positivity)
  | finite sign m e hm =>
    cases sign with
    | negative => simp [unpackedPlace, Prod.Lex.toLex_le_toLex] at hleft
    | positive => exact ⟨hu.2.1, size_le_of_place_le hu hv hright⟩

theorem place_lt_of_bounded (hu : Full u) (hv : Full (.finite .positive n f hn))
    (hbounded : Bounded b u) (hb : b < n * 2 ^ f) :
    unpackedPlace u < unpackedPlace (.finite .positive n f hn) := by
  cases u with
  | zero sign => simp [unpackedPlace, Prod.Lex.toLex_lt_toLex]
  | finite sign m e hm =>
    cases sign with
    | negative => simp [unpackedPlace, Prod.Lex.toLex_lt_toLex]
    | positive =>
      refine not_le.1 fun hle => ?_
      exact (hb.trans_le (size_le_of_place_le hv hu hle)).not_ge hbounded.2
  | _ => exact hbounded.elim

end Order

/-! ## Doubles -/

/-- The double is finite and at most `b` in size. -/
def Within (b : ℚ) (x : Float) : Prop := Bounded b x.toModel.unpack

theorem full_double (x : Float) : Full x.toModel.unpack := full_unpack x.toModel.toBits.toBitVec

namespace Within

variable {a : ℚ} {x y : Float} {sign : Sign} {n : ℕ} {f : ℤ} {hn : 0 < n}

theorem mono (h : Within b x) (hbc : b ≤ c) : Within c x := Bounded.mono h hbc

theorem mul (hx : Within a x) (hy : Within b y) (hc : widen (a * b) ≤ c) (hroom : c ≤ 2 ^ 200) :
    Within c (x * y) :=
  unpack_pack_bounded ((mul_bounded hx hy).mono hc) hroom

theorem add (hx : Within a x) (hy : Within b y) (hc : widen (a + b) ≤ c) (hroom : c ≤ 2 ^ 200) :
    Within c (x + y) :=
  unpack_pack_bounded ((add_bounded hx hy).mono hc) hroom

theorem div (hx : Within b x) (hy : y.toModel.unpack = .finite sign n f hn)
    (hc : widen (b / (n * 2 ^ f)) ≤ c) (hroom : c ≤ 2 ^ 200) : Within c (x / y) := by
  have hquotient := (div_bounded hx sign f hn).mono hc
  rw [← hy] at hquotient
  exact unpack_pack_bounded hquotient hroom

/-- What is between zero and a positive double is bounded by it. -/
theorem of_le (hy : y.toModel.unpack = .finite .positive n f hn) (hzero : 0.0 ≤ x) (hle : x ≤ y) :
    Within (n * 2 ^ f) x := by
  obtain ⟨-, hnumber, hleft⟩ := le_iff.1 hzero
  obtain ⟨-, -, hright⟩ := le_iff.1 hle
  have hfull := full_double y
  rw [hy] at hfull
  rw [place, place, hy] at hright
  exact bounded_of_place_le (full_double x) hfull hnumber hleft hright

/-- What is bounded by less than a positive double is below it. -/
theorem lt (hx : Within b x) (hy : y.toModel.unpack = .finite .positive n f hn)
    (hb : b < n * 2 ^ f) : x < y := by
  have hfull := full_double y
  have hnumber : y.toModel.unpack.isNaN = false := by
    rw [hy]
    rfl
  refine lt_iff.2 ⟨Bounded.isNaN hx, hnumber, ?_⟩
  rw [hy] at hfull
  rw [place, place, hy]
  exact place_lt_of_bounded (full_double x) hfull hx hb

end Within

/-! ## Whole numbers -/

theorem within_ofInt {n : ℤ} (hc : widen n.natAbs ≤ c) (hroom : c ≤ 2 ^ 200) :
    Within c (ofWhole n) := by
  refine unpack_pack_bounded (Bounded.mono (normalize_bounded ?_ .positive) hc) hroom
  rw [zpow_zero, mul_one]

/-- **Whole numbers of up to 64 digits are finite doubles.** -/
theorem isFinite_ofWhole {n : Int} (hn : n.natAbs < 2 ^ 64) : (ofWhole n).isFinite := by
  have hle : (n.natAbs : ℚ) ≤ 2 ^ 64 := by exact_mod_cast hn.le
  exact Bounded.isFinite (within_ofInt (widen_mono hle) (by norm_num [widen]))

/-- A number of so few digits is converted as an integer, and multiplied with `10 ^ 0`. -/
theorem ofNat_eq {n : ℕ} (hn : n < 2 ^ 53) :
    Float.ofNat n = ofWhole n * Float.ofBits 0x3FF0000000000000 := by
  have hint : n.toUInt64.toFloat = ofWhole n := by
    have hfits : n.toUInt64.toNat = n := Nat.mod_eq_of_lt (hn.trans (by decide))
    change ofWhole n.toUInt64.toNat = ofWhole n
    rw [hfits]
  simp only [Float.ofNat, OfScientific.ofScientific, Float.ofScientific]
  rw [dif_pos ⟨hn, by decide⟩, ← hint]
  rfl

theorem within_ofNat {n : ℕ} (hn : n < 2 ^ 53) (hc : widen (widen n) ≤ c) (hroom : c ≤ 2 ^ 200) :
    Within c (Float.ofNat n) := by
  have hone : Within 1 (Float.ofBits 0x3FF0000000000000) := by
    refine ⟨by decide, ?_⟩
    change ((2 ^ 52 : ℕ) : ℚ) * 2 ^ (-52 : ℤ) ≤ 1
    norm_num
  have hle : (n : ℚ) ≤ 2 ^ 53 := by exact_mod_cast hn.le
  have hint : Within (widen n) (ofWhole n) :=
    within_ofInt le_rfl ((widen_mono hle).trans (by norm_num [widen]))
  rw [ofNat_eq hn]
  exact hint.mul hone (by rwa [mul_one]) hroom

end ChatGateway.Binary64
