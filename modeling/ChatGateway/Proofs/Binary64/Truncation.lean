import ChatGateway.Proofs.Binary64.Nearest

/-!
# Doubles without their fraction

The parts of a finite double are what it counts (`Binary64.exists_parts`). So cutting it gives the
double that counts its whole part (`Binary64.value_truncate`), and that is never rounded: the whole
part of a double is a double.
-/

namespace ChatGateway.Binary64

open Float.Model Float.Model.UnpackedFloat

/-! ## Parts -/

/-- The sign of a double that is taken apart. -/
def Parts.sign (p : Parts) : Sign := if p.negative then .negative else .positive

/-- What the parts count without the sign. -/
def Parts.size (p : Parts) : ℚ := p.significand * 2 ^ p.scale

section Fields

variable (bits : BitVec Format.binary64.numBits)

theorem toNat_unpackExponent :
    (unpackExponent bits).toNat = bits.toNat / 0x10000000000000 % 0x800 := by
  simp only [unpackExponent, BitVec.toNat_cast, BitVec.extractLsb_toNat, Nat.shiftRight_eq_div_pow]

theorem toNat_unpackMantissa : (unpackMantissa bits).toNat = bits.toNat % 0x10000000000000 := by
  simp only [unpackMantissa, BitVec.toNat_cast, BitVec.extractLsb_toNat, Nat.shiftRight_zero]

theorem ofBitVec_unpackSign :
    Sign.ofBitVec (unpackSign bits) =
      if bits.toNat / 0x8000000000000000 = 1 then .negative else .positive := by
  have hbits : bits.toNat < 2 ^ 64 := bits.isLt
  have hsign : (unpackSign bits).toNat = bits.toNat / 0x8000000000000000 := by
    simp only [unpackSign, BitVec.toNat_cast, BitVec.extractLsb_toNat, Nat.shiftRight_eq_div_pow]
    change bits.toNat / 0x8000000000000000 % 2 = _
    omega
  rw [← hsign]
  rcases BitVec.eq_zero_or_eq_one (unpackSign bits) with h | h <;> rw [h] <;> rfl

/-- The parts as the fields of a double give them. -/
def fieldParts : Option Parts :=
  let negative := decide (bits.toNat / 0x8000000000000000 = 1)
  let exponent := (unpackExponent bits).toNat
  let fraction := (unpackMantissa bits).toNat
  if exponent = 0x7FF then none
  else if exponent = 0 then some ⟨negative, fraction, -1074⟩
  else some ⟨negative, fraction + 0x10000000000000, (exponent : ℤ) - 1075⟩

theorem sign_fieldParts (m : ℕ) (e : ℤ) :
    Parts.sign ⟨decide (bits.toNat / 0x8000000000000000 = 1), m, e⟩ =
      Sign.ofBitVec (unpackSign bits) := by
  simp [Parts.sign, ofBitVec_unpackSign]

theorem exists_fieldParts (h : (UnpackedFloat.unpack .binary64 bits).isFinite = true) :
    ∃ p, fieldParts bits = some p ∧ p.significand < 2 ^ 53 ∧
      unpackedValue (UnpackedFloat.unpack .binary64 bits) = signed p.sign p.size := by
  have hfraction : (unpackMantissa bits).toNat < 2 ^ 52 := (unpackMantissa bits).isLt
  by_cases htop : unpackExponent bits = -1#_
  · simp only [UnpackedFloat.unpack, if_pos htop] at h
    split at h <;> cases h
  have htop' : (unpackExponent bits).toNat ≠ 0x7FF := fun heq => htop (BitVec.eq_of_toNat_eq heq)
  by_cases hlow : unpackExponent bits = 0#_
  · refine ⟨⟨decide (bits.toNat / 0x8000000000000000 = 1), (unpackMantissa bits).toNat, -1074⟩,
      ?_, hfraction.trans (by decide), ?_⟩
    · simp only [fieldParts, if_neg htop']
      exact if_pos (congrArg BitVec.toNat hlow)
    · rw [sign_fieldParts, Parts.size]
      obtain ⟨hzero, hunpack⟩ | ⟨hm, hunpack⟩ := unpack_subnormal bits hlow
      · simp [hunpack, hzero]
      · rw [hunpack]
        rfl
  · have hlow' : (unpackExponent bits).toNat ≠ 0 := fun heq => hlow (BitVec.eq_of_toNat_eq heq)
    refine ⟨⟨decide (bits.toNat / 0x8000000000000000 = 1),
      (unpackMantissa bits).toNat + 0x10000000000000, (unpackExponent bits).toNat - 1075⟩, ?_,
      Nat.add_lt_add_right hfraction _, ?_⟩
    · simp only [fieldParts, if_neg htop', if_neg hlow']
    · rw [sign_fieldParts, Parts.size, Nat.add_comm]
      obtain ⟨hm, hunpack⟩ := unpack_normal bits hlow htop
      rw [hunpack]
      rfl

end Fields

variable {x : Float} {p : Parts} {n : ℕ} {q : ℚ}

/-- **A finite double counts what its parts do.** -/
theorem exists_parts (hx : x.isFinite = true) :
    ∃ p, parts x = some p ∧ p.significand < 2 ^ 53 ∧
      value x = signed p.sign p.size := by
  have hparts : parts x = fieldParts x.toModel.toBits.toBitVec := by
    simp only [fieldParts, toNat_unpackExponent, toNat_unpackMantissa]
    rfl
  rw [hparts]
  exact exists_fieldParts x.toModel.toBits.toBitVec hx

/-! ## Cutting -/

/-- A number without its fraction. -/
def wholePart (q : ℚ) : ℤ := if 0 ≤ q then ⌊q⌋ else ⌈q⌉

theorem wholePart_of_nonneg (h : 0 ≤ q) : wholePart q = ⌊q⌋ := if_pos h

theorem wholePart_of_neg (h : q < 0) : wholePart q = ⌈q⌉ := if_neg h.not_ge

@[simp] theorem wholePart_intCast (n : ℤ) : wholePart n = n := by
  unfold wholePart
  split <;> simp

theorem wholePart_signed (sign : Sign) (h : 0 ≤ q) :
    (wholePart (signed sign q) : ℚ) = signed sign (⌊q⌋₊ : ℕ) := by
  have hfloor : ((⌊q⌋₊ : ℕ) : ℤ) = ⌊q⌋ := Int.natCast_floor_eq_floor h
  have hfloor' : ((⌊q⌋₊ : ℕ) : ℚ) = (⌊q⌋ : ℤ) := by exact_mod_cast hfloor
  cases sign with
  | positive =>
    change ((wholePart q : ℤ) : ℚ) = ((⌊q⌋₊ : ℕ) : ℚ)
    rw [wholePart_of_nonneg h, hfloor']
  | negative =>
    change ((wholePart (-q) : ℤ) : ℚ) = -((⌊q⌋₊ : ℕ) : ℚ)
    rcases h.eq_or_lt with rfl | hpos
    · simp [wholePart]
    · rw [wholePart_of_neg (by linarith), Int.ceil_neg, hfloor']
      push_cast
      rfl

theorem counts_ofSignedNat (negative : Bool) (hn : n < 2 ^ 200) :
    Counts (if negative then .negative else .positive) (nearest n) (ofSignedNat negative n) := by
  cases negative with
  | false => exact counts_ofNat hn
  | true => exact (counts_ofNat hn).neg

theorem Parts.floor_size_of_neg (h : p.scale < 0) :
    ⌊p.size⌋₊ = p.significand / Nat.pow 2 (-p.scale).toNat := by
  have hsize : p.size = p.significand / (2 ^ (-p.scale).toNat : ℕ) := by
    obtain ⟨k, hk⟩ := Int.eq_ofNat_of_zero_le (show 0 ≤ -p.scale by omega)
    rw [size, hk, show p.scale = -(k : ℤ) by omega, zpow_neg, zpow_natCast, div_eq_mul_inv]
    simp
  rw [hsize]
  exact Nat.floor_div_eq_div _ _

theorem Parts.size_of_nonneg (h : ¬p.scale < 0) :
    p.size = (p.significand * 2 ^ p.scale.toNat : ℕ) := by
  obtain ⟨k, hk⟩ := Int.eq_ofNat_of_zero_le (not_lt.1 h)
  rw [size, hk, zpow_natCast]
  simp

/-- Cutting a double keeps the sign, and what is left counts as a double what it counts. -/
theorem truncate_spec (hx : x.isFinite = true) :
    ∃ sign q, 0 ≤ q ∧ value x = signed sign q ∧ (truncate x).isFinite = true ∧
      value (truncate x) = signed sign (⌊q⌋₊ : ℕ) ∧ nearest ⌊q⌋₊ = ⌊q⌋₊ := by
  obtain ⟨p, hparts, hfew, hvalue⟩ := exists_parts hx
  have hsize : 0 ≤ p.size := mul_nonneg (Nat.cast_nonneg _) (by positivity)
  refine ⟨p.sign, p.size, hsize, hvalue, ?_⟩
  by_cases hscale : p.scale < 0
  · -- what is left has no more digits than before
    have hfew' : ⌊p.size⌋₊ < 2 ^ 53 := by
      rw [Parts.floor_size_of_neg hscale]
      exact (Nat.div_le_self _ _).trans_lt hfew
    have hkept := nearest_of_le hfew'.le
    have hcut : truncate x = ofSignedNat p.negative ⌊p.size⌋₊ := by
      simp only [truncate, hparts]
      rw [if_pos hscale, Parts.floor_size_of_neg hscale]
    have hcounts := counts_ofSignedNat p.negative (hfew'.trans (by decide))
    rw [hkept, ← hcut] at hcounts
    exact ⟨hcounts.isFinite, hcounts.value_eq, hkept⟩
  · have hwhole : truncate x = x := by
      simp only [truncate, hparts]
      rw [if_neg hscale]
    have hfloor : ⌊p.size⌋₊ = p.significand * 2 ^ p.scale.toNat := by
      rw [Parts.size_of_nonneg hscale, Nat.floor_natCast]
    rw [hwhole, hfloor, hvalue, nearest_mul_two_pow, nearest_of_le hfew.le,
      Parts.size_of_nonneg hscale]
    exact ⟨hx, rfl, rfl⟩

theorem isFinite_truncate (hx : x.isFinite = true) : (truncate x).isFinite = true := by
  obtain ⟨sign, q, -, -, hfinite, -⟩ := truncate_spec hx
  exact hfinite

/-- **Cutting is exact.** -/
theorem value_truncate (hx : x.isFinite = true) : value (truncate x) = wholePart (value x) := by
  obtain ⟨sign, q, hq, hvalue, -, hcut, -⟩ := truncate_spec hx
  rw [hcut, hvalue, wholePart_signed sign hq]

/-- The whole part of a double is a double. -/
theorem nearest_floor_value (hx : x.isFinite = true) (h : 0 ≤ value x) :
    nearest ⌊value x⌋₊ = ⌊value x⌋₊ := by
  obtain ⟨sign, q, hq, hvalue, -, -, hkept⟩ := truncate_spec hx
  have hsize : value x = q := by
    cases sign with
    | positive => exact hvalue
    | negative =>
      change value x = -q at hvalue
      linarith
  rw [hsize, hkept]

end ChatGateway.Binary64
