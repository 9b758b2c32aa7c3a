import ChatGateway.Proofs.Binary64.Magnitude

/-!
# What doubles count

A finite double counts a rational number (`Binary64.value`), and finite doubles are ordered by what
they count (`Binary64.le_iff_value`). Numbers with a full mantissa keep their sign, mantissa and
exponent when they are packed (`Binary64.Normal.unpack_pack`), so that what is computed can be read
off what is packed.
-/

namespace ChatGateway.Binary64

open Float.Model Float.Model.UnpackedFloat

/-- A size with its sign. -/
def signed : Sign → ℚ → ℚ
  | .negative, q => -q
  | .positive, q => q

/-- What a number counts that is taken apart. The infinities and NaN count nothing. -/
def unpackedValue : UnpackedFloat → ℚ
  | .finite sign mantissa exponent _ => signed sign (mantissa * 2 ^ exponent)
  | _ => 0

/-- What a double counts. -/
def value (x : Float) : ℚ := unpackedValue x.toModel.unpack

variable {u v : UnpackedFloat} {x y : Float} {q : ℚ} {sign : Sign}

@[simp] theorem signed_zero (sign : Sign) : signed sign 0 = 0 := by cases sign <;> simp [signed]

@[simp] theorem unpackedValue_zero (sign : Sign) : unpackedValue (.zero sign) = 0 := rfl

@[simp] theorem unpackedValue_positive (m : ℕ) (e : ℤ) (hm : 0 < m) :
    unpackedValue (.finite .positive m e hm) = m * 2 ^ e := rfl

@[simp] theorem unpackedValue_negative (m : ℕ) (e : ℤ) (hm : 0 < m) :
    unpackedValue (.finite .negative m e hm) = -(m * 2 ^ e) := rfl

/-! ## The order -/

/-- What is further to the left counts less. -/
theorem unpackedValue_lt (hu : Full u) (hv : Full v) (hu' : u.isFinite = true)
    (hv' : v.isFinite = true) (h : unpackedPlace u < unpackedPlace v) :
    unpackedValue u < unpackedValue v := by
  have hpos {m : ℕ} {e : ℤ} (hm : 0 < m) : (0 : ℚ) < m * 2 ^ e := by positivity
  cases u with
  | infinity => cases hu'
  | notANumber => cases hu'
  | zero =>
    cases v with
    | infinity => cases hv'
    | notANumber => cases hv'
    | zero => simp [unpackedPlace] at h
    | finite t n f hn =>
      cases t with
      | negative => simp [unpackedPlace, Prod.Lex.toLex_lt_toLex] at h
      | positive => simpa using hpos hn
  | finite s m e hm =>
    cases v with
    | infinity => cases hv'
    | notANumber => cases hv'
    | zero =>
      cases s with
      | negative => simpa using hpos hm
      | positive => simp [unpackedPlace, Prod.Lex.toLex_lt_toLex] at h
    | finite t n f hn =>
      cases s <;> cases t <;> simp [unpackedPlace, Prod.Lex.toLex_lt_toLex] at h
      case negative.negative =>
        rw [unpackedValue_negative, unpackedValue_negative, neg_lt_neg_iff]
        exact size_lt_size hv.1 hv.2.1 hu.2.2 (by omega)
      case negative.positive =>
        rw [unpackedValue_negative, unpackedValue_positive]
        linarith [hpos hm (e := e), hpos hn (e := f)]
      case positive.positive =>
        rw [unpackedValue_positive, unpackedValue_positive]
        exact size_lt_size hu.1 hu.2.1 hv.2.2 h

theorem unpackedValue_eq (hu : u.isFinite = true) (hv : v.isFinite = true)
    (h : unpackedPlace u = unpackedPlace v) : unpackedValue u = unpackedValue v := by
  rcases u with _ | _ | _ | ⟨_ | _, m, e, hm⟩ <;> rcases v with _ | _ | _ | ⟨_ | _, n, f, hn⟩ <;>
    simp_all [unpackedPlace, UnpackedFloat.isFinite]

/-- **Finite doubles are ordered by what they count.** -/
theorem le_iff_value (hx : x.isFinite = true) (hy : y.isFinite = true) :
    x ≤ y ↔ value x ≤ value y := by
  rw [le_iff]
  constructor
  · rintro ⟨-, -, h⟩
    rcases h.lt_or_eq with hlt | heq
    · exact (unpackedValue_lt (full_double x) (full_double y) hx hy hlt).le
    · exact (unpackedValue_eq hx hy heq).le
  · intro h
    refine ⟨isNaN_eq_false hx, isNaN_eq_false hy, not_lt.1 fun hlt => ?_⟩
    exact (unpackedValue_lt (full_double y) (full_double x) hy hx hlt).not_ge h

/-! ## Full mantissas -/

/-- The number is `± q`, with a full mantissa and an exponent that can be packed. -/
def Normal (sign : Sign) (q : ℚ) (u : UnpackedFloat) : Prop :=
  ∃ m e hm, u = .finite sign m e hm ∧ (2 ^ 52 ≤ m ∧ m < 2 ^ 53) ∧ (-1074 ≤ e ∧ e ≤ 971) ∧
    (m : ℚ) * 2 ^ e = q

theorem log2_of_full {m : ℕ} (hlow : 2 ^ 52 ≤ m) (hhigh : m < 2 ^ 53) : m.log2 = 52 :=
  (Nat.log2_eq_iff (by omega)).2 ⟨hlow, hhigh⟩

/-- **A full mantissa can be packed** and is found again. -/
theorem Normal.unpack_pack (h : Normal sign q u) :
    UnpackedFloat.unpack .binary64 (UnpackedFloat.pack .binary64 u) = u := by
  obtain ⟨m, e, hm, rfl, ⟨hlow, hhigh⟩, ⟨hlast, hroom⟩, -⟩ := h
  have hbiased : (e + Format.binary64.exponentBias +
      Format.binary64.mantissaBitsWithoutImplicit).toNat = (e + 1075).toNat := by
    change (e + 1023 + 52).toNat = (e + 1075).toNat
    omega
  have hfits : ¬2 ^ Format.binary64.exponentBits ≤ (e + 1075).toNat + 1 := by
    change ¬2048 ≤ _
    omega
  have hdigits : m.log2 + 1 = Format.binary64.mantissaBits := by
    rw [log2_of_full hlow hhigh]
    rfl
  obtain ⟨hm', h⟩ := unpack_components_normal sign hdigits (show 0 < (e + 1075).toNat by omega)
    (by omega)
  simp only [UnpackedFloat.pack, hbiased]
  rw [if_neg hfits, if_pos hdigits]
  refine h.trans ?_
  congr 1
  omega

theorem Normal.neg (h : Normal sign q u) : Normal (-sign) q u.neg := by
  obtain ⟨m, e, hm, rfl, hfull, hroom, hq⟩ := h
  exact ⟨m, e, hm, rfl, hfull, hroom, hq⟩

theorem Normal.unpackedValue_eq (h : Normal sign q u) : unpackedValue u = signed sign q := by
  obtain ⟨m, e, hm, rfl, -, -, rfl⟩ := h
  rfl

/-- The double counts `± q`, with a full mantissa unless it is a zero. -/
def Counts (sign : Sign) (q : ℚ) (x : Float) : Prop :=
  x.toModel.unpack = .zero sign ∧ q = 0 ∨ Normal sign q x.toModel.unpack

namespace Counts

theorem of_pack (h : Normal sign q u) : Counts sign q (.ofModel (.pack u)) := by
  right
  change Normal sign q (UnpackedFloat.unpack .binary64 (UnpackedFloat.pack .binary64 u))
  rwa [h.unpack_pack]

theorem isFinite (h : Counts sign q x) : x.isFinite = true := by
  change x.toModel.unpack.isFinite = true
  obtain ⟨hzero, -⟩ | ⟨m, e, hm, heq, -⟩ := h
  · rw [hzero]
    rfl
  · rw [heq]
    rfl

theorem value_eq (h : Counts sign q x) : value x = signed sign q := by
  obtain ⟨hzero, rfl⟩ | hnormal := h
  · rw [value, hzero]
    simp
  · exact hnormal.unpackedValue_eq

theorem neg (h : Counts sign q x) : Counts (-sign) q (-x) := by
  obtain ⟨hzero, hq⟩ | hnormal := h
  · left
    refine ⟨?_, hq⟩
    change UnpackedFloat.unpack .binary64
      (UnpackedFloat.pack .binary64 x.toModel.unpack.neg) = .zero (-sign)
    rw [hzero]
    cases sign <;> rfl
  · exact of_pack hnormal.neg

end Counts

end ChatGateway.Binary64
