import Mathlib
import ChatGateway.Binary64

/-!
# The order of doubles

Every double but NaN has a place on the line (`Binary64.place`), and one double is below another
exactly if both have a place and that of the first is to the left (`Binary64.lt_iff`). So `<` is
transitive, and on the doubles other than NaN it is a strict weak order (`Binary64.not_lt_trans`).
The same places decide `≤` (`Binary64.le_iff`).
-/

namespace ChatGateway.Binary64

open Float.Model Float.Model.UnpackedFloat

/-- A place on the line. The first component tells the infinities, the two signs and zero apart;
numbers of one sign are ordered by exponent and then by mantissa. -/
abbrev Place := ℤ ×ₗ ℤ ×ₗ ℤ

/-- The place of a number that is taken apart. NaN is given that of zero. -/
def unpackedPlace : UnpackedFloat → Place
  | .infinity .negative => toLex (-2, toLex (0, 0))
  | .finite .negative mantissa exponent _ => toLex (-1, toLex (-exponent, -mantissa))
  | .zero _ | .notANumber => toLex (0, toLex (0, 0))
  | .finite .positive mantissa exponent _ => toLex (1, toLex (exponent, mantissa))
  | .infinity .positive => toLex (2, toLex (0, 0))

/-- The place of a double. -/
def place (x : Float) : Place := unpackedPlace x.toModel.unpack

theorem magnitude_lt_iff {m n : ℕ} {e f : ℤ} :
    (compare e f).then (compare m n) = .lt ↔ e < f ∨ e = f ∧ m < n := by
  rw [Ordering.then_eq_lt, compare_lt_iff_lt, compare_eq_iff_eq, compare_lt_iff_lt]

theorem magnitude_gt_iff {m n : ℕ} {e f : ℤ} :
    (compare e f).then (compare m n) = .gt ↔ f < e ∨ e = f ∧ n < m := by
  rw [Ordering.then_eq_gt, compare_gt_iff_gt, compare_eq_iff_eq, compare_gt_iff_gt]

theorem magnitude_isLE_iff {m n : ℕ} {e f : ℤ} :
    ((compare e f).then (compare m n)).isLE = true ↔ e < f ∨ e = f ∧ m ≤ n := by
  rw [Ordering.isLE_iff_ne_gt, magnitude_gt_iff]
  omega

theorem magnitude_isGE_iff {m n : ℕ} {e f : ℤ} :
    ((compare e f).then (compare m n)).isGE = true ↔ f < e ∨ e = f ∧ n ≤ m := by
  rw [Ordering.isGE_iff_ne_lt, magnitude_lt_iff]
  omega

theorem unpacked_lt_iff (u v : UnpackedFloat) :
    u.lt v = true ↔ u.isNaN = false ∧ v.isNaN = false ∧ unpackedPlace u < unpackedPlace v := by
  have hsigns : compare Sign.negative Sign.positive = .lt := rfl
  rcases u with ⟨_ | _⟩ | _ | _ | ⟨_ | _, m, e, hm⟩ <;>
    rcases v with ⟨_ | _⟩ | _ | _ | ⟨_ | _, n, f, hn⟩ <;>
      simp [UnpackedFloat.lt, UnpackedFloat.compare, UnpackedFloat.isNaN, unpackedPlace,
        Prod.Lex.toLex_lt_toLex, hsigns, magnitude_lt_iff, magnitude_gt_iff]

theorem unpacked_le_iff (u v : UnpackedFloat) :
    u.le v = true ↔ u.isNaN = false ∧ v.isNaN = false ∧ unpackedPlace u ≤ unpackedPlace v := by
  have hsame (s : Sign) : compare s s = .eq := by cases s <;> rfl
  have hless : compare Sign.negative Sign.positive = .lt := rfl
  have hgreater : compare Sign.positive Sign.negative = .gt := rfl
  rcases u with ⟨_ | _⟩ | _ | _ | ⟨_ | _, m, e, hm⟩ <;>
    rcases v with ⟨_ | _⟩ | _ | _ | ⟨_ | _, n, f, hn⟩ <;>
      simp [UnpackedFloat.le, UnpackedFloat.compare, UnpackedFloat.isNaN, unpackedPlace,
        Prod.Lex.toLex_le_toLex, hsame, hless, hgreater, magnitude_isLE_iff, magnitude_isGE_iff]

/-- One double is below another if both are numbers and the first is to the left. -/
theorem lt_iff {x y : Float} :
    x < y ↔ x.isNaN = false ∧ y.isNaN = false ∧ place x < place y := by
  have hlt : x < y ↔ x.toModel.unpack.lt y.toModel.unpack = true := by
    change decide (x.toModel < y.toModel) = true ↔ _
    exact decide_eq_true_iff
  rw [hlt]
  exact unpacked_lt_iff x.toModel.unpack y.toModel.unpack

/-- One double is at most another if both are numbers and the first is not to the right. -/
theorem le_iff {x y : Float} :
    x ≤ y ↔ x.isNaN = false ∧ y.isNaN = false ∧ place x ≤ place y := by
  have hle : x ≤ y ↔ x.toModel.unpack.le y.toModel.unpack = true := by
    exact decide_eq_true_iff
  rw [hle]
  exact unpacked_le_iff x.toModel.unpack y.toModel.unpack

variable {x y z : Float}

theorem lt_trans (hxy : x < y) (hyz : y < z) : x < z := by
  rw [lt_iff] at hxy hyz ⊢
  exact ⟨hxy.1, hyz.2.1, hxy.2.2.trans hyz.2.2⟩

theorem not_lt_of_lt (h : x < y) : ¬y < x := by
  rw [lt_iff] at h ⊢
  exact fun h' => h.2.2.not_gt h'.2.2

/-- Not being below passes through a double that is a number. -/
theorem not_lt_trans (hy : y.isNaN = false) (hxy : ¬x < y) (hyz : ¬y < z) : ¬x < z := by
  rw [lt_iff] at hxy hyz ⊢
  rintro ⟨hx, hz, h⟩
  have hyx : place y ≤ place x := not_lt.1 fun hlt => hxy ⟨hx, hy, hlt⟩
  have hzy : place z ≤ place y := not_lt.1 fun hlt => hyz ⟨hy, hz, hlt⟩
  exact (hzy.trans hyx).not_gt h

/-- Nothing is below NaN. -/
theorem not_lt_of_isNaN (hy : y.isNaN = true) : ¬x < y := by
  rw [lt_iff, hy]
  simp

/-- What is finite is a number. -/
theorem isNaN_eq_false (hx : x.isFinite = true) : x.isNaN = false := by
  change x.toModel.unpack.isNaN = false
  change x.toModel.unpack.isFinite = true at hx
  cases hu : x.toModel.unpack <;> simp_all [UnpackedFloat.isNaN, UnpackedFloat.isFinite]

/-- Of two numbers one is below the other, or at least as large. -/
theorem not_lt_iff_le (hx : x.isNaN = false) (hy : y.isNaN = false) : ¬x < y ↔ y ≤ x := by
  rw [lt_iff, le_iff, hx, hy]
  simp

end ChatGateway.Binary64
