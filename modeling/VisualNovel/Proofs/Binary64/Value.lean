import Mathlib

/-!
The rational numbers that floating point numbers stand for, and that these compare as what they
stand for.
-/

namespace VisualNovel.Binary64

open Float.Model Float.Model.UnpackedFloat

/-- Mantissa and exponent as the packed format has them: all 53 digits are in use, unless the
exponent is the smallest one. -/
structure Canonical (mantissa : ℕ) (exponent : ℤ) : Prop where
  mantissa_lt : mantissa < 2 ^ 53
  le_exponent : -1074 ≤ exponent
  full : 2 ^ 52 ≤ mantissa ∨ exponent = -1074

def signed : Sign → ℚ → ℚ
  | .negative, x => -x
  | .positive, x => x

/-- The number that a finite unpacked float in the canonical form stands for. -/
inductive Denotes : UnpackedFloat → ℚ → Prop
  | zero (sign : Sign) : Denotes (.zero sign) 0
  | finite (sign : Sign) {mantissa : ℕ} {exponent : ℤ} (hpos : 0 < mantissa)
      (hcanonical : Canonical mantissa exponent) :
      Denotes (.finite sign mantissa exponent hpos) (signed sign (mantissa * 2 ^ exponent))

section Order

variable {m n : ℕ} {j k : ℤ}

theorem Canonical.lt_of_exponent_lt (hm : Canonical m j) (hn : Canonical n k) (h : j < k) :
    (m : ℚ) * 2 ^ j < n * 2 ^ k := by
  have hlt : (m : ℚ) < 2 ^ (53 : ℤ) := by exact_mod_cast hm.mantissa_lt
  have hfull : (2 : ℚ) ^ (52 : ℤ) ≤ n := by
    have := hm.le_exponent
    exact_mod_cast hn.full.resolve_right (by omega)
  have hj : (0 : ℚ) < 2 ^ j := zpow_pos two_pos j
  have hk : (0 : ℚ) < 2 ^ k := zpow_pos two_pos k
  calc (m : ℚ) * 2 ^ j < 2 ^ (53 : ℤ) * 2 ^ j := mul_lt_mul_of_pos_right hlt hj
    _ = 2 ^ (53 + j) := (zpow_add₀ two_ne_zero 53 j).symm
    _ ≤ 2 ^ (52 + k) := zpow_le_zpow_right₀ one_le_two (by omega)
    _ = 2 ^ (52 : ℤ) * 2 ^ k := zpow_add₀ two_ne_zero 52 k
    _ ≤ n * 2 ^ k := mul_le_mul_of_nonneg_right hfull hk.le

theorem Canonical.compare_eq (hm : Canonical m j) (hn : Canonical n k) :
    (compare j k).then (compare m n) = compare ((m : ℚ) * 2 ^ j) (n * 2 ^ k) := by
  rcases lt_trichotomy j k with h | rfl | h
  · rw [compare_lt_iff_lt.mpr h, compare_lt_iff_lt.mpr (hm.lt_of_exponent_lt hn h)]
    rfl
  · have hj : (0 : ℚ) < 2 ^ j := zpow_pos two_pos j
    rw [compare_eq_iff_eq.mpr rfl, Ordering.eq_then]
    rcases lt_trichotomy m n with h | rfl | h
    · rw [compare_lt_iff_lt.mpr h, eq_comm, compare_lt_iff_lt]
      exact mul_lt_mul_of_pos_right (by exact_mod_cast h) hj
    · rw [compare_eq_iff_eq.mpr rfl, compare_eq_iff_eq.mpr rfl]
    · rw [compare_gt_iff_gt.mpr h, eq_comm, compare_gt_iff_gt]
      exact mul_lt_mul_of_pos_right (by exact_mod_cast h) hj
  · rw [compare_gt_iff_gt.mpr h, compare_gt_iff_gt.mpr (hn.lt_of_exponent_lt hm h)]
    rfl

end Order

theorem compare_neg_neg (x y : ℚ) : compare (-x) (-y) = (compare x y).swap := by
  rcases lt_trichotomy x y with h | rfl | h
  · rw [compare_lt_iff_lt.mpr h, compare_gt_iff_gt.mpr (neg_lt_neg h)]
    rfl
  · rw [compare_eq_iff_eq.mpr rfl, compare_eq_iff_eq.mpr rfl]
    rfl
  · rw [compare_gt_iff_gt.mpr h, compare_lt_iff_lt.mpr (neg_lt_neg h)]
    rfl

theorem magnitude_pos {m : ℕ} (hm : 0 < m) (k : ℤ) : (0 : ℚ) < m * 2 ^ k :=
  mul_pos (by exact_mod_cast hm) (zpow_pos two_pos k)

theorem compare_of_denotes {a b : UnpackedFloat} {x y : ℚ} (ha : Denotes a x) (hb : Denotes b y) :
    a.compare b = some (compare x y) := by
  cases ha with
  | zero s =>
      cases hb with
      | zero s' => rfl
      | @finite s' n k hn _ =>
          have hy := magnitude_pos hn k
          cases s' with
          | negative => exact congrArg some (compare_gt_iff_gt.mpr (neg_lt_zero.mpr hy)).symm
          | positive => exact congrArg some (compare_lt_iff_lt.mpr hy).symm
  | @finite s m j hm hmj =>
      have hx := magnitude_pos hm j
      cases hb with
      | zero s' =>
          cases s with
          | negative => exact congrArg some (compare_lt_iff_lt.mpr (neg_lt_zero.mpr hx)).symm
          | positive => exact congrArg some (compare_gt_iff_gt.mpr hx).symm
      | @finite s' n k hn hnk =>
          have hy := magnitude_pos hn k
          have hsame := hmj.compare_eq hnk
          cases s with
          | negative =>
              cases s' with
              | negative =>
                  rw [signed, signed, compare_neg_neg, ← hsame]
                  rfl
              | positive =>
                  exact congrArg some (compare_lt_iff_lt.mpr ((neg_lt_zero.mpr hx).trans hy)).symm
          | positive =>
              cases s' with
              | negative =>
                  exact congrArg some (compare_gt_iff_gt.mpr ((neg_lt_zero.mpr hy).trans hx)).symm
              | positive => exact congrArg some hsame

/-- The number that a float stands for; none for an infinity and for what is not a number. -/
def HasValue (x : Float) (v : ℚ) : Prop :=
  Denotes x.toModel.unpack v

section HasValue

variable {x y : Float} {v w : ℚ}

theorem le_iff_compare :
    x ≤ y ↔ (x.toModel.unpack.compare y.toModel.unpack).any (·.isLE) = true :=
  decide_eq_true_iff

theorem lt_iff_compare : x < y ↔ (x.toModel.unpack.compare y.toModel.unpack == some .lt) = true :=
  decide_eq_true_iff

theorem HasValue.le_iff (hx : HasValue x v) (hy : HasValue y w) : x ≤ y ↔ v ≤ w := by
  rw [le_iff_compare, compare_of_denotes hx hy, Option.any_some, ← compare_le_iff_le, Ordering.isLE_iff_ne_gt]

theorem HasValue.lt_iff (hx : HasValue x v) (hy : HasValue y w) : x < y ↔ v < w := by
  rw [lt_iff_compare, compare_of_denotes hx hy, beq_iff_eq, Option.some.injEq, compare_lt_iff_lt]

end HasValue

end VisualNovel.Binary64
