import VisualNovel.Proofs.Binary64.Packing
import VisualNovel.Proofs.Binary64.Representation

namespace VisualNovel.Binary64

open Float.Model Float.Model.UnpackedFloat

theorem denotes_round (sign : Sign) {m : ℕ} (hm : 0 < m) (e : ℤ) :
    Denotes (UnpackedFloat.round .binary64 sign m e) (signed sign (nearest (m * 2 ^ e))) := by
  have htarget : Format.binary64.targetExponent (totalExponent m e) = ulpExponent (m * 2 ^ e) := by
    rw [targetExponent_binary64, totalExponent, ulpExponent,
      log_mul_two_zpow hm le_rfl (lt_add_one _)]
    omega
  simp only [UnpackedFloat.round, decreaseExponent, htarget]
  generalize hshift : (e - ulpExponent (m * 2 ^ e)).toNat = n
  have hvalue : ((m <<< n : ℕ) : ℚ) * 2 ^ (e - n) = m * 2 ^ e := by
    rw [Nat.shiftLeft_eq, Nat.cast_mul, Nat.cast_pow, Nat.cast_ofNat, mul_assoc, ← zpow_natCast,
      ← zpow_add₀ two_ne_zero, add_sub_cancel]
  have hpos : (0 : ℚ) < (m <<< n : ℕ) := by
    rw [Nat.shiftLeft_eq]
    positivity
  have hround := denotes_roundWithAccuracy sign (represents_exact (m <<< n)) (e := e - n) hpos (by
    rw [hvalue]
    omega)
  rwa [hvalue] at hround

theorem denotes_ofNat (n : ℕ) : Denotes (UnpackedFloat.ofNat .binary64 n) (nearest n) := by
  rcases Nat.eq_zero_or_pos n with rfl | hn
  · rw [Nat.cast_zero, nearest_zero]
    exact .zero .positive
  · have hround := denotes_round .positive hn 0
    rw [zpow_zero, mul_one] at hround
    have hcompare : compare (n : ℤ) 0 = .gt := compare_gt_iff_gt.mpr (by omega)
    rw [UnpackedFloat.ofNat, UnpackedFloat.ofInt, UnpackedFloat.normalize, hcompare]
    exact hround

theorem nearest_toNat_le (n : UInt64) : nearest n.toNat ≤ 2 ^ (64 : ℤ) := by
  refine nearest_le_two_zpow (Nat.cast_nonneg _) (by decide) ?_
  exact_mod_cast n.toNat_lt.le

theorem hasValue_ofUInt64 (n : UInt64) : HasValue n.toFloat (nearest n.toNat) := by
  refine hasValue_pack (denotes_ofNat n.toNat) ?_
  rw [abs_of_nonneg (nearest_nonneg (Nat.cast_nonneg _))]
  exact (nearest_toNat_le n).trans_lt (zpow_lt_zpow_right₀ one_lt_two (by decide))

theorem hasValue_toFloat {n : ℕ} (hn : n < 2 ^ 53) : HasValue n.toUInt64.toFloat n := by
  have hsize : n < UInt64.size := hn.trans (by decide)
  have hvalue := hasValue_ofUInt64 n.toUInt64
  rwa [Nat.toUInt64, UInt64.toNat_ofNat_of_lt' hsize, nearest_natCast hn.le] at hvalue

theorem targetExponent_le_ulpExponent_div {m n : ℕ} (hm : 0 < m) (hn : 0 < n) (j k : ℤ) :
    Format.binary64.targetExponent (totalExponent m j - totalExponent n k) ≤
      ulpExponent (m * 2 ^ j / (n * 2 ^ k)) := by
  have hx := magnitude_pos hm j
  have hy := magnitude_pos hn k
  have hlogx := log_mul_two_zpow hm le_rfl (lt_add_one _) j
  have hlogy := log_mul_two_zpow hn le_rfl (lt_add_one _) k
  have hlog : (m.log2 + j) - (n.log2 + k + 1) ≤ Int.log 2 ((m : ℚ) * 2 ^ j / (n * 2 ^ k)) := by
    rw [← hlogx, ← hlogy, ← Int.zpow_le_iff_le_log one_lt_two (div_pos hx hy), Nat.cast_ofNat,
      zpow_sub₀ two_ne_zero]
    refine div_le_div₀ hx.le ?_ hy ?_
    · exact Int.zpow_log_le_self one_lt_two hx
    · exact (Int.lt_zpow_succ_log_self one_lt_two _).le
  rw [targetExponent_binary64, totalExponent, totalExponent, ulpExponent]
  omega

theorem denotes_div_finite (s t : Sign) {m n : ℕ} (hm : 0 < m) (hn : 0 < n) (j k : ℤ) :
    Denotes (UnpackedFloat.div .binary64 (.finite s m j hm) (.finite t n k hn))
      (signed (s / t) (nearest (m * 2 ^ j / (n * 2 ^ k)))) := by
  simp only [UnpackedFloat.div, divCore]
  generalize htarget : min (j - k)
    (Format.binary64.targetExponent (totalExponent m j - totalExponent n k)) = target
  have hshift : ((j - k - target).toNat : ℤ) = j - k - target := by omega
  generalize (j - k - target).toNat = shift at hshift ⊢
  have hquotient : ((m <<< shift / n : ℕ) + (m <<< shift % n : ℕ) / n : ℚ) * 2 ^ target =
      m * 2 ^ j / (n * 2 ^ k) := by
    have hnq : (n : ℚ) ≠ 0 := by exact_mod_cast hn.ne'
    have hdivision : ((m <<< shift / n : ℕ) + (m <<< shift % n : ℕ) / n : ℚ) =
        m * 2 ^ shift / n := by
      have hsplit : m <<< shift / n * n + m <<< shift % n = m * 2 ^ shift := by
        rw [Nat.div_add_mod', Nat.shiftLeft_eq]
      rw [eq_div_iff hnq, add_mul, div_mul_cancel₀ _ hnq]
      exact_mod_cast hsplit
    have hj : j = shift + target + k := by omega
    rw [hdivision, hj, zpow_add₀ two_ne_zero, zpow_add₀ two_ne_zero, zpow_natCast]
    field_simp
  have hpos := div_pos (magnitude_pos hm j) (magnitude_pos hn k)
  have hcut := targetExponent_le_ulpExponent_div hm hn j k
  rw [← hquotient] at hpos hcut ⊢
  refine denotes_roundWithAccuracy (s / t)
    (represents_fraction (m <<< shift / n) (Nat.mod_lt (m <<< shift) hn)) ?_ (by omega)
  exact (mul_pos_iff_of_pos_right (two_zpow_pos target)).mp hpos

theorem denotes_div {a b : UnpackedFloat} {v w : ℚ} (ha : Denotes a v) (hb : Denotes b w)
    (hv : 0 ≤ v) (hw : 0 < w) : Denotes (UnpackedFloat.div .binary64 a b) (nearest (v / w)) := by
  cases hb with
  | zero t => exact absurd hw (lt_irrefl 0)
  | @finite t n k hn _ =>
      have hy := magnitude_pos hn k
      cases t with
      | negative => exact absurd hw (neg_neg_of_pos hy).not_gt
      | positive =>
          cases ha with
          | zero s =>
              rw [zero_div, nearest_zero]
              exact .zero _
          | @finite s m j hm _ =>
              have hx := magnitude_pos hm j
              cases s with
              | negative => exact absurd hv (neg_neg_of_pos hx).not_ge
              | positive => exact denotes_div_finite .positive .positive hm hn j k

theorem HasValue.div {x y : Float} {v w : ℚ} (hx : HasValue x v) (hy : HasValue y w) (hv : 0 ≤ v)
    (hw : 0 < w) (hrange : v / w ≤ 2 ^ (1023 : ℤ)) : HasValue (x / y) (nearest (v / w)) := by
  have hquotient : 0 ≤ v / w := div_nonneg hv hw.le
  refine hasValue_pack (denotes_div hx hy hv hw) ?_
  rw [abs_of_nonneg (nearest_nonneg hquotient)]
  exact (nearest_le_two_zpow hquotient (by decide) hrange).trans_lt
    (zpow_lt_zpow_right₀ one_lt_two (by decide))

end VisualNovel.Binary64
