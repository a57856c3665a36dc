import VisualNovel.Proofs.Binary64.Rounding
import VisualNovel.Proofs.Binary64.Value

namespace VisualNovel.Binary64

open Float.Model Float.Model.UnpackedFloat

/-- What the round and the sticky bit say about the number that was cut off. -/
def Represents : ExtendedMantissa → ℚ → Prop
  | ⟨m, false, false⟩, x => x = m
  | ⟨m, false, true⟩, x => m < x ∧ x < m + 1 / 2
  | ⟨m, true, false⟩, x => x = m + 1 / 2
  | ⟨m, true, true⟩, x => m + 1 / 2 < x ∧ x < m + 1

section Represents

variable {em : ExtendedMantissa} {x : ℚ}

theorem Represents.bounds (h : Represents em x) : (em.mantissa : ℚ) ≤ x ∧ x < em.mantissa + 1 := by
  obtain ⟨m, round, sticky⟩ := em
  cases round <;> cases sticky <;> simp only [Represents] at h ⊢ <;> constructor <;> linarith

theorem Represents.floor_eq (h : Represents em x) : ⌊x⌋ = (em.mantissa : ℤ) :=
  Int.floor_eq_iff.mpr (by exact_mod_cast h.bounds)

theorem Represents.roundedMantissa_eq (h : Represents em x) :
    (em.roundedMantissa : ℤ) = roundEven x := by
  have hfloor := h.floor_eq
  obtain ⟨m, round, sticky⟩ := em
  rw [roundEven, hfloor]
  simp only [Int.cast_natCast]
  cases round <;> cases sticky <;> simp only [Represents] at h
  · rw [if_pos (by linarith)]
    rfl
  · rw [if_pos (by linarith)]
    rfl
  · rw [if_neg (by linarith), if_neg (by linarith)]
    simp [ExtendedMantissa.roundedMantissa, ExtendedMantissa.accuracy, Accuracy.roundToNearestEven]
  · rw [if_neg (by linarith), if_pos (by linarith)]
    simp [ExtendedMantissa.roundedMantissa, ExtendedMantissa.accuracy, Accuracy.roundToNearestEven]

theorem Represents.shiftRightOne (h : Represents em x) : Represents em.shiftRightOne (x / 2) := by
  obtain ⟨m, round, sticky⟩ := em
  obtain ⟨k, bit, rfl⟩ : ∃ (k : ℕ) (bit : Bool), m = 2 * k + bit.toNat := by
    obtain ⟨k, rfl | rfl⟩ := Nat.even_or_odd' m
    · exact ⟨k, false, rfl⟩
    · exact ⟨k, true, rfl⟩
  have hhalf : (2 * k + bit.toNat) / 2 = k := by
    have hless := bit.toNat_lt
    omega
  have hbit : ((2 * k + bit.toNat) % 2 != 0) = bit := by cases bit <;> simp
  simp only [ExtendedMantissa.shiftRightOne, hhalf, hbit]
  -- The bit that falls off is the new round bit; the old bits only tell whether more follows it.
  cases bit <;> cases round <;> cases sticky <;>
    simp only [Represents, Bool.or_true, Bool.or_false, Bool.toNat_true, Bool.toNat_false]
      at h ⊢ <;>
    push_cast at h <;> (try constructor) <;> linarith

theorem Represents.shiftRight (h : Represents em x) (n : ℕ) :
    Represents (em >>> n) (x / 2 ^ n) := by
  induction n with
  | zero =>
      rw [pow_zero, div_one]
      exact h
  | succ n ih =>
      rw [pow_succ, ← div_div]
      exact ih.shiftRightOne

theorem represents_exact (m : ℕ) :
    Represents (ExtendedMantissa.ofMantissaAndAccuracy m .exact) m :=
  rfl

theorem represents_fraction (m : ℕ) {numerator denominator : ℕ} (h : numerator < denominator) :
    Represents
      (ExtendedMantissa.ofMantissaAndAccuracy m (accuracyOfFraction numerator denominator))
      (m + numerator / denominator) := by
  have hpos : (0 : ℚ) < denominator := by exact_mod_cast (Nat.zero_le _).trans_lt h
  have hone : (numerator / denominator : ℚ) < 1 := (div_lt_one hpos).mpr (by exact_mod_cast h)
  rcases Nat.eq_zero_or_pos numerator with rfl | hnumerator
  · simp [accuracyOfFraction, ExtendedMantissa.ofMantissaAndAccuracy, Represents]
  have hfraction : (0 : ℚ) < numerator / denominator := by positivity
  rw [accuracyOfFraction, if_neg hnumerator.ne']
  rcases lt_trichotomy (2 * numerator) denominator with hhalf | hhalf | hhalf
  · have hless : (numerator / denominator : ℚ) < 1 / 2 := by
      rw [div_lt_div_iff₀ hpos two_pos]
      exact_mod_cast (by omega : numerator * 2 < 1 * denominator)
    rw [compare_lt_iff_lt.mpr hhalf]
    exact ⟨by linarith, by linarith⟩
  · have hequal : (numerator / denominator : ℚ) = 1 / 2 := by
      rw [div_eq_div_iff hpos.ne' two_ne_zero]
      exact_mod_cast (by omega : numerator * 2 = 1 * denominator)
    rw [compare_eq_iff_eq.mpr hhalf]
    exact congrArg _ hequal
  · have hmore : (1 / 2 : ℚ) < numerator / denominator := by
      rw [div_lt_div_iff₀ two_pos hpos]
      exact_mod_cast (by omega : 1 * denominator < numerator * 2)
    rw [compare_gt_iff_gt.mpr hhalf]
    exact ⟨by linarith, by linarith⟩

end Represents

theorem targetExponent_binary64 (total : ℤ) :
    Format.binary64.targetExponent total = max (total - 53) (-1074) :=
  rfl

section Round

variable {m : ℕ} {e : ℤ} {accuracy : Accuracy} {q : ℚ}

theorem log_mul_two_zpow (hm : 0 < m) (hlow : (m : ℚ) ≤ q) (hhigh : q < m + 1) (e : ℤ) :
    Int.log 2 (q * 2 ^ e) = m.log2 + e := by
  have hmq : (0 : ℚ) < m := by exact_mod_cast hm
  have hpos : 0 < q * 2 ^ e := mul_pos (hmq.trans_le hlow) (two_zpow_pos e)
  apply le_antisymm
  · rw [← Int.lt_add_one_iff, ← Int.lt_zpow_iff_log_lt one_lt_two hpos, add_right_comm,
      Nat.cast_ofNat, zpow_add₀ two_ne_zero]
    refine mul_lt_mul_of_pos_right (hhigh.trans_le ?_) (two_zpow_pos e)
    exact_mod_cast Nat.lt_log2_self
  · rw [← Int.zpow_le_iff_le_log one_lt_two hpos, Nat.cast_ofNat, zpow_add₀ two_ne_zero]
    refine mul_le_mul_of_nonneg_right (le_trans ?_ hlow) (two_zpow_pos e).le
    exact_mod_cast Nat.log2_self_le hm.ne'

theorem targetExponent_eq (hlow : (m : ℚ) ≤ q) (hhigh : q < m + 1) (hq : 0 < q)
    (he : e ≤ ulpExponent (q * 2 ^ e)) :
    Format.binary64.targetExponent (totalExponent m e) = ulpExponent (q * 2 ^ e) := by
  rw [targetExponent_binary64, totalExponent]
  rcases Nat.eq_zero_or_pos m with rfl | hm
  · -- Nothing is left of a number below the smallest spacing.
    have hone : q * 2 ^ e < 2 ^ e := by
      have hless := mul_lt_mul_of_pos_right hhigh (two_zpow_pos e)
      simpa using hless
    have hlog : Int.log 2 (q * 2 ^ e) < e :=
      (Int.lt_zpow_iff_log_lt one_lt_two (mul_pos hq (two_zpow_pos e))).mp hone
    have hzero : Nat.log2 0 = 0 := rfl
    unfold ulpExponent at he ⊢
    omega
  · rw [ulpExponent, log_mul_two_zpow hm hlow hhigh]
    omega

theorem shiftToExponent_of_le {m : ℕ} {e target : ℤ} (h : e ≤ target) (accuracy : Accuracy) :
    shiftToExponent m e accuracy target =
      (ExtendedMantissa.ofMantissaAndAccuracy m accuracy >>> (target - e).toNat, target) := by
  simp only [shiftToExponent, Prod.mk.injEq, true_and]
  omega

theorem shift_of_lt {r : ℕ} {k : ℤ} (hr : r < 2 ^ 53) (hk : -1074 ≤ k) :
    shiftToTargetExponent .binary64 r k .exact = (⟨r, false, false⟩, k) := by
  have hlog : r.log2 < 53 := by
    rcases Nat.eq_zero_or_pos r with rfl | hpos
    · decide
    · exact (Nat.log2_lt hpos.ne').mpr hr
  have hshift : (Format.binary64.targetExponent (totalExponent r k) - k).toNat = 0 := by
    rw [targetExponent_binary64, totalExponent]
    omega
  simp only [shiftToTargetExponent, shiftToExponent, hshift, Nat.cast_zero, add_zero]
  rfl

theorem shift_of_carry {k : ℤ} (hk : -1074 ≤ k) :
    shiftToTargetExponent .binary64 (2 ^ 53) k .exact = (⟨2 ^ 52, false, false⟩, k + 1) := by
  have hshift : (Format.binary64.targetExponent (totalExponent (2 ^ 53) k) - k).toNat = 1 := by
    rw [targetExponent_binary64, totalExponent, Nat.log2_two_pow]
    omega
  simp only [shiftToTargetExponent, shiftToExponent, hshift, Nat.cast_one]
  rfl

theorem denotes_of_rounded (sign : Sign) {em : ExtendedMantissa} {r : ℕ} {k : ℤ}
    (hfirst : shiftToTargetExponent .binary64 m e accuracy = (em, k))
    (hr : em.roundedMantissa = r) (hle : r ≤ 2 ^ 53) (hk : -1074 ≤ k)
    (hfull : 2 ^ 52 ≤ r ∨ k = -1074) :
    Denotes (roundWithAccuracy .binary64 sign m e accuracy) (signed sign (r * 2 ^ k)) := by
  rcases hle.lt_or_eq with hlt | rfl
  · simp only [roundWithAccuracy, hfirst, hr, shift_of_lt hlt hk]
    split
    · rename_i hzero
      obtain rfl : r = 0 := hzero
      have hvalue : signed sign ((0 : ℕ) * 2 ^ k) = 0 := by cases sign <;> simp [signed]
      rw [hvalue]
      exact .zero sign
    · exact .finite sign _ ⟨hlt, hk, hfull⟩
  · -- Rounded up to one digit more, which is dropped again because it is zero.
    have hcarry : ((2 ^ 53 : ℕ) : ℚ) * 2 ^ k = (2 ^ 52 : ℕ) * 2 ^ (k + 1) := by
      rw [zpow_add₀ two_ne_zero]
      push_cast
      ring
    simp only [roundWithAccuracy, hfirst, hr, shift_of_carry hk]
    rw [hcarry, dif_neg (by decide)]
    exact .finite sign (by decide) ⟨by decide, by omega, .inl le_rfl⟩

theorem denotes_roundWithAccuracy (sign : Sign)
    (h : Represents (ExtendedMantissa.ofMantissaAndAccuracy m accuracy) q) (hq : 0 < q)
    (he : e ≤ ulpExponent (q * 2 ^ e)) :
    Denotes (roundWithAccuracy .binary64 sign m e accuracy)
      (signed sign (nearest (q * 2 ^ e))) := by
  have hmantissa : (ExtendedMantissa.ofMantissaAndAccuracy m accuracy).mantissa = m := by
    rcases accuracy with _ | (_ | _ | _) <;> rfl
  have hbounds := h.bounds
  rw [hmantissa] at hbounds
  obtain ⟨n, hn⟩ : ∃ n : ℕ, ulpExponent (q * 2 ^ e) = n + e :=
    ⟨(ulpExponent (q * 2 ^ e) - e).toNat, by omega⟩
  have hfirst : shiftToTargetExponent .binary64 m e accuracy =
      (ExtendedMantissa.ofMantissaAndAccuracy m accuracy >>> n, ulpExponent (q * 2 ^ e)) := by
    rw [shiftToTargetExponent, targetExponent_eq hbounds.1 hbounds.2 hq he,
      shiftToExponent_of_le he]
    congr
    omega
  have hscale : q / 2 ^ n = q * 2 ^ e / 2 ^ ulpExponent (q * 2 ^ e) := by
    rw [hn, zpow_add₀ two_ne_zero, zpow_natCast,
      mul_div_mul_right _ _ (two_zpow_pos e).ne']
  have hround := (h.shiftRight n).roundedMantissa_eq
  rw [hscale] at hround
  generalize hr : (ExtendedMantissa.ofMantissaAndAccuracy m accuracy >>> n).roundedMantissa = r
    at hround
  have hvalue : nearest (q * 2 ^ e) = r * 2 ^ ulpExponent (q * 2 ^ e) := by
    rw [nearest, ← hround, Int.cast_natCast]
  have hx : 0 < q * 2 ^ e := mul_pos hq (two_zpow_pos e)
  rw [hvalue]
  refine denotes_of_rounded sign hfirst hr ?_ (neg_le_ulpExponent _) ?_
  · have hless : roundEven (q * 2 ^ e / 2 ^ ulpExponent (q * 2 ^ e)) ≤ (2 ^ 53 : ℕ) := by
      refine roundEven_le_of_le ((div_le_iff₀ (two_zpow_pos _)).mpr ?_)
      refine (lt_two_zpow_ulpExponent _).le.trans_eq ?_
      rw [zpow_add₀ two_ne_zero, mul_comm]
      norm_num
    omega
  · rw [or_iff_not_imp_right]
    intro hmin
    have hmore : (2 ^ 52 : ℕ) ≤ roundEven (q * 2 ^ e / 2 ^ ulpExponent (q * 2 ^ e)) := by
      refine le_roundEven_of_le ((le_div_iff₀ (two_zpow_pos _)).mpr ?_)
      refine le_of_eq_of_le ?_ (two_zpow_ulpExponent_le hx hmin)
      rw [zpow_add₀ two_ne_zero, mul_comm]
      norm_num
    omega

end Round

end VisualNovel.Binary64
