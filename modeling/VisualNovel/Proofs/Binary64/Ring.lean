import VisualNovel.Proofs.Binary64.Arithmetic

namespace VisualNovel.Binary64

open Float.Model Float.Model.UnpackedFloat

/-- The nearest number of the format, on either side of zero. -/
def rounded (v : ℚ) : ℚ :=
  if v < 0 then -nearest (-v) else nearest v

section Rounded

variable {v w : ℚ}

theorem rounded_of_nonneg (h : 0 ≤ v) : rounded v = nearest v :=
  if_neg (not_lt.mpr h)

theorem rounded_of_nonpos (h : v ≤ 0) : rounded v = -nearest (-v) := by
  rcases h.lt_or_eq with hneg | rfl
  · exact if_pos hneg
  · simp [rounded]

@[simp] theorem rounded_zero : rounded 0 = 0 := by
  rw [rounded_of_nonneg le_rfl, nearest_zero]

theorem rounded_neg (v : ℚ) : rounded (-v) = -rounded v := by
  rcases le_total 0 v with h | h
  · rw [rounded_of_nonpos (neg_nonpos.mpr h), rounded_of_nonneg h, neg_neg]
  · rw [rounded_of_nonneg (neg_nonneg.mpr h), rounded_of_nonpos h, neg_neg]

theorem rounded_signed (sign : Sign) (h : 0 ≤ v) :
    rounded (signed sign v) = signed sign (nearest v) := by
  cases sign with
  | negative => rw [signed, signed, rounded_neg, rounded_of_nonneg h]
  | positive => exact rounded_of_nonneg h

theorem rounded_nonneg (h : 0 ≤ v) : 0 ≤ rounded v := by
  rw [rounded_of_nonneg h]
  exact nearest_nonneg h

theorem rounded_nonpos (h : v ≤ 0) : rounded v ≤ 0 := by
  rw [rounded_of_nonpos h, neg_nonpos]
  exact nearest_nonneg (neg_nonneg.mpr h)

theorem rounded_mono (h : v ≤ w) : rounded v ≤ rounded w := by
  rcases le_total 0 v with hv | hv
  · rw [rounded_of_nonneg hv, rounded_of_nonneg (hv.trans h)]
    exact nearest_mono hv h
  · rcases le_total 0 w with hw | hw
    · exact (rounded_nonpos hv).trans (rounded_nonneg hw)
    · rw [rounded_of_nonpos hv, rounded_of_nonpos hw]
      exact neg_le_neg (nearest_mono (neg_nonneg.mpr hw) (neg_le_neg h))

theorem abs_rounded (v : ℚ) : |rounded v| = nearest |v| := by
  rcases le_total 0 v with h | h
  · rw [rounded_of_nonneg h, abs_of_nonneg h, abs_of_nonneg (nearest_nonneg h)]
  · rw [rounded_of_nonpos h, abs_neg, abs_of_nonpos h,
      abs_of_nonneg (nearest_nonneg (neg_nonneg.mpr h))]

end Rounded

theorem Canonical.ulpExponent_le {m : ℕ} {e : ℤ} (h : Canonical m e) (hm : 0 < m) :
    ulpExponent (m * 2 ^ e) ≤ e := by
  refine Binary64.ulpExponent_le (magnitude_pos hm e) h.le_exponent ?_
  rw [zpow_add₀ two_ne_zero, mul_comm]
  refine mul_lt_mul_of_pos_left ?_ (two_zpow_pos e)
  exact_mod_cast h.mantissa_lt

theorem Denotes.rounded_eq {f : UnpackedFloat} {v : ℚ} (h : Denotes f v) : rounded v = v := by
  cases h with
  | zero sign => exact rounded_zero
  | @finite sign m e hm hcanonical =>
      rw [rounded_signed sign (magnitude_pos hm e).le]
      have hself := nearest_eq_self (n := m) (k := e) (by simpa using hcanonical.ulpExponent_le hm)
      rw [Int.cast_natCast] at hself
      rw [hself]

theorem Denotes.neg {f : UnpackedFloat} {v : ℚ} (h : Denotes f v) : Denotes f.neg (-v) := by
  cases h with
  | zero sign =>
      rw [neg_zero]
      exact .zero (-sign)
  | @finite sign m e hm hcanonical =>
      have hvalue : -signed sign (m * 2 ^ e) = signed (-sign) (m * 2 ^ e) := by
        cases sign with
        | negative => exact neg_neg _
        | positive => rfl
      rw [hvalue]
      exact .finite (-sign) hm hcanonical

theorem denotes_normalize (m e : ℤ) :
    Denotes (UnpackedFloat.normalize .binary64 m e .positive) (rounded (m * 2 ^ e)) := by
  rcases lt_trichotomy m 0 with h | rfl | h
  · obtain ⟨n, rfl⟩ : ∃ n : ℕ, m = -n := ⟨m.natAbs, by omega⟩
    have hround := denotes_round .negative (m := n) (by omega) e
    rw [UnpackedFloat.normalize, compare_lt_iff_lt.mpr h]
    rw [Int.cast_neg, Int.cast_natCast, neg_mul, rounded_neg,
      rounded_of_nonneg (magnitude_pos (by omega) e).le]
    simpa [signed] using hround
  · rw [Int.cast_zero, zero_mul, rounded_zero]
    exact .zero .positive
  · obtain ⟨n, rfl⟩ : ∃ n : ℕ, m = n := ⟨m.natAbs, by omega⟩
    rw [UnpackedFloat.normalize, compare_gt_iff_gt.mpr h, Int.cast_natCast,
      rounded_of_nonneg (magnitude_pos (by omega) e).le]
    exact denotes_round .positive (by omega) e

theorem apply_shiftLeft (sign : Sign) (m : ℕ) {e k : ℤ} (h : k ≤ e) :
    (sign.apply (m <<< (e - k).toNat : ℕ) : ℚ) * 2 ^ k = signed sign (m * 2 ^ e) := by
  have hshift : ((m <<< (e - k).toNat : ℕ) : ℚ) * 2 ^ k = m * 2 ^ e := by
    rw [Nat.shiftLeft_eq, Nat.cast_mul, Nat.cast_pow, Nat.cast_ofNat, mul_assoc, ← zpow_natCast,
      ← zpow_add₀ two_ne_zero]
    congr 2
    omega
  cases sign with
  | negative => rw [Sign.apply, signed, ← hshift, Int.cast_neg, Int.cast_natCast, neg_mul]
  | positive => rw [Sign.apply, signed, ← hshift, Int.cast_natCast]

theorem denotes_add {a b : UnpackedFloat} {v w : ℚ} (ha : Denotes a v) (hb : Denotes b w) :
    Denotes (UnpackedFloat.add .binary64 a b) (rounded (v + w)) := by
  cases ha with
  | zero s =>
      rw [zero_add, hb.rounded_eq]
      cases hb with
      | zero t =>
          simp only [UnpackedFloat.add]
          split <;> exact .zero _
      | finite t hn hcanonical => exact .finite t hn hcanonical
  | @finite s m j hm hmj =>
      cases hb with
      | zero t =>
          rw [add_zero, (Denotes.finite s hm hmj).rounded_eq]
          exact .finite s hm hmj
      | @finite t n k hn hnk =>
          have hsum := denotes_normalize (s.apply (m <<< (j - min j k).toNat : ℕ) +
            t.apply (n <<< (k - min j k).toNat : ℕ)) (min j k)
          rwa [Int.cast_add, add_mul, apply_shiftLeft s m (min_le_left j k),
            apply_shiftLeft t n (min_le_right j k)] at hsum

theorem sub_eq_add_of_neg (a b : UnpackedFloat) :
    UnpackedFloat.sub .binary64 a b = UnpackedFloat.add .binary64 a b.neg := by
  cases a with
  | finite s m j hm =>
      cases b with
      | finite t n k hn =>
          have happly : ∀ i : ℤ, (-t).apply i = -t.apply i := by
            intro i
            cases t with
            | negative => exact (neg_neg i).symm
            | positive => rfl
          simp only [UnpackedFloat.sub, UnpackedFloat.add, UnpackedFloat.neg, happly]
          rfl
      | _ => rfl
  | _ => cases b <;> rfl

theorem denotes_sub {a b : UnpackedFloat} {v w : ℚ} (ha : Denotes a v) (hb : Denotes b w) :
    Denotes (UnpackedFloat.sub .binary64 a b) (rounded (v - w)) := by
  rw [sub_eq_add_of_neg, sub_eq_add_neg]
  exact denotes_add ha hb.neg

theorem Canonical.add_le_ulpExponent_mul {m n : ℕ} {j k : ℤ} (hm : 0 < m) (hn : 0 < n)
    (hmj : Canonical m j) (hnk : Canonical n k) :
    j + k ≤ ulpExponent ((m * n : ℕ) * 2 ^ (j + k)) := by
  have hlog := log_mul_two_zpow (Nat.mul_pos hm hn) le_rfl (lt_add_one _) (j + k)
  by_cases hfull : 2 ^ 52 ≤ m * n
  · have hdigits := (Nat.le_log2 (Nat.mul_pos hm hn).ne').mpr hfull
    rw [ulpExponent, hlog]
    omega
  · -- With so short a product neither mantissa is full, so both exponents are the least.
    have hmin : j = -1074 :=
      hmj.full.resolve_left fun h => hfull (h.trans (Nat.le_mul_of_pos_right m hn))
    have hmin' : k = -1074 :=
      hnk.full.resolve_left fun h => hfull (h.trans (Nat.le_mul_of_pos_left n hm))
    rw [ulpExponent]
    omega

theorem signed_mul (s t : Sign) (v w : ℚ) : signed (s * t) (v * w) = signed s v * signed t w := by
  cases s with
  | negative =>
      cases t with
      | negative => exact (neg_mul_neg v w).symm
      | positive => exact (neg_mul v w).symm
  | positive =>
      cases t with
      | negative => exact (mul_neg v w).symm
      | positive => rfl

theorem denotes_mul {a b : UnpackedFloat} {v w : ℚ} (ha : Denotes a v) (hb : Denotes b w) :
    Denotes (UnpackedFloat.mul .binary64 a b) (rounded (v * w)) := by
  cases ha with
  | zero s =>
      rw [zero_mul, rounded_zero]
      cases hb <;> exact .zero _
  | @finite s m j hm hmj =>
      cases hb with
      | zero t =>
          rw [mul_zero, rounded_zero]
          exact .zero _
      | @finite t n k hn hnk =>
          have hvalue : (m : ℚ) * 2 ^ j * (n * 2 ^ k) = (m * n : ℕ) * 2 ^ (j + k) := by
            rw [zpow_add₀ two_ne_zero]
            push_cast
            ring
          rw [← signed_mul, hvalue, rounded_signed _ (by positivity)]
          exact denotes_roundWithAccuracy (s * t) (represents_exact (m * n))
            (by exact_mod_cast Nat.mul_pos hm hn) (hmj.add_le_ulpExponent_mul hm hn hnk)

section HasValue

variable {x y : Float} {v w : ℚ}

theorem HasValue.rounded_eq (hx : HasValue x v) : rounded v = v :=
  Denotes.rounded_eq hx

theorem HasValue.add (hx : HasValue x v) (hy : HasValue y w)
    (hrange : |rounded (v + w)| < 2 ^ (1024 : ℤ)) : HasValue (x + y) (rounded (v + w)) :=
  hasValue_pack (denotes_add hx hy) hrange

theorem HasValue.sub (hx : HasValue x v) (hy : HasValue y w)
    (hrange : |rounded (v - w)| < 2 ^ (1024 : ℤ)) : HasValue (x - y) (rounded (v - w)) :=
  hasValue_pack (denotes_sub hx hy) hrange

theorem HasValue.mul (hx : HasValue x v) (hy : HasValue y w)
    (hrange : |rounded (v * w)| < 2 ^ (1024 : ℤ)) : HasValue (x * y) (rounded (v * w)) :=
  hasValue_pack (denotes_mul hx hy) hrange

/-- A natural number of up to 53 digits is the value of its literal. -/
theorem hasValue_ofNat {n : ℕ} (hn : n < 2 ^ 53) :
    HasValue (OfNat.ofNat n) (OfNat.ofNat n) := by
  -- A literal is the converted number times the power of ten that stands for no decimals.
  have hone : (1 : ℕ).toUInt64.toFloat = Float.exactlyRepresentablePowersOfTen[0] := by
    decide +kernel
  have hvalue := hasValue_toFloat hn
  have hrange : |rounded (n * (1 : ℕ))| < 2 ^ (1024 : ℤ) := by
    rw [Nat.cast_one, mul_one, hvalue.rounded_eq, abs_of_nonneg (Nat.cast_nonneg n)]
    exact_mod_cast hn.trans (Nat.pow_lt_pow_right one_lt_two (by decide))
  have hproduct := hvalue.mul (hasValue_toFloat (by decide)) hrange
  rw [hone, Nat.cast_one, mul_one, hvalue.rounded_eq] at hproduct
  change HasValue (Float.ofScientific n false 0) n
  rw [Float.ofScientific, dif_pos ⟨hn, by decide⟩]
  exact hproduct

end HasValue

end VisualNovel.Binary64
