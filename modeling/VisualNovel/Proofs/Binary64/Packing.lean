import VisualNovel.Proofs.Binary64.Value

namespace VisualNovel.Binary64

open Float.Model Float.Model.UnpackedFloat

theorem unpack_normal (sign : Sign) {exponent : BitVec 11} {mantissa : BitVec 52} {m : ℕ} {e : ℤ}
    (hm : 0 < m) (hmin : exponent ≠ 0#_) (hmax : exponent ≠ -1#_)
    (hmantissa : 2 ^ 52 + mantissa.toNat = m) (hexponent : exponent.toNat - 1075 = e) :
    UnpackedFloat.unpack .binary64 (packComponents .binary64 sign exponent mantissa) =
      .finite sign m e hm := by
  subst hmantissa hexponent
  have happend : (1#1 ++ mantissa).toNat = 2 ^ 52 + mantissa.toNat := by
    rw [BitVec.toNat_append, ← Nat.shiftLeft_add_eq_or_of_lt mantissa.isLt]
    rfl
  simp only [UnpackedFloat.unpack, unpackExponent_packComponents, unpackMantissa_packComponents,
    unpackSign_packComponents, Sign.ofBitVec_toBitVec, hmin, hmax, ↓reduceIte, happend]
  rfl

theorem unpack_subnormal (sign : Sign) {mantissa : BitVec 52} {m : ℕ} (hm : 0 < m)
    (hmantissa : mantissa.toNat = m) :
    UnpackedFloat.unpack .binary64 (packComponents .binary64 sign 0#11 mantissa) =
      .finite sign m (-1074) hm := by
  subst hmantissa
  have hzero : mantissa ≠ 0#52 := by
    rintro rfl
    exact absurd hm (by decide)
  simp only [UnpackedFloat.unpack, unpackExponent_packComponents, unpackMantissa_packComponents,
    unpackSign_packComponents, Sign.ofBitVec_toBitVec, ↓reduceIte, hzero]
  rfl

theorem unpack_pack_finite (sign : Sign) {m : ℕ} {e : ℤ} (hm : 0 < m) (h : Canonical m e)
    (he : e ≤ 971) :
    UnpackedFloat.unpack .binary64 (UnpackedFloat.pack .binary64 (.finite sign m e hm)) =
      .finite sign m e hm := by
  have hlt := h.mantissa_lt
  have hmin := h.le_exponent
  obtain ⟨biased, hbiased⟩ : ∃ biased : ℕ, e + 1023 + 52 = biased :=
    ⟨(e + 1023 + 52).toNat, by omega⟩
  have hpack : UnpackedFloat.pack .binary64 (.finite sign m e hm) =
      if m.log2 + 1 = 53 then
        packComponents .binary64 sign (BitVec.ofNat 11 biased) (BitVec.ofNat 52 m)
      else packComponents .binary64 sign 0#11 (BitVec.ofNat 52 m) := by
    have hexponent : (e + Format.binary64.exponentBias +
        Format.binary64.mantissaBitsWithoutImplicit).toNat = biased :=
      (congrArg Int.toNat hbiased).trans (Int.toNat_natCast biased)
    simp only [UnpackedFloat.pack, hexponent]
    rw [if_neg (by omega)]
    rfl
  rw [hpack]
  by_cases hnormal : 2 ^ 52 ≤ m
  · have hlog : m.log2 + 1 = 53 := by
      have hless := (Nat.log2_lt hm.ne').mpr hlt
      have hmore := (Nat.le_log2 hm.ne').mpr hnormal
      omega
    have hexponent : (BitVec.ofNat 11 biased).toNat = biased := by
      rw [BitVec.toNat_ofNat, Nat.mod_eq_of_lt (by omega)]
    rw [if_pos hlog]
    refine unpack_normal sign hm ?_ ?_ ?_ ?_
    · intro hzero
      rw [hzero] at hexponent
      simp at hexponent
      omega
    · intro hones
      rw [hones] at hexponent
      simp at hexponent
      omega
    · rw [BitVec.toNat_ofNat]
      omega
    · rw [hexponent]
      omega
  · have hlog : ¬ m.log2 + 1 = 53 := by
      have hless := (Nat.log2_lt hm.ne').mpr (not_le.mp hnormal)
      omega
    obtain rfl : e = -1074 := h.full.resolve_left hnormal
    rw [if_neg hlog]
    refine unpack_subnormal sign hm ?_
    rw [BitVec.toNat_ofNat, Nat.mod_eq_of_lt (by omega)]

theorem Canonical.exponent_le {m : ℕ} {e : ℤ} (h : Canonical m e)
    (hrange : (m : ℚ) * 2 ^ e < 2 ^ (1024 : ℤ)) : e ≤ 971 := by
  by_contra hlarge
  have hm : (2 : ℚ) ^ (52 : ℤ) ≤ m := by
    exact_mod_cast h.full.resolve_right (by omega)
  have hless : (2 : ℚ) ^ (1024 : ℤ) ≤ m * 2 ^ e :=
    calc (2 : ℚ) ^ (1024 : ℤ) ≤ 2 ^ (52 + e) := zpow_le_zpow_right₀ one_le_two (by omega)
      _ = 2 ^ (52 : ℤ) * 2 ^ e := zpow_add₀ two_ne_zero 52 e
      _ ≤ m * 2 ^ e := mul_le_mul_of_nonneg_right hm (zpow_pos two_pos e).le
  exact absurd hrange (not_lt.mpr hless)

theorem abs_signed (sign : Sign) (x : ℚ) : |signed sign x| = |x| := by
  cases sign with
  | negative => exact abs_neg x
  | positive => rfl

theorem hasValue_pack {f : UnpackedFloat} {v : ℚ} (h : Denotes f v)
    (hrange : |v| < 2 ^ (1024 : ℤ)) : HasValue (.ofModel (.pack f)) v := by
  have hunpack : UnpackedFloat.unpack .binary64 (UnpackedFloat.pack .binary64 f) = f := by
    cases h with
    | zero sign => exact unpack_packedZero
    | @finite sign m e hm hcanonical =>
        rw [abs_signed, abs_of_pos (magnitude_pos hm e)] at hrange
        exact unpack_pack_finite sign hm hcanonical (hcanonical.exponent_le hrange)
  change Denotes (UnpackedFloat.unpack .binary64 (UnpackedFloat.pack .binary64 f)) v
  rwa [hunpack]

end VisualNovel.Binary64
