import VisualNovel.Decimal
import VisualNovel.Proofs.Binary64.Packing

namespace VisualNovel

namespace Binary64

section Fields

open Float.Model Float.Model.UnpackedFloat

/-- The digits of a number, with the leading one that is not stored. -/
def significand (exponentField fractionField : ℕ) : ℕ :=
  fractionField + if exponentField = 0 then 0 else 1 <<< 52

def exponent (exponentField : ℕ) : ℤ :=
  -- Subnormal numbers have the exponent of the smallest normal ones.
  (max exponentField 1 : ℕ) - 1075

theorem canonical_significand {exponentField fractionField : ℕ} (h : fractionField < 1 <<< 52) :
    Canonical (significand exponentField fractionField) (exponent exponentField) := by
  rw [Nat.one_shiftLeft] at h
  constructor
  · unfold significand
    split <;> omega
  · unfold exponent
    omega
  · by_cases hfield : exponentField = 0
    · exact .inr (by simp [exponent, hfield])
    · exact .inl (by simp [significand, hfield])

theorem denotes_unpack_packComponents (sign : Sign) {e : BitVec 11} {m : BitVec 52}
    (hmax : e ≠ -1#_) :
    Denotes (UnpackedFloat.unpack .binary64 (packComponents .binary64 sign e m))
      (signed sign (significand e.toNat m.toNat * 2 ^ exponent e.toNat)) := by
  have hcanonical : Canonical (significand e.toNat m.toNat) (exponent e.toNat) :=
    canonical_significand m.isLt
  by_cases hmin : e = 0#_
  · subst hmin
    by_cases hzero : m = 0#_
    · subst hzero
      have hunpack : UnpackedFloat.unpack .binary64 (packComponents .binary64 sign 0#11 0#52) =
          .zero sign := unpack_packedZero
      rw [hunpack]
      cases sign <;> simpa [significand, signed] using Denotes.zero _
    · have hpos : 0 < significand (0#11).toNat m.toNat := by
        simpa [significand, BitVec.toNat_pos, BitVec.pos_iff_ne_zero] using hzero
      rw [unpack_subnormal sign hpos (by simp [significand])]
      exact .finite sign hpos hcanonical
  · have hne : e.toNat ≠ 0 := fun h => hmin (BitVec.eq_of_toNat_eq h)
    have hpos : 0 < significand e.toNat m.toNat := by
      simp [significand, hne]
    rw [unpack_normal sign hpos hmin hmax]
    · exact .finite sign hpos hcanonical
    · rw [significand, if_neg hne, Nat.one_shiftLeft, Nat.add_comm]
    · rw [exponent]
      omega

def exponentField (x : Float) : ℕ :=
  (x.toBits.toNat >>> 52) % 2048

def fractionField (x : Float) : ℕ :=
  x.toBits.toNat % (1 <<< 52)

def signField (x : Float) : Sign :=
  if Decimal.isNegative x then .negative else .positive

def magnitude (x : Float) : ℚ :=
  significand (exponentField x) (fractionField x) * 2 ^ exponent (exponentField x)

/-- The number that a finite float stands for. -/
def value (x : Float) : ℚ :=
  signed (signField x) (magnitude x)

theorem ofBitVec_unpackSign (x : Float) :
    Sign.ofBitVec (@unpackSign .binary64 x.toBits.toBitVec) = signField x := by
  have hlt : x.toBits.toNat >>> 63 < 2 := by
    have := x.toBits.toNat_lt
    rw [Nat.shiftRight_eq_div_pow]
    omega
  have hbit : (@unpackSign .binary64 x.toBits.toBitVec).toNat = x.toBits.toNat >>> 63 := by
    simp [unpackSign]
    omega
  have hnegative : Decimal.isNegative x = true ↔ x.toBits.toNat >>> 63 = 1 := by
    rw [Decimal.isNegative, beq_iff_eq, ← UInt64.toNat_inj]
    simp
  simp only [Sign.ofBitVec, signField, hnegative, ← BitVec.toNat_inj, hbit, BitVec.toNat_ofNat]
  split <;> split <;> first | rfl | omega

/-- Every finite float stands for the number in its fields. -/
theorem hasValue_value {x : Float} (h : x.isFinite) : HasValue x (value x) := by
  have hexponent : (@unpackExponent .binary64 x.toBits.toBitVec).toNat = exponentField x := by
    simp [unpackExponent, exponentField]
  have hfraction : (@unpackMantissa .binary64 x.toBits.toBitVec).toNat = fractionField x := by
    simp [unpackMantissa, fractionField]
  have hpacked :=
    @packComponents_unpackSign_unpackExponent_unpackMantissa .binary64 x.toBits.toBitVec
  have hmax : @unpackExponent .binary64 x.toBits.toBitVec ≠ -1#_ := by
    intro hones
    change (UnpackedFloat.unpack .binary64 x.toBits.toBitVec).isFinite = true at h
    rw [UnpackedFloat.unpack, if_pos hones] at h
    split at h <;> cases h
  have hdenotes := denotes_unpack_packComponents
    (Sign.ofBitVec (@unpackSign .binary64 x.toBits.toBitVec))
    (m := @unpackMantissa .binary64 x.toBits.toBitVec) hmax
  rwa [hpacked, hexponent, hfraction, ofBitVec_unpackSign] at hdenotes

end Fields

section Rounding

theorem fraction_eq (x : Float) :
    Decimal.fraction x =
      (significand (exponentField x) (fractionField x) <<< (max (exponentField x) 1 - 1075),
        1 <<< (1075 - max (exponentField x) 1)) := by
  have hfraction : Decimal.fraction x =
      if 1075 ≤ max (exponentField x) 1 then
        (significand (exponentField x) (fractionField x) <<< (max (exponentField x) 1 - 1075), 1)
      else (significand (exponentField x) (fractionField x),
        1 <<< (1075 - max (exponentField x) 1)) := rfl
  rw [hfraction]
  split
  · rename_i hlarge
    rw [Nat.sub_eq_zero_of_le hlarge, Nat.shiftLeft_zero]
  · rename_i hsmall
    rw [Nat.sub_eq_zero_of_le (not_le.mp hsmall).le, Nat.shiftLeft_zero]

theorem fraction_div (x : Float) :
    ((Decimal.fraction x).1 : ℚ) / (Decimal.fraction x).2 = magnitude x := by
  have hexponent : exponent (exponentField x) =
      ((max (exponentField x) 1 - 1075 : ℕ) : ℤ) - (1075 - max (exponentField x) 1 : ℕ) := by
    unfold exponent
    omega
  rw [magnitude, fraction_eq, hexponent, zpow_sub₀ two_ne_zero, zpow_natCast, zpow_natCast, Nat.shiftLeft_eq,
    Nat.one_shiftLeft]
  push_cast
  rw [mul_div_assoc]

theorem fraction_pos (x : Float) : 0 < (Decimal.fraction x).2 := by
  rw [fraction_eq, Nat.one_shiftLeft]
  exact Nat.two_pow_pos _

theorem natCast_div_eq_round (num : ℕ) {den : ℕ} (hden : 0 < den) :
    (((2 * num + den) / (2 * den) : ℕ) : ℤ) = round ((num : ℚ) / den) := by
  have hne : (den : ℚ) ≠ 0 := by exact_mod_cast hden.ne'
  have hhalf : (num : ℚ) / den + 1 / 2 = (2 * num + den : ℕ) / (2 * den : ℕ) := by
    push_cast
    field_simp
  rw [round_eq, hhalf, Rat.floor_natCast_div_natCast]
  rfl

/-- The nearest integer, a half going away from zero. -/
def roundAway (v : ℚ) : ℤ :=
  if v < 0 then -round (-v) else round v

theorem roundAway_of_nonneg {v : ℚ} (h : 0 ≤ v) : roundAway v = round v :=
  if_neg (not_lt.mpr h)

theorem roundAway_neg_of_nonneg {v : ℚ} (h : 0 ≤ v) : roundAway (-v) = -round v := by
  rcases h.eq_or_lt with rfl | hpos
  · simp [roundAway]
  · rw [roundAway, if_pos (neg_lt_zero.mpr hpos), neg_neg]

theorem round_eq_roundAway (x : Float) : Decimal.round x = roundAway (value x) := by
  have hmagnitude := natCast_div_eq_round (Decimal.fraction x).1 (fraction_pos x)
  rw [fraction_div] at hmagnitude
  have hnonneg : 0 ≤ magnitude x := by
    unfold magnitude
    positivity
  by_cases hsign : Decimal.isNegative x
  · have hvalue : value x = -magnitude x := by
      rw [value, signField, if_pos hsign, signed]
    rw [hvalue, roundAway_neg_of_nonneg hnonneg, ← hmagnitude]
    exact if_pos hsign
  · have hvalue : value x = magnitude x := by
      rw [value, signField, if_neg hsign, signed]
    rw [hvalue, roundAway_of_nonneg hnonneg, ← hmagnitude]
    exact if_neg hsign

end Rounding

end Binary64

end VisualNovel
