import VisualNovel.Proofs.Binary64.Fields
import VisualNovel.Proofs.Binary64.Ring

namespace VisualNovel.Binary64

open Float.Model Float.Model.UnpackedFloat

theorem eq_of_unpack_eq {x y : Float} (h : x.toModel.unpack = y.toModel.unpack) : x = y := by
  rw [← Float.toBits_inj, ← UInt64.toBitVec_inj]
  exact (unpack_inj_of_valid x.toModel.valid y.toModel.valid).mp h

theorem isFinite_iff {x : Float} : x.isFinite = true ↔ ∃ v, HasValue x v := by
  refine ⟨fun h => ⟨value x, hasValue_value h⟩, ?_⟩
  rintro ⟨v, h⟩
  change x.toModel.unpack.isFinite = true
  rw [HasValue] at h
  generalize x.toModel.unpack = f at h ⊢
  cases h <;> rfl

theorem nan_or_infinite_or_hasValue (x : Float) :
    x = .nan ∨ x = .inf ∨ x = -.inf ∨ ∃ v, HasValue x v := by
  cases hx : x.toModel.unpack with
  | notANumber => exact .inl (eq_of_unpack_eq (hx.trans rfl))
  | infinity sign =>
      cases sign with
      | negative => exact .inr (.inr (.inl (eq_of_unpack_eq (hx.trans rfl))))
      | positive => exact .inr (.inl (eq_of_unpack_eq (hx.trans rfl)))
  | _ =>
      have hfinite : x.isFinite = true := by
        change x.toModel.unpack.isFinite = true
        rw [hx]
        rfl
      exact .inr (.inr (.inr (isFinite_iff.mp hfinite)))

theorem unpack_pack_large (sign : Sign) {m : ℕ} {e : ℤ} (hm : 0 < m) (h : 971 < e) :
    UnpackedFloat.unpack .binary64 (UnpackedFloat.pack .binary64 (.finite sign m e hm)) =
      .infinity sign := by
  have hexponent : 2 ^ 11 ≤ (e + Format.binary64.exponentBias +
      Format.binary64.mantissaBitsWithoutImplicit).toNat + 1 := by
    change 2 ^ 11 ≤ (e + 1023 + 52).toNat + 1
    omega
  have hpack : UnpackedFloat.pack .binary64 (.finite sign m e hm) =
      packedInfinity .binary64 sign := by
    simp only [UnpackedFloat.pack]
    exact if_pos hexponent
  rw [hpack, packedInfinity]
  simp only [UnpackedFloat.unpack, unpackExponent_packComponents, unpackMantissa_packComponents,
    unpackSign_packComponents, Sign.ofBitVec_toBitVec]
  rfl

theorem isNaN_pack {f : UnpackedFloat} {v : ℚ} (h : Denotes f v) :
    (Float.ofModel (.pack f)).isNaN = false := by
  change (UnpackedFloat.unpack .binary64 (UnpackedFloat.pack .binary64 f)).isNaN = false
  cases h with
  | zero sign =>
      have hunpack : UnpackedFloat.unpack .binary64
          (UnpackedFloat.pack .binary64 (.zero sign)) = .zero sign := unpack_packedZero
      rw [hunpack]
      rfl
  | @finite sign m e hm hcanonical =>
      rcases le_or_gt e 971 with he | he
      · rw [unpack_pack_finite sign hm hcanonical he]
        rfl
      · rw [unpack_pack_large sign hm he]
        rfl

section Order

variable {a b : UnpackedFloat} {x y : Float}

theorem exists_compare_eq_some (ha : a.isNaN = false) (hb : b.isNaN = false) :
    ∃ order, a.compare b = some order ∧ b.compare a = some order.swap := by
  have hmagnitudes (m n : ℕ) (j k : ℤ) : (compare k j).then (compare n m) =
      ((compare j k).then (compare m n)).swap := by
    rw [Ordering.swap_then, ← Std.OrientedOrd.eq_swap, ← Std.OrientedOrd.eq_swap]
  cases a with
  | notANumber => cases ha
  | infinity s =>
      cases b with
      | notANumber => cases hb
      | infinity t => cases s <;> cases t <;> exact ⟨_, rfl, rfl⟩
      | _ => cases s <;> exact ⟨_, rfl, rfl⟩
  | zero s =>
      cases b with
      | notANumber => cases hb
      | zero t => exact ⟨_, rfl, rfl⟩
      | _ t => cases t <;> exact ⟨_, rfl, rfl⟩
  | finite s m j hm =>
      cases b with
      | notANumber => cases hb
      | zero t => cases s <;> exact ⟨_, rfl, rfl⟩
      | infinity t => cases t <;> exact ⟨_, rfl, rfl⟩
      | finite t n k hn =>
          cases s with
          | negative =>
              cases t with
              | negative =>
                  exact ⟨_, rfl, congrArg (some ∘ Ordering.swap) (hmagnitudes m n j k)⟩
              | positive => exact ⟨_, rfl, rfl⟩
          | positive =>
              cases t with
              | negative => exact ⟨_, rfl, rfl⟩
              | positive => exact ⟨_, rfl, congrArg some (hmagnitudes m n j k)⟩

theorem not_lt_iff (hx : x.isNaN = false) (hy : y.isNaN = false) : ¬ x < y ↔ y ≤ x := by
  obtain ⟨order, hxy, hyx⟩ := exists_compare_eq_some (a := x.toModel.unpack)
    (b := y.toModel.unpack) hx hy
  rw [lt_iff_compare, le_iff_compare, hxy, hyx]
  cases order <;> decide

theorem le_self (hx : x.isNaN = false) : x ≤ x := by
  obtain ⟨order, hself, hswap⟩ := exists_compare_eq_some (a := x.toModel.unpack) hx hx
  have hsame : order = order.swap := Option.some.inj (hself.symm.trans hswap)
  rw [le_iff_compare, hself]
  cases order with
  | eq => rfl
  | _ => cases hsame

theorem isNaN_of_le (h : x ≤ y) : x.isNaN = false ∧ y.isNaN = false := by
  change x.toModel.unpack.isNaN = false ∧ y.toModel.unpack.isNaN = false
  rw [le_iff_compare] at h
  generalize x.toModel.unpack = a at h ⊢
  generalize y.toModel.unpack = b at h ⊢
  cases a with
  | notANumber => cases h
  | _ =>
      cases b with
      | notANumber => cases h
      | _ => exact ⟨rfl, rfl⟩

end Order

section HasValue

variable {x y : Float} {v w : ℚ}

theorem HasValue.abs_lt (h : HasValue x v) : |v| < 2 ^ (1024 : ℤ) := by
  have hpack : UnpackedFloat.unpack .binary64
      (UnpackedFloat.pack .binary64 x.toModel.unpack) = x.toModel.unpack :=
    congrArg _ (pack_unpack_of_valid x.toModel.valid)
  rw [HasValue] at h
  generalize x.toModel.unpack = f at h hpack
  cases h with
  | zero sign => simp
  | @finite sign m e hm hcanonical =>
      have he : e ≤ 971 := by
        by_contra hlarge
        rw [unpack_pack_large sign hm (not_le.mp hlarge)] at hpack
        cases hpack
      rw [abs_signed, abs_of_pos (magnitude_pos hm e)]
      calc (m : ℚ) * 2 ^ e < 2 ^ (53 : ℤ) * 2 ^ e :=
            mul_lt_mul_of_pos_right (by exact_mod_cast hcanonical.mantissa_lt) (two_zpow_pos e)
        _ = 2 ^ (53 + e) := (zpow_add₀ two_ne_zero 53 e).symm
        _ ≤ 2 ^ (1024 : ℤ) := zpow_le_zpow_right₀ one_le_two (by omega)

theorem HasValue.isNaN (h : HasValue x v) : x.isNaN = false := by
  change x.toModel.unpack.isNaN = false
  rw [HasValue] at h
  generalize x.toModel.unpack = f at h ⊢
  cases h <;> rfl

theorem HasValue.neg (h : HasValue x v) : HasValue (-x) (-v) :=
  hasValue_pack (Denotes.neg h) (by simpa using h.abs_lt)

theorem Denotes.abs {f : UnpackedFloat} (h : Denotes f v) : Denotes f.abs |v| := by
  cases h with
  | zero sign =>
      rw [abs_zero]
      exact .zero .positive
  | @finite sign m e hm hcanonical =>
      rw [abs_signed, abs_of_pos (magnitude_pos hm e)]
      exact .finite .positive hm hcanonical

theorem HasValue.abs (h : HasValue x v) : HasValue x.abs |v| :=
  hasValue_pack (Denotes.abs h) (by simpa using h.abs_lt)

theorem HasValue.isNaN_mul (hx : HasValue x v) (hy : HasValue y w) : (x * y).isNaN = false :=
  isNaN_pack (denotes_mul hx hy)

theorem HasValue.abs_rounded_lt (h : HasValue x v) (hle : |w| ≤ |v|) :
    |rounded w| < 2 ^ (1024 : ℤ) := by
  calc |rounded w| = nearest |w| := abs_rounded w
    _ ≤ nearest |v| := nearest_mono (abs_nonneg w) hle
    _ = |rounded v| := (abs_rounded v).symm
    _ = |v| := by rw [h.rounded_eq]
    _ < 2 ^ (1024 : ℤ) := h.abs_lt

theorem HasValue.eq_zero (h : HasValue x 0) : x = 0 ∨ x = -0 := by
  cases hx : x.toModel.unpack with
  | zero sign =>
      cases sign with
      | negative => exact .inr (eq_of_unpack_eq (hx.trans rfl))
      | positive => exact .inl (eq_of_unpack_eq (hx.trans rfl))
  | finite sign m e hm =>
      rw [HasValue, hx] at h
      generalize hzero : (0 : ℚ) = z at h
      cases h with
      | finite _ _ _ =>
          have hpos := magnitude_pos hm e
          cases sign <;> simp only [signed] at hzero <;> linarith
  | _ =>
      rw [HasValue, hx] at h
      cases h

theorem nan_mul (y : Float) : Float.nan * y = .nan :=
  rfl

theorem zero_mul_of_not_isFinite (hx : HasValue x 0) (hy : y.isFinite = false) :
    x * y = .nan := by
  rcases nan_or_infinite_or_hasValue y with rfl | rfl | rfl | hvalue
  · rcases hx.eq_zero with rfl | rfl <;> decide +kernel
  · rcases hx.eq_zero with rfl | rfl <;> decide +kernel
  · rcases hx.eq_zero with rfl | rfl <;> decide +kernel
  · rw [isFinite_iff.mpr hvalue] at hy
    cases hy

theorem neg_abs_le_abs_iff (x : Float) : -x.abs ≤ x.abs ↔ x.isNaN = false := by
  rcases nan_or_infinite_or_hasValue x with rfl | rfl | rfl | ⟨v, hx⟩
  · decide +kernel
  · decide +kernel
  · decide +kernel
  · have hle : -|v| ≤ |v| := neg_le_self (abs_nonneg v)
    exact iff_of_true ((hx.abs.neg.le_iff hx.abs).mpr hle) hx.isNaN

end HasValue

end VisualNovel.Binary64
