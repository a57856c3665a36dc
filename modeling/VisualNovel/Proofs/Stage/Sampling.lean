import VisualNovel.Proofs.Binary64.Ring
import VisualNovel.Stage.Transform

namespace VisualNovel

open Binary64

theorem hasValue_clamp {lower upper x : Float} {a b v : ℚ} (hlower : HasValue lower a)
    (hupper : HasValue upper b) (hx : HasValue x v) :
    HasValue (clamp lower upper x) (min b (max a v)) := by
  have hraised : HasValue (if x < lower then lower else x) (max a v) := by
    simp only [hx.lt_iff hlower]
    split
    · rwa [max_eq_left (le_of_lt ‹_›)]
    · rwa [max_eq_right (not_lt.mp ‹_›)]
  simp only [clamp, hupper.lt_iff hraised]
  split
  · rwa [min_eq_left (le_of_lt ‹_›)]
  · rwa [min_eq_right (not_lt.mp ‹_›)]

namespace Tween

variable (tween : Tween)

theorem toNat_elapsed (now : UInt64) :
    (tween.elapsed now).toNat = now.toNat - tween.startTime.toNat := by
  unfold elapsed
  split
  · exact UInt64.toNat_sub_of_le _ _ ‹_›
  · rename_i hearly
    have hless : now.toNat < tween.startTime.toNat := not_le.mp hearly
    rw [UInt64.toNat_zero]
    omega

theorem elapsed_mono {now later : UInt64} (h : now ≤ later) :
    (tween.elapsed now).toNat ≤ (tween.elapsed later).toNat := by
  have hle : now.toNat ≤ later.toNat := h
  rw [toNat_elapsed, toNat_elapsed]
  omega

/-- The value of the progress. -/
def share (now : UInt64) : ℚ :=
  if tween.duration = 0 then 1
  else min 1 (max 0
    (nearest (nearest (tween.elapsed now).toNat / nearest tween.duration.toNat)))

theorem share_nonneg (now : UInt64) : 0 ≤ tween.share now := by
  unfold share
  split
  · exact zero_le_one
  · exact le_min zero_le_one (le_max_left _ _)

theorem share_le_one (now : UInt64) : tween.share now ≤ 1 := by
  unfold share
  split
  · exact le_rfl
  · exact min_le_left _ _

theorem one_le_nearest_toNat {duration : UInt64} (h : duration ≠ 0) :
    1 ≤ nearest duration.toNat := by
  have hpos : 1 ≤ duration.toNat :=
    Nat.pos_of_ne_zero fun hzero => h (UInt64.toNat_inj.mp hzero)
  calc (1 : ℚ) = nearest (1 : ℕ) := by rw [nearest_natCast (by decide), Nat.cast_one]
    _ ≤ nearest duration.toNat := nearest_mono (by simp) (by exact_mod_cast hpos)

theorem hasValue_progress (now : UInt64) : HasValue (tween.progress now) (tween.share now) := by
  unfold progress share
  split
  · exact hasValue_ofNat (by decide)
  · rename_i hduration
    have hone := one_le_nearest_toNat hduration
    have helapsed : 0 ≤ nearest (tween.elapsed now).toNat := nearest_nonneg (Nat.cast_nonneg _)
    refine hasValue_clamp (hasValue_ofNat (by decide)) (hasValue_ofNat (by decide)) ?_
    refine (hasValue_ofUInt64 _).div (hasValue_ofUInt64 _) helapsed (by linarith) ?_
    calc nearest (tween.elapsed now).toNat / nearest tween.duration.toNat
        ≤ nearest (tween.elapsed now).toNat := div_le_self helapsed hone
      _ ≤ 2 ^ (64 : ℤ) := nearest_toNat_le _
      _ ≤ 2 ^ (1023 : ℤ) := zpow_le_zpow_right₀ one_le_two (by decide)

theorem share_mono {now later : UInt64} (h : now ≤ later) :
    tween.share now ≤ tween.share later := by
  unfold share
  split
  · exact le_rfl
  · rename_i hduration
    have hone := one_le_nearest_toNat hduration
    have helapsed : nearest (tween.elapsed now).toNat ≤ nearest (tween.elapsed later).toNat :=
      nearest_mono (Nat.cast_nonneg _) (by exact_mod_cast tween.elapsed_mono h)
    refine min_le_min_left 1 (max_le_max_left 0 (nearest_mono ?_ ?_))
    · exact div_nonneg (nearest_nonneg (Nat.cast_nonneg _)) (by linarith)
    · exact div_le_div_of_nonneg_right helapsed (by linarith)

theorem one_le_progress_mono {now later : UInt64} (h : now ≤ later)
    (hdone : 1 ≤ tween.progress now) : 1 ≤ tween.progress later := by
  have hone : HasValue 1 1 := hasValue_ofNat (by decide)
  rw [hone.le_iff (tween.hasValue_progress _)] at hdone ⊢
  exact hdone.trans (tween.share_mono h)

end Tween

end VisualNovel
