import VisualNovel.Proofs.Binary64.Special
import VisualNovel.Proofs.Stage.Run
import VisualNovel.Proofs.Stage.Sampling

namespace VisualNovel

open Binary64

section Bounds

theorem hasValue_half : HasValue 0.5 (1 / 2) := by
  have hquotient : (1 : Float) / 2 = 0.5 := by decide +kernel
  have hhalf : nearest (1 / 2) = 1 / 2 := by
    have hgrid : ulpExponent ((1 : ℤ) * 2 ^ (-1 : ℤ)) ≤ -1 :=
      ulpExponent_le (by norm_num) (by decide) (by norm_num)
    simpa using nearest_eq_self hgrid
  have hrange : (1 : ℚ) / 2 ≤ 2 ^ (1023 : ℤ) :=
    (by norm_num : (1 : ℚ) / 2 ≤ 1).trans (one_le_zpow₀ one_le_two (by decide))
  have hone : HasValue 1 1 := hasValue_ofNat (by decide)
  have hvalue := hone.div (hasValue_ofNat (by decide)) zero_le_one two_pos hrange
  rwa [hquotient, hhalf] at hvalue

theorem nearest_above_three : nearest (3 + 2 ^ (-51 : ℤ) / 2) = 3 := by
  have hpos : (0 : ℚ) < 3 + 2 ^ (-51 : ℤ) / 2 := by positivity
  have hlog : Int.log 2 ((3 : ℚ) + 2 ^ (-51 : ℤ) / 2) = 1 := by
    apply le_antisymm
    · rw [← Int.lt_add_one_iff, ← Int.lt_zpow_iff_log_lt one_lt_two hpos]
      norm_num
    · rw [← Int.zpow_le_iff_le_log one_lt_two hpos]
      norm_num
  have hulp : ulpExponent ((3 : ℚ) + 2 ^ (-51 : ℤ) / 2) = -51 := by
    rw [ulpExponent, hlog]
    rfl
  have hfloor : ⌊((3 : ℚ) + 2 ^ (-51 : ℤ) / 2) / 2 ^ (-51 : ℤ)⌋ = 3 * 2 ^ 51 := by
    rw [Int.floor_eq_iff]
    norm_num
  -- A tie, and the last digit of three is even.
  rw [nearest, hulp, roundEven, hfloor]
  norm_num

theorem rounded_half : rounded (1 / 2) = 1 / 2 :=
  hasValue_half.rounded_eq

theorem rounded_three : rounded 3 = 3 :=
  HasValue.rounded_eq (hasValue_ofNat (by decide) : HasValue 3 3)

theorem rounded_sub_half {a : ℚ} (ha : rounded a = a) (hlow : 1 / 2 ≤ a) (hhigh : a ≤ 3) :
    rounded (a - 1 / 2) = a - 1 / 2 := by
  rcases hlow.eq_or_lt with rfl | hlow
  · simp
  rw [rounded_of_nonneg (by linarith)] at ha
  rw [rounded_of_nonneg (by linarith)]
  have hk : ulpExponent a ≤ -51 := ulpExponent_le (by linarith) (by decide) (by norm_num; linarith)
  obtain ⟨j, hj⟩ := exists_mul_two_zpow 1 (j := ulpExponent a) (k := -1) (by omega)
  have hgrid : a - 1 / 2 =
      (roundEven (a / 2 ^ ulpExponent a) - j : ℤ) * 2 ^ ulpExponent a := by
    have hhalf : (1 : ℚ) / 2 = j * 2 ^ ulpExponent a := by
      rw [← hj]
      norm_num
    have hself : a = roundEven (a / 2 ^ ulpExponent a) * 2 ^ ulpExponent a := ha.symm
    rw [Int.cast_sub, sub_mul, ← hhalf, ← hself]
  have hless : ulpExponent (a - 1 / 2) ≤ ulpExponent a :=
    ulpExponent_mono (by linarith) (by linarith)
  rw [hgrid] at hless ⊢
  exact nearest_eq_self hless

end Bounds

section Lerp

variable {a b d s : ℚ}

theorem rounded_lerp_le_three (ha : rounded a = a) (hlow : 1 / 2 ≤ a) (ha₃ : a ≤ 3) (hb₃ : b ≤ 3)
    (hd : d = rounded (b - a)) (hself : rounded d = d) (hs₀ : 0 ≤ s) (hs₁ : s ≤ 1) :
    rounded (a + rounded (d * s)) ≤ 3 := by
  rcases le_total a b with hab | hab
  · have hd₀ : 0 ≤ d := hd ▸ rounded_nonneg (sub_nonneg.mpr hab)
    have hpart : rounded (d * s) ≤ d := by
      calc rounded (d * s) ≤ rounded d := rounded_mono (mul_le_of_le_one_right hd₀ hs₁)
        _ = d := hself
    -- The way that is left may be rounded up, but by half of its last digit at most.
    have hway : d ≤ 3 - a + 2 ^ (-51 : ℤ) / 2 := by
      rcases ha₃.lt_or_eq with hlt | rfl
      · calc d = rounded (b - a) := hd
          _ ≤ rounded (3 - a) := rounded_mono (by linarith)
          _ = nearest (3 - a) := rounded_of_nonneg (by linarith)
          _ ≤ 3 - a + 2 ^ (-51 : ℤ) / 2 :=
              nearest_le_add (by linarith) (by decide) (by norm_num; linarith)
      · have hzero : b - 3 = 0 := by linarith
        rw [hd, hzero, rounded_zero]
        positivity
    -- Beyond three the sum rounds that half away.
    calc rounded (a + rounded (d * s)) ≤ rounded (3 + 2 ^ (-51 : ℤ) / 2) :=
          rounded_mono (by linarith)
      _ = 3 := by rw [rounded_of_nonneg (by positivity), nearest_above_three]
  · have hd₀ : d ≤ 0 := hd ▸ rounded_nonpos (sub_nonpos.mpr hab)
    have hpart : rounded (d * s) ≤ 0 := rounded_nonpos (mul_nonpos_of_nonpos_of_nonneg hd₀ hs₀)
    calc rounded (a + rounded (d * s)) ≤ rounded 3 := rounded_mono (by linarith)
      _ = 3 := rounded_three

theorem half_le_rounded_lerp (ha : rounded a = a) (hlow : 1 / 2 ≤ a) (ha₃ : a ≤ 3)
    (hb : 1 / 2 ≤ b) (hd : d = rounded (b - a)) (hself : rounded d = d) (hs₀ : 0 ≤ s)
    (hs₁ : s ≤ 1) : 1 / 2 ≤ rounded (a + rounded (d * s)) := by
  rw [← rounded_half]
  refine rounded_mono ?_
  rcases le_total a b with hab | hab
  · have hd₀ : 0 ≤ d := hd ▸ rounded_nonneg (sub_nonneg.mpr hab)
    have hpart : 0 ≤ rounded (d * s) := rounded_nonneg (mul_nonneg hd₀ hs₀)
    linarith
  · have hd₀ : d ≤ 0 := hd ▸ rounded_nonpos (sub_nonpos.mpr hab)
    have hway : 1 / 2 - a ≤ d := by
      calc 1 / 2 - a = -(a - 1 / 2) := by ring
        _ = rounded (-(a - 1 / 2)) := by rw [rounded_neg, rounded_sub_half ha hlow ha₃]
        _ ≤ rounded (b - a) := rounded_mono (by linarith)
        _ = d := hd.symm
    have hpart : d ≤ rounded (d * s) := by
      calc d = rounded d := hself.symm
        _ ≤ rounded (d * s) := rounded_mono (by nlinarith)
    linarith

end Lerp

/-- The zoom lies between one half and three. -/
def InZoomRange (zoom : Float) : Prop :=
  0.5 ≤ zoom ∧ zoom ≤ 3

section InZoomRange

variable {a b t zoom : Float} {s v : ℚ}

theorem inZoomRange_of_hasValue (h : HasValue zoom v) (hlow : 1 / 2 ≤ v) (hhigh : v ≤ 3) :
    InZoomRange zoom :=
  ⟨(hasValue_half.le_iff h).mpr hlow, (h.le_iff (hasValue_ofNat (by decide))).mpr hhigh⟩

theorem InZoomRange.hasValue (h : InZoomRange zoom) :
    ∃ v, HasValue zoom v ∧ 1 / 2 ≤ v ∧ v ≤ 3 := by
  rcases nan_or_infinite_or_hasValue zoom with rfl | rfl | rfl | ⟨v, hv⟩
  · exact absurd h.1 (by decide +kernel)
  · exact absurd h.2 (by decide +kernel)
  · exact absurd h.1 (by decide +kernel)
  · exact ⟨v, hv, (hasValue_half.le_iff hv).mp h.1,
      (hv.le_iff (hasValue_ofNat (by decide))).mp h.2⟩

theorem InZoomRange.isNaN (h : InZoomRange zoom) : zoom.isNaN = false := by
  obtain ⟨v, hv, -, -⟩ := h.hasValue
  exact hv.isNaN

theorem inZoomRange_one : InZoomRange 1 :=
  inZoomRange_of_hasValue (hasValue_ofNat (by decide)) (by norm_num) (by norm_num)

theorem inZoomRange_clampZoom (zoom : Float) : InZoomRange (clampZoom zoom) := by
  rcases nan_or_infinite_or_hasValue zoom with rfl | rfl | rfl | ⟨v, hv⟩
  · unfold InZoomRange
    decide +kernel
  · unfold InZoomRange
    decide +kernel
  · unfold InZoomRange
    decide +kernel
  · rw [clampZoom, hv.isNaN]
    have hthree : HasValue 3 3 := hasValue_ofNat (by decide)
    refine inZoomRange_of_hasValue (hasValue_clamp hasValue_half hthree hv) ?_ ?_
    · exact le_min (by norm_num) (le_max_left _ _)
    · exact min_le_left _ _

theorem InZoomRange.lerp (ha : InZoomRange a) (hb : InZoomRange b) (ht : HasValue t s)
    (hs₀ : 0 ≤ s) (hs₁ : s ≤ 1) : InZoomRange (lerp a b t) := by
  obtain ⟨v, hv, hv₁, hv₃⟩ := ha.hasValue
  obtain ⟨w, hw, hw₁, hw₃⟩ := hb.hasValue
  have hthree : HasValue 3 3 := hasValue_ofNat (by decide)
  have hway : HasValue (b - a) (rounded (w - v)) := by
    refine hw.sub hv (hthree.abs_rounded_lt ?_)
    rw [abs_le, abs_of_pos three_pos]
    constructor <;> linarith
  have hpart : HasValue ((b - a) * t) (rounded (rounded (w - v) * s)) := by
    refine hway.mul ht (hway.abs_rounded_lt ?_)
    rw [abs_mul, abs_of_nonneg hs₀]
    exact mul_le_of_le_one_right (abs_nonneg _) hs₁
  have hlow := half_le_rounded_lerp hv.rounded_eq hv₁ hv₃ hw₁ rfl hway.rounded_eq hs₀ hs₁
  have hhigh := rounded_lerp_le_three hv.rounded_eq hv₁ hv₃ hw₃ rfl hway.rounded_eq hs₀ hs₁
  refine inZoomRange_of_hasValue (hv.add hpart ?_) hlow hhigh
  rw [abs_of_nonneg (le_trans (by norm_num) hlow)]
  exact (hhigh.trans (le_abs_self 3)).trans_lt hthree.abs_lt

end InZoomRange

namespace Transform

/-- The zoom, and those that the tween in flight leads from and to. -/
def zooms (transform : Transform) : List Float :=
  transform.zoom :: (transform.tween.map fun tween => [tween.startZoom, tween.targetZoom]).getD []

variable {transform : Transform}

theorem inZoomRange_zoom (h : ∀ zoom ∈ transform.zooms, InZoomRange zoom) :
    InZoomRange transform.zoom :=
  h _ (by simp [zooms])

theorem inZoomRange_sample (h : ∀ zoom ∈ transform.zooms, InZoomRange zoom) (now : UInt64) :
    ∀ zoom ∈ (transform.sample now).zooms, InZoomRange zoom := by
  cases htween : transform.tween with
  | none => simpa [sample, htween] using h
  | some tween =>
      have hstart : InZoomRange tween.startZoom := h _ (by simp [zooms, htween])
      have htarget : InZoomRange tween.targetZoom := h _ (by simp [zooms, htween])
      have hlerp : InZoomRange (lerp tween.startZoom tween.targetZoom (tween.progress now)) :=
        hstart.lerp htarget (tween.hasValue_progress now) (tween.share_nonneg now)
          (tween.share_le_one now)
      simp only [sample, htween]
      split
      · simpa [zooms] using htarget
      · simpa [zooms] using ⟨hlerp, hstart, htarget⟩

theorem invariant_inZoomRange : Invariant fun transform =>
    ∀ zoom ∈ transform.zooms, InZoomRange zoom where
  start := by simpa [zooms] using inZoomRange_one
  framed := by
    intro position zoom
    simpa [zooms] using inZoomRange_clampZoom zoom
  settleAt := by
    intro transform position h
    simpa [zooms, settleAt] using inZoomRange_zoom h
  retarget := by
    intro transform position zoom now duration h
    simpa [zooms, retarget] using ⟨inZoomRange_zoom h, inZoomRange_clampZoom zoom⟩
  sample := fun _ now h => inZoomRange_sample h now

end Transform

namespace Stage

/-- Whatever was done with a stage, and with whatever numbers, the zoom of everything on it lies
between one half and three, and so do the ends of every tween in flight. That is also so at any
moment at which they may be looked at. -/
theorem zooms_stay_in_range (config : Config) {operations : List Operation} {deeds : List Deed}
    {stage : Stage} (hrun : run perform (.ofConfig config) operations = .ok (deeds, stage)) :
    ∀ transform,
      (transform = stage.background ∨ ∃ name, stage.transform? name = some transform) →
      (∀ zoom ∈ transform.zooms, 0.5 ≤ zoom ∧ zoom ≤ 3 ∧ zoom.isNaN = false) ∧
      ∀ now, ∀ zoom ∈ (transform.sample now).zooms, 0.5 ≤ zoom ∧ zoom ≤ 3 ∧
        zoom.isNaN = false := by
  intro transform htransform
  have heverywhere := everywhere_of_run Transform.invariant_inZoomRange config hrun
  have hzooms : ∀ zoom ∈ transform.zooms, InZoomRange zoom := by
    rcases htransform with rfl | ⟨name, hname⟩
    · exact heverywhere.background
    · exact heverywhere.transform hname
  refine ⟨fun zoom hzoom => ?_, fun now zoom hzoom => ?_⟩
  · have hrange := hzooms zoom hzoom
    exact ⟨hrange.1, hrange.2, hrange.isNaN⟩
  · have hrange := Transform.inZoomRange_sample hzooms now zoom hzoom
    exact ⟨hrange.1, hrange.2, hrange.isNaN⟩

/-- Tweens to zooms out of range and to no number at all, stopped half-way by one another, by a
hide and by another show. -/
def restlessRun : List Operation := [
  .showCharacter { name := "Aoi", spriteExtent := ⟨400, 900⟩ } 0.5 0.5,
  .moveCharacter "Aoi" 0.2 0.5 1000 7.5, .tick 300, .hideCharacter "Aoi",
  .showCharacter { name := "Aoi", spriteExtent := ⟨400, 900⟩ } Decimal.notANumber 0.5,
  .startTween (.character "Aoi") ⟨Decimal.infinity, 0⟩ 1000 Decimal.notANumber, .tick 600,
  .moveCharacter "Aoi" 0.8 0.5 1000 (-Decimal.infinity), .tick 900,
  .showBackground "park" 0.5 0.5 0.1, .moveBackground 0.1 0 500 2.5, .tick 1000]

theorem restlessRun_zooms_stay_in_range : ∃ deeds stage transform,
    run perform (.ofConfig .standard) restlessRun = .ok (deeds, stage) ∧
    stage.transform? "Aoi" = some transform ∧ transform.zooms.length = 3 ∧
    (∀ zoom ∈ transform.zooms, 0.5 ≤ zoom ∧ zoom ≤ 3 ∧ zoom.isNaN = false) ∧
    ∀ now, ∀ zoom ∈ (transform.sample now).zooms, 0.5 ≤ zoom ∧ zoom ≤ 3 ∧
      zoom.isNaN = false := by
  have hend : (run perform (.ofConfig .standard) restlessRun).toOption.map (fun result =>
      (result.2.transform? "Aoi").map (·.zooms.length)) = some (some 3) := by decide +kernel
  obtain ⟨⟨deeds, stage⟩, hrun, hend⟩ := exists_of_toOption_map_eq_some hend
  obtain ⟨transform, htransform, hlength⟩ := Option.map_eq_some_iff.mp hend
  exact ⟨deeds, stage, transform, hrun, htransform, hlength,
    zooms_stay_in_range .standard hrun transform (.inr ⟨"Aoi", htransform⟩)⟩

end Stage

end VisualNovel
