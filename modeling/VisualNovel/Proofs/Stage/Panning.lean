import VisualNovel.Proofs.Stage.Timeless
import VisualNovel.Proofs.Stage.Zoom

namespace VisualNovel

open Binary64

/-- Both coordinates have a value. -/
def Point.IsFinite (point : Point) : Prop :=
  point.x.isFinite = true ∧ point.y.isFinite = true

instance (point : Point) : Decidable point.IsFinite :=
  inferInstanceAs (Decidable (_ ∧ _))

section Factor

variable {x y z : Float} {v w u : ℚ}

theorem exists_hasValue_sub (hx : HasValue x v) (hy : HasValue y w) (hz : HasValue z u)
    (hlow : w ≤ v) (hhigh : v - w ≤ u) : ∃ d, HasValue (x - y) d ∧ 0 ≤ d ∧ d ≤ u := by
  have hnonneg : 0 ≤ v - w := sub_nonneg.mpr hlow
  have habs : |v - w| ≤ |u| := abs_le_abs_of_nonneg hnonneg hhigh
  refine ⟨rounded (v - w), hx.sub hy (hz.abs_rounded_lt habs), rounded_nonneg hnonneg, ?_⟩
  calc rounded (v - w) ≤ rounded u := rounded_mono hhigh
    _ = u := hz.rounded_eq

theorem exists_hasValue_div (hx : HasValue x v) (hy : HasValue y w) (hnonneg : 0 ≤ v)
    (hpos : 0 < w) (hle : v ≤ w) : ∃ d, HasValue (x / y) d ∧ 0 ≤ d ∧ d ≤ 1 := by
  have hquotient : 0 ≤ v / w := div_nonneg hnonneg hpos.le
  have hone : v / w ≤ 1 := (div_le_one hpos).mpr hle
  have hrange : v / w ≤ 2 ^ (1023 : ℤ) := hone.trans (one_le_zpow₀ one_le_two (by decide))
  refine ⟨nearest (v / w), hx.div hy hnonneg hpos hrange, nearest_nonneg hquotient, ?_⟩
  calc nearest (v / w) ≤ nearest 1 := nearest_mono hquotient hone
    _ = 1 := by
      rw [← rounded_of_nonneg zero_le_one]
      exact HasValue.rounded_eq (hasValue_ofNat (by decide) : HasValue 1 1)

theorem InZoomRange.panFactor {zoom : Float} (h : InZoomRange zoom) :
    ∃ v, HasValue (Framing.panFactor zoom) v ∧ 0 ≤ v ∧ v ≤ 1 := by
  obtain ⟨v, hv, hlow, hhigh⟩ := h.hasValue
  have hunit : HasValue 1 1 := hasValue_ofNat (by decide)
  have htwo : HasValue 2 2 := hasValue_ofNat (by decide)
  unfold Framing.panFactor
  split
  · rename_i hle
    have hone : 1 ≤ v := (hunit.le_iff hv).mp hle
    obtain ⟨d, hd, hd₀, hd₂⟩ := exists_hasValue_sub hv hunit htwo hone (by linarith)
    exact exists_hasValue_div hd htwo hd₀ two_pos hd₂
  · rename_i hnot
    have hone : v ≤ 1 := by
      rw [hunit.le_iff hv] at hnot
      exact (not_le.mp hnot).le
    obtain ⟨d, hd, hd₀, hd₁⟩ := exists_hasValue_sub hunit hv hunit hone (by linarith)
    exact exists_hasValue_div hd (hasValue_ofNat (by decide)) hd₀ four_pos
      (hd₁.trans (by norm_num))

end Factor

section Limit

variable {factor extent scale : Float} {v : ℚ}

theorem isNaN_limit (hfactor : HasValue factor v) (hpart : 0 ≤ v ∧ v ≤ 1)
    (hextent : extent.isFinite = true) (hscale : scale.isFinite = true) :
    (factor * extent * scale).isNaN = false := by
  obtain ⟨e, he⟩ := isFinite_iff.mp hextent
  obtain ⟨s, hs⟩ := isFinite_iff.mp hscale
  have hle : |v * e| ≤ |e| := by
    rw [abs_mul, abs_of_nonneg hpart.1]
    exact mul_le_of_le_one_left (abs_nonneg e) hpart.2
  exact (hfactor.mul he (he.abs_rounded_lt hle)).isNaN_mul hs

theorem isNaN_zero_limit_iff (hfactor : HasValue factor 0) :
    (factor * extent * scale).isNaN = false ↔
      extent.isFinite = true ∧ scale.isFinite = true := by
  constructor
  · intro hnumber
    -- Without a finite extent there is no number already; with one, zero is left for the scale.
    cases hextent : extent.isFinite with
    | false =>
        rw [zero_mul_of_not_isFinite hfactor hextent, nan_mul] at hnumber
        cases hnumber
    | true =>
        obtain ⟨e, he⟩ := isFinite_iff.mp hextent
        have hle : |0 * e| ≤ |e| := by simp
        have hzero := hfactor.mul he (he.abs_rounded_lt hle)
        rw [zero_mul, rounded_zero] at hzero
        cases hscale : scale.isFinite with
        | false =>
            rw [zero_mul_of_not_isFinite hzero hscale] at hnumber
            cases hnumber
        | true => exact ⟨rfl, rfl⟩
  · rintro ⟨hextent, hscale⟩
    exact isNaN_limit hfactor ⟨le_rfl, zero_le_one⟩ hextent hscale

end Limit

namespace Framing

variable (framing : Framing)

theorem canPan_iff (zoom : Float) : framing.canPan zoom = true ↔
    (panFactor (clampZoom zoom) * framing.virtualExtent.x * framing.scale.x).isNaN = false ∧
    (panFactor (clampZoom zoom) * framing.virtualExtent.y * framing.scale.y).isNaN = false := by
  rw [canPan, Bool.and_eq_true, decide_eq_true_iff, decide_eq_true_iff]
  exact and_congr (neg_abs_le_abs_iff _) (neg_abs_le_abs_iff _)

theorem canPan_of_isFinite {framing : Framing} (hextent : framing.virtualExtent.IsFinite)
    (hscale : framing.scale.IsFinite) (zoom : Float) : framing.canPan zoom = true := by
  obtain ⟨v, hv, hpart⟩ := (inZoomRange_clampZoom zoom).panFactor
  rw [canPan_iff]
  exact ⟨isNaN_limit hv hpart hextent.1 hscale.1, isNaN_limit hv hpart hextent.2 hscale.2⟩

theorem canPan_one_iff : framing.canPan 1 = true ↔
    framing.virtualExtent.IsFinite ∧ framing.scale.IsFinite := by
  -- No part of the extent is left to pan, and zero times infinity is not a number.
  have hfactor : panFactor (clampZoom 1) = 0 := by decide +kernel
  have hzero : HasValue 0 0 := hasValue_ofNat (by decide)
  rw [canPan_iff, hfactor, isNaN_zero_limit_iff hzero, isNaN_zero_limit_iff hzero]
  exact and_and_and_comm

end Framing

namespace Stage

theorem exists_moveCharacter_eq_ok (stage : Stage) (name : String) (x y : Float)
    (duration : UInt64) (zoom : Float) :
    ∃ result, stage.moveCharacter name x y duration zoom = .ok result := by
  obtain ⟨result, hmove, -⟩ := exists_of_map_eq_ok (stage.map_moveCharacter name x y duration zoom)
  exact ⟨result, hmove⟩

section CanPan

variable {stage : Stage}

theorem exists_startTween_eq_ok (hpan : ∀ zoom, stage.framing.canPan zoom = true) (target : Target)
    (position : Point) (duration : UInt64) (zoom : Float) :
    ∃ result, stage.startTween target position duration zoom = .ok result := by
  cases target with
  | background =>
      simp only [startTween, Framing.clampPan_eq, hpan, ↓reduceIte]
      exact ⟨_, rfl⟩
  | character name =>
      simp only [startTween]
      split <;> exact ⟨_, rfl⟩

theorem exists_showBackground_eq_ok (hpan : ∀ zoom, stage.framing.canPan zoom = true)
    (name : String) (x y zoom : Float) :
    ∃ next, stage.showBackground name x y zoom = .ok next := by
  simp only [showBackground, Framing.clampPan_eq, hpan, ↓reduceIte]
  exact ⟨_, rfl⟩

theorem exists_moveBackground_eq_ok (hpan : ∀ zoom, stage.framing.canPan zoom = true)
    (dx dy : Float) (duration : UInt64) (zoom : Float) :
    ∃ result, stage.moveBackground dx dy duration zoom = .ok result :=
  exists_startTween_eq_ok hpan .background _ duration zoom

theorem exists_perform_eq_ok (hpan : ∀ zoom, stage.framing.canPan zoom = true)
    (operation : Operation) : ∃ answer next, stage.perform operation = .ok (answer, next) := by
  cases operation with
  | moveCharacter name x y duration zoom =>
      obtain ⟨result, hresult⟩ := stage.exists_moveCharacter_eq_ok name x y duration zoom
      exact ⟨_, _, by rw [perform, hresult]; rfl⟩
  | startTween target position duration zoom =>
      obtain ⟨result, hresult⟩ := exists_startTween_eq_ok hpan target position duration zoom
      exact ⟨_, _, by rw [perform, hresult]; rfl⟩
  | showBackground name x y zoom =>
      obtain ⟨result, hresult⟩ := exists_showBackground_eq_ok hpan name x y zoom
      exact ⟨_, _, by rw [perform, hresult]; rfl⟩
  | moveBackground dx dy duration zoom =>
      obtain ⟨result, hresult⟩ := exists_moveBackground_eq_ok hpan dx dy duration zoom
      exact ⟨_, _, by rw [perform, hresult]; rfl⟩
  | _ => exact ⟨_, _, rfl⟩

end CanPan

end Stage

end VisualNovel
