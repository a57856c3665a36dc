import VisualNovel.Proofs.Stage.Panning

namespace VisualNovel

open Binary64

section Limit

variable {lower upper x : Float}

theorem clamp_mem (hbounds : lower ≤ upper) (hnumber : (clamp lower upper x).isNaN = false) :
    lower ≤ clamp lower upper x ∧ clamp lower upper x ≤ upper := by
  obtain ⟨hlower, hupper⟩ := isNaN_of_le hbounds
  unfold clamp at hnumber ⊢
  by_cases hlow : x < lower
  · have hbetween : ¬ upper < lower := (not_lt_iff hupper hlower).mpr hbounds
    simp only [hlow, hbetween, ↓reduceIte]
    exact ⟨le_self hlower, hbounds⟩
  · by_cases hhigh : upper < x
    · simp only [hlow, hhigh, ↓reduceIte]
      exact ⟨hbounds, le_self hupper⟩
    · simp only [hlow, hhigh, ↓reduceIte] at hnumber ⊢
      exact ⟨(not_lt_iff hnumber hlower).mp hlow, (not_lt_iff hupper hnumber).mp hhigh⟩

theorem zero_mem_of_isNaN (hx : x.isNaN = false) : -x.abs ≤ 0 ∧ 0 ≤ x.abs := by
  have hzero : HasValue 0 0 := hasValue_ofNat (by decide)
  rcases nan_or_infinite_or_hasValue x with rfl | rfl | rfl | ⟨v, hv⟩
  · cases hx
  · decide +kernel
  · decide +kernel
  · exact ⟨(hv.abs.neg.le_iff hzero).mpr (neg_nonpos.mpr (abs_nonneg v)),
      (hzero.le_iff hv.abs).mpr (abs_nonneg v)⟩

theorem isFinite_abs_limit {factor extent scale : Float} {v : ℚ} (hfactor : HasValue factor v)
    (hpart : 0 ≤ v ∧ v ≤ 1) (hextent : extent.isFinite = true)
    (hscale : 0 ≤ scale ∧ scale ≤ 1) : (factor * extent * scale).abs.isFinite = true := by
  have hnumber : ∃ s, HasValue scale s := by
    rcases nan_or_infinite_or_hasValue scale with rfl | rfl | rfl | hs
    · exact absurd hscale.1 (by decide +kernel)
    · exact absurd hscale.2 (by decide +kernel)
    · exact absurd hscale.1 (by decide +kernel)
    · exact hs
  obtain ⟨e, he⟩ := isFinite_iff.mp hextent
  obtain ⟨s, hs⟩ := hnumber
  have hlow : 0 ≤ s := (HasValue.le_iff (hasValue_ofNat (by decide)) hs).mp hscale.1
  have hhigh : s ≤ 1 := (hs.le_iff (hasValue_ofNat (by decide))).mp hscale.2
  have hpan : HasValue (factor * extent) (rounded (v * e)) := by
    refine hfactor.mul he (he.abs_rounded_lt ?_)
    rw [abs_mul, abs_of_nonneg hpart.1]
    exact mul_le_of_le_one_left (abs_nonneg e) hpart.2
  have hlimit : HasValue (factor * extent * scale) (rounded (rounded (v * e) * s)) := by
    refine hpan.mul hs (hpan.abs_rounded_lt ?_)
    rw [abs_mul, abs_of_nonneg hlow]
    exact mul_le_of_le_one_right (abs_nonneg _) hhigh
  exact isFinite_iff.mpr ⟨_, hlimit.abs⟩

theorem isNaN_of_isFinite_abs (h : x.abs.isFinite = true) : x.isNaN = false := by
  rcases nan_or_infinite_or_hasValue x with rfl | rfl | rfl | ⟨v, hv⟩
  · revert h
    decide +kernel
  · rfl
  · rfl
  · exact hv.isNaN

end Limit

namespace Framing

variable {framing : Framing} {zoom : Float} {offset position : Point}

/-- The offset lies within the pan limits of the zoom, on each axis on which it is a number. -/
structure Allows (framing : Framing) (zoom : Float) (offset : Point) : Prop where
  x : offset.x.isNaN = false →
    -(framing.panRange zoom).x ≤ offset.x ∧ offset.x ≤ (framing.panRange zoom).x
  y : offset.y.isNaN = false →
    -(framing.panRange zoom).y ≤ offset.y ∧ offset.y ≤ (framing.panRange zoom).y

theorem allows_of_clampPan (h : framing.clampPan offset zoom = .ok position) :
    framing.Allows zoom position := by
  rw [clampPan_eq] at h
  split at h
  · rename_i hcan
    cases h
    rw [canPan, Bool.and_eq_true, decide_eq_true_iff, decide_eq_true_iff] at hcan
    exact ⟨clamp_mem hcan.1, clamp_mem hcan.2⟩
  · cases h

theorem allows_origin (hcan : framing.canPan zoom = true) : framing.Allows zoom .origin := by
  obtain ⟨hx, hy⟩ := (framing.canPan_iff zoom).mp hcan
  exact ⟨fun _ => zero_mem_of_isNaN hx, fun _ => zero_mem_of_isNaN hy⟩

theorem canPan_of_isFinite_panRange (h : (framing.panRange zoom).IsFinite) :
    framing.canPan zoom = true :=
  (framing.canPan_iff zoom).mpr ⟨isNaN_of_isFinite_abs h.1, isNaN_of_isFinite_abs h.2⟩

theorem isFinite_panRange (hextent : framing.virtualExtent.IsFinite)
    (hx : 0 ≤ framing.scale.x ∧ framing.scale.x ≤ 1)
    (hy : 0 ≤ framing.scale.y ∧ framing.scale.y ≤ 1) (zoom : Float) :
    (framing.panRange zoom).IsFinite := by
  obtain ⟨v, hv, hpart⟩ := (inZoomRange_clampZoom zoom).panFactor
  exact ⟨isFinite_abs_limit hv hpart hextent.1 hx, isFinite_abs_limit hv hpart hextent.2 hy⟩

end Framing

/-- The place and the zoom at which a transform rests, or will rest when its tween is done. -/
def Transform.destination (transform : Transform) : Point × Float :=
  match transform.tween with
  | none => (transform.position, transform.zoom)
  | some tween => (tween.targetPosition, tween.targetZoom)

theorem Transform.destination_sample (transform : Transform) (now : UInt64) :
    (transform.sample now).destination = transform.destination := by
  obtain ⟨position, zoom, tween⟩ := transform
  cases tween with
  | none => rfl
  | some tween =>
      simp only [sample]
      split <;> rfl

/-- What may become of the place that a background is bound for. -/
inductive Rebinds (framing : Framing) (before after : Transform) : Prop
  | kept (hsame : after.destination = before.destination)
  | cleared (hcleared : after = {})
  | clamped (zoom : Float) (offset position : Point)
      (hclamp : framing.clampPan offset zoom = .ok position)
      (hbound : after.destination = (position, zoom))

namespace Stage

section Operations

variable {stage next : Stage} {answer : Answer}

theorem rebinds_startTween {target : Target} {position : Point} {duration : UInt64} {zoom : Float}
    (h : (stage.startTween target position duration zoom).map (Prod.map .found id) =
      .ok (answer, next)) :
    next.framing = stage.framing ∧ Rebinds stage.framing stage.background next.background := by
  obtain ⟨⟨found, result⟩, hstart, hsame⟩ := exists_of_map_eq_ok h
  cases hsame
  rcases startTween_cases hstart with ⟨offset, hclamp, rfl⟩ | rfl | ⟨name, actor, hactor, rfl⟩
  · exact ⟨rfl, .clamped _ _ offset hclamp rfl⟩
  · exact ⟨rfl, .kept rfl⟩
  · exact ⟨rfl, .kept rfl⟩

/-- Every operation leaves the background bound for the same place, takes it down, or binds it for
an offset that was clamped at the zoom there. -/
theorem rebinds_perform {operation : Operation}
    (hperform : stage.perform operation = .ok (answer, next)) :
    next.framing = stage.framing ∧ Rebinds stage.framing stage.background next.background := by
  cases operation with
  | showCharacter identity x y =>
      cases hperform
      exact ⟨rfl, .kept rfl⟩
  | hideCharacter name =>
      cases hperform
      rw [hideCharacter]
      split <;> exact ⟨rfl, .kept rfl⟩
  | moveCharacter name x y duration zoom =>
      obtain ⟨position, heq⟩ := stage.exists_moveCharacter_eq_startTween name x y duration zoom
      rw [perform, heq] at hperform
      exact rebinds_startTween hperform
  | startTween target position duration zoom => exact rebinds_startTween hperform
  | showBackground name x y zoom =>
      obtain ⟨result, hshow, hperform⟩ := exists_of_map_eq_ok hperform
      cases hperform
      obtain ⟨offset, position, hclamp, rfl⟩ := showBackground_cases hshow
      exact ⟨rfl, .clamped _ offset position hclamp rfl⟩
  | moveBackground dx dy duration zoom =>
      rw [perform, moveBackground] at hperform
      exact rebinds_startTween hperform
  | tick now =>
      cases hperform
      exact ⟨rfl, .kept (stage.background.destination_sample now)⟩
  | clear =>
      cases hperform
      exact ⟨rfl, .cleared rfl⟩

end Operations

/-- The background is bound for an offset within the limits of the zoom that it will have there. -/
structure Framed (config : Config) (stage : Stage) : Prop where
  framing : stage.framing = .ofConfig config
  allows : stage.framing.Allows stage.background.destination.2 stage.background.destination.1

section Framed

variable {config : Config} {stage next : Stage} {answer : Answer} {operation : Operation}

theorem framed_ofConfig (hpan : ∀ zoom, (Framing.ofConfig config).canPan zoom = true) :
    (ofConfig config).Framed config :=
  ⟨rfl, Framing.allows_origin (hpan 1)⟩

theorem Framed.perform (hpan : ∀ zoom, (Framing.ofConfig config).canPan zoom = true)
    (h : stage.Framed config) (hperform : stage.perform operation = .ok (answer, next)) :
    next.Framed config := by
  obtain ⟨hframing, hrebinds⟩ := rebinds_perform hperform
  refine ⟨hframing.trans h.framing, ?_⟩
  rw [hframing]
  cases hrebinds with
  | kept hsame =>
      rw [hsame]
      exact h.allows
  | cleared hcleared =>
      rw [hcleared, h.framing]
      exact Framing.allows_origin (hpan 1)
  | clamped zoom offset position hclamp hbound =>
      rw [hbound]
      exact Framing.allows_of_clampPan hclamp

theorem exists_framed_run (hpan : ∀ zoom, (Framing.ofConfig config).canPan zoom = true)
    (operations : List Operation) : ∃ deeds stage,
      run Stage.perform (ofConfig config) operations = .ok (deeds, stage) ∧
        stage.Framed config := by
  refine Run.exists_run_eq_ok ?_ (framed_ofConfig hpan)
  intro stage operation _ h
  obtain ⟨answer, next, hperform⟩ := exists_perform_eq_ok (h.framing ▸ hpan) operation
  exact ⟨answer, next, hperform, h.perform hpan hperform⟩

end Framed

/-- Where the pan limits are finite at every zoom, every run goes through, and a background at rest
lies within the limits of its zoom, while one in motion is bound for an offset within the limits of
the zoom that it is bound for. -/
theorem background_stays_in_pan_range (config : Config)
    (hfinite : ∀ zoom, ((Framing.ofConfig config).panRange zoom).IsFinite)
    (operations : List Operation) :
    ∃ deeds stage, run perform (.ofConfig config) operations = .ok (deeds, stage) ∧
      (stage.background.tween = none →
        (Framing.ofConfig config).Allows stage.background.zoom stage.background.position) ∧
      ∀ tween, stage.background.tween = some tween →
        (Framing.ofConfig config).Allows tween.targetZoom tween.targetPosition := by
  have hpan : ∀ zoom, (Framing.ofConfig config).canPan zoom = true := fun zoom =>
    Framing.canPan_of_isFinite_panRange (hfinite zoom)
  obtain ⟨deeds, stage, hrun, hframed⟩ := exists_framed_run hpan operations
  have hallows := hframed.allows
  rw [hframed.framing] at hallows
  refine ⟨deeds, stage, hrun, ?_, ?_⟩
  · intro hrest
    simpa only [Transform.destination, hrest] using hallows
  · intro tween hmoving
    simpa only [Transform.destination, hmoving] using hallows

/-- Pans beyond every edge and by no number at all, each from the middle of the one before, and to
other zooms than the one that the background has. -/
def widePan : List Operation := [
  .showBackground "park" 0.9 0.1 2.5, .moveBackground 5 (-5) 1000 0.7, .tick 600,
  .moveBackground Decimal.notANumber 0.2 1000 7.5, .tick 900,
  .startTween .background ⟨Decimal.infinity, -Decimal.infinity⟩ 400 0.1, .tick 1000]

theorem widePan_stays_in_pan_range :
    (∀ zoom, ((Framing.ofConfig .standard).panRange zoom).IsFinite) ∧
    ∃ deeds stage tween, run perform (.ofConfig .standard) widePan = .ok (deeds, stage) ∧
      stage.background.tween = some tween ∧ tween.targetPosition = ⟨160, -90⟩ ∧
      (Framing.ofConfig .standard).Allows tween.targetZoom tween.targetPosition := by
  have hfinite : ∀ zoom, ((Framing.ofConfig .standard).panRange zoom).IsFinite :=
    Framing.isFinite_panRange (by decide +kernel) (by decide +kernel) (by decide +kernel)
  obtain ⟨deeds, stage, hrun, -, hmoving⟩ :=
    background_stays_in_pan_range .standard hfinite widePan
  have hend : (run perform (.ofConfig .standard) widePan).toOption.map (fun result =>
      result.2.background.tween.map Tween.targetPosition) = some (some ⟨160, -90⟩) := by
    decide +kernel
  rw [hrun] at hend
  obtain ⟨tween, htween, hposition⟩ := Option.map_eq_some_iff.mp (Option.some.inj hend)
  exact ⟨hfinite, deeds, stage, tween, hrun, htween, hposition, hmoving tween htween⟩

end Stage

end VisualNovel
