import VisualNovel.Proofs.Stage.Sampling
import VisualNovel.Stage

namespace VisualNovel

open Binary64

namespace Tween

variable (tween : Tween)

/-- The time at which the tween is to end. The clock may not go that far. -/
def endTime : ℕ :=
  tween.startTime.toNat + tween.duration.toNat

/-- The transform that the tween leads to. -/
def arrival : Transform where
  position := tween.targetPosition
  zoom := tween.targetZoom
  tween := none

theorem le_elapsed_of_endTime_le {now : UInt64} (h : tween.endTime ≤ now.toNat) :
    tween.duration.toNat ≤ (tween.elapsed now).toNat := by
  rw [toNat_elapsed]
  unfold endTime at h
  omega

theorem elapsed_lt_of_lt_endTime {now : UInt64} (hpos : 0 < tween.duration)
    (h : now.toNat < tween.endTime) : (tween.elapsed now).toNat < tween.duration.toNat := by
  have hduration : 0 < tween.duration.toNat := hpos
  rw [toNat_elapsed]
  unfold endTime at h
  omega

theorem one_le_progress_of_endTime_le {now : UInt64} (h : tween.endTime ≤ now.toNat) :
    1 ≤ tween.progress now := by
  have hunit : HasValue 1 1 := hasValue_ofNat (by decide)
  rw [hunit.le_iff (tween.hasValue_progress now), share]
  split
  · exact le_rfl
  · rename_i hduration
    have hone : 1 ≤ nearest tween.duration.toNat := one_le_nearest_toNat hduration
    -- Rounding keeps the order of the times, so their quotient still reaches one.
    have htimes : nearest tween.duration.toNat ≤ nearest (tween.elapsed now).toNat :=
      nearest_mono (Nat.cast_nonneg _) (by exact_mod_cast tween.le_elapsed_of_endTime_le h)
    have hquotient : 1 ≤ nearest (tween.elapsed now).toNat / nearest tween.duration.toNat :=
      (one_le_div (by linarith)).mpr htimes
    have hrounded : 1 ≤ nearest
        (nearest (tween.elapsed now).toNat / nearest tween.duration.toNat) := by
      calc (1 : ℚ) = nearest (1 : ℕ) := by rw [nearest_natCast (by decide), Nat.cast_one]
        _ ≤ nearest (nearest (tween.elapsed now).toNat / nearest tween.duration.toNat) :=
            nearest_mono (by simp) (by simpa using hquotient)
    exact le_min le_rfl (hrounded.trans (le_max_right _ _))

theorem not_one_le_progress_of_lt_endTime {now : UInt64} (hpos : 0 < tween.duration)
    (hdigits : tween.duration.toNat ≤ 2 ^ 53) (h : now.toNat < tween.endTime) :
    ¬ 1 ≤ tween.progress now := by
  have hless := tween.elapsed_lt_of_lt_endTime hpos h
  have hduration : tween.duration ≠ 0 := UInt64.pos_iff_ne_zero.mp hpos
  have hunit : HasValue 1 1 := hasValue_ofNat (by decide)
  rw [hunit.le_iff (tween.hasValue_progress now), not_le, share, if_neg hduration,
    nearest_natCast hdigits, nearest_natCast (hless.le.trans hdigits)]
  generalize (tween.elapsed now).toNat = elapsed at hless ⊢
  generalize tween.duration.toNat = duration at hdigits hless ⊢
  have hdurationq : (0 : ℚ) < duration := by exact_mod_cast Nat.zero_lt_of_lt hless
  -- One millisecond of the longest such duration is the last digit of a number below one.
  have hquotient : (elapsed : ℚ) / duration ≤ 1 - 2 ^ (-53 : ℤ) := by
    have hearlier : (elapsed : ℚ) + 1 ≤ duration := by exact_mod_cast hless
    have hlong : (duration : ℚ) ≤ 2 ^ 53 := by exact_mod_cast hdigits
    have hdigit : 2 ^ (-53 : ℤ) * (duration : ℚ) ≤ 1 := by
      calc 2 ^ (-53 : ℤ) * (duration : ℚ) ≤ 2 ^ (-53 : ℤ) * 2 ^ 53 :=
            mul_le_mul_of_nonneg_left hlong (two_zpow_pos _).le
        _ = 1 := by norm_num
    rw [div_le_iff₀ hdurationq]
    linarith
  exact min_lt_of_right_lt (max_lt one_pos
    (nearest_lt_one (div_nonneg (Nat.cast_nonneg _) hdurationq.le) hquotient))

theorem one_le_progress_iff (hpos : 0 < tween.duration) (hdigits : tween.duration.toNat ≤ 2 ^ 53)
    (now : UInt64) : 1 ≤ tween.progress now ↔ tween.endTime ≤ now.toNat := by
  refine ⟨fun hdone => ?_, tween.one_le_progress_of_endTime_le⟩
  by_contra hearly
  exact tween.not_one_le_progress_of_lt_endTime hpos hdigits (not_le.mp hearly) hdone

theorem one_le_progress_of_duration_eq_zero (h : tween.duration = 0) (now : UInt64) :
    1 ≤ tween.progress now := by
  rw [progress, if_pos h]
  decide +kernel

end Tween

namespace Transform

variable {transform : Transform} {tween : Tween} {now : UInt64}

theorem tween_sample_eq_some_iff : (transform.sample now).tween = some tween ↔
    transform.tween = some tween ∧ ¬ 1 ≤ tween.progress now := by
  cases htween : transform.tween with
  | none => simp [sample, htween]
  | some found =>
      by_cases hdone : 1 ≤ found.progress now
      · simp only [sample, htween, hdone, ↓reduceIte]
        constructor
        · intro h
          cases h
        · rintro ⟨h, hnot⟩
          cases h
          exact absurd hdone hnot
      · simp only [sample, htween, hdone, ↓reduceIte]
        constructor
        · intro h
          cases h
          exact ⟨rfl, hdone⟩
        · exact And.left

theorem sample_eq_arrival_iff (htween : transform.tween = some tween) :
    transform.sample now = tween.arrival ↔ 1 ≤ tween.progress now := by
  constructor
  · intro harrival
    by_contra hnot
    have hflying := tween_sample_eq_some_iff.mpr ⟨htween, hnot⟩
    rw [harrival] at hflying
    cases hflying
  · intro hdone
    simp only [sample, htween, hdone, ↓reduceIte]
    rfl

end Transform

namespace Stage

/-- The transform of the background, or of someone who was ever shown, hidden or not. -/
def standing? (stage : Stage) : Target → Option Transform
  | .background => some stage.background
  | .character name => stage.transform? name

theorem standing?_tick (stage : Stage) (now : UInt64) (target : Target) :
    (stage.tick now).standing? target = (stage.standing? target).map (·.sample now) := by
  cases target with
  | background => rfl
  | character name =>
      simp only [standing?, transform?, actor?, tick, Std.ExtTreeMap.getElem?_map, Option.map_map]
      rfl

/-- A tick at the end of a tween, or later, leaves what was moved exactly where the tween leads,
without the tween. Before its end a tween of up to 53 digits stays in flight as it is, while one
without length is done at any time. So no tween is overdue after a tick. -/
theorem tweens_end_on_time (stage : Stage) (now : UInt64) :
    (∀ target before tween, stage.standing? target = some before → before.tween = some tween →
      ∃ after, (stage.tick now).standing? target = some after ∧
        (tween.duration = 0 → after = tween.arrival) ∧
        (0 < tween.duration → tween.duration.toNat ≤ 2 ^ 53 →
          (after = tween.arrival ↔ tween.endTime ≤ now.toNat) ∧
          (after.tween = some tween ↔ now.toNat < tween.endTime)) ∧
        (2 ^ 53 < tween.duration.toNat → tween.endTime ≤ now.toNat → after = tween.arrival)) ∧
    ∀ target after tween, (stage.tick now).standing? target = some after →
      after.tween = some tween → now.toNat < tween.endTime := by
  constructor
  · intro target before tween hbefore htween
    refine ⟨before.sample now, by rw [standing?_tick, hbefore, Option.map_some], ?_, ?_, ?_⟩
    · intro hduration
      exact (Transform.sample_eq_arrival_iff htween).mpr
        (tween.one_le_progress_of_duration_eq_zero hduration now)
    · intro hpos hdigits
      have hdone := tween.one_le_progress_iff hpos hdigits now
      rw [Transform.sample_eq_arrival_iff htween, Transform.tween_sample_eq_some_iff, hdone, not_le]
      exact ⟨Iff.rfl, and_iff_right htween⟩
    · intro _ hlate
      exact (Transform.sample_eq_arrival_iff htween).mpr (tween.one_le_progress_of_endTime_le hlate)
  · intro target after tween hafter htween
    rw [standing?_tick, Option.map_eq_some_iff] at hafter
    obtain ⟨before, -, rfl⟩ := hafter
    have hnot := (Transform.tween_sample_eq_some_iff.mp htween).2
    exact not_le.mp fun hlate => hnot (tween.one_le_progress_of_endTime_le hlate)

/-- A walk of almost three hundred thousand years. -/
def longWalk : Tween :=
  ⟨⟨100, 40⟩, ⟨700, 40⟩, 1, 1.5, 3, 9007199254740992⟩

/-- A change of place at the end of all time, without length. -/
def lateJump : Tween :=
  ⟨⟨0, 0⟩, ⟨300, 20⟩, 1, 2, 18446744073709551615, 0⟩

def endlessPan : Tween :=
  ⟨⟨0, 0⟩, ⟨90, 0⟩, 1, 2, 1, 18446744073709551614⟩

/-- A stage that is not at rest soon; nobody is seen on it. -/
def marathon : Stage :=
  { Stage.ofConfig .standard with
    actors := (Std.ExtTreeMap.empty.insert "Aoi"
      { transform := { tween := some longWalk }, extent := ⟨400, 900⟩ }).insert "Ren"
      { transform := { tween := some lateJump }, extent := ⟨400, 900⟩ }
    background := { tween := some endlessPan } }

theorem marathon_ends_on_time :
    (∃ after, (marathon.tick 9007199254740994).standing? (.character "Aoi") = some after ∧
      after.tween = some longWalk) ∧
    (marathon.tick 9007199254740995).standing? (.character "Aoi") = some longWalk.arrival ∧
    (marathon.tick 0).standing? (.character "Ren") = some lateJump.arrival ∧
    (marathon.tick 18446744073709551615).standing? .background = some endlessPan.arrival ∧
    ∀ target after tween, (marathon.tick 9007199254740994).standing? target = some after →
      after.tween = some tween → 9007199254740994 < tween.endTime := by
  have hwalk : marathon.standing? (.character "Aoi") = some { tween := some longWalk } := by
    decide +kernel
  have hjump : marathon.standing? (.character "Ren") = some { tween := some lateJump } := by
    decide +kernel
  obtain ⟨hends, hnone⟩ := marathon.tweens_end_on_time 9007199254740994
  obtain ⟨early, hearly, -, hflies, -⟩ := hends _ _ _ hwalk rfl
  obtain ⟨last, hlast, -, harrives, -⟩ :=
    (marathon.tweens_end_on_time 9007199254740995).1 _ _ _ hwalk rfl
  obtain ⟨jumped, hjumped, hjumps, -, -⟩ := (marathon.tweens_end_on_time 0).1 _ _ _ hjump rfl
  obtain ⟨panned, hpanned, -, -, hpans⟩ :=
    (marathon.tweens_end_on_time 18446744073709551615).1 .background _ endlessPan rfl rfl
  refine ⟨⟨early, hearly, ?_⟩, ?_, ?_, ?_, hnone⟩
  · exact (hflies (by decide) (by decide)).2.mpr (by decide)
  · rw [hlast, (harrives (by decide) (by decide)).1.mpr (by decide)]
  · rw [hjumped, hjumps (by decide)]
  · rw [hpanned, hpans (by decide) (by decide)]

end Stage

end VisualNovel
