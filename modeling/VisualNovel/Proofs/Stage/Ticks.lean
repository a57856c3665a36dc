import VisualNovel.Proofs.Stage.Sampling
import VisualNovel.Stage

namespace VisualNovel

theorem Transform.sample_sample (transform : Transform) {now later : UInt64} (h : now ≤ later) :
    (transform.sample now).sample later = transform.sample later := by
  obtain ⟨position, zoom, tween⟩ := transform
  cases tween with
  | none => rfl
  | some tween =>
      -- A tween that the first sample lets go of would be done by the later one too.
      by_cases hdone : 1 ≤ tween.progress now
      · have hlater : 1 ≤ tween.progress later := tween.one_le_progress_mono h hdone
        simp only [sample, hdone, hlater, ↓reduceIte]
      · simp only [sample, hdone, ↓reduceIte]

namespace Stage

variable (stage : Stage)

theorem tick_tick {now later : UInt64} (h : now ≤ later) :
    (stage.tick now).tick later = stage.tick later := by
  simp only [tick, Std.ExtTreeMap.map_map, Transform.sample_sample _ h]

/-- The stage does not depend on the frame rate: ticks at times that do not decrease leave the
stage that the last of them leaves alone. -/
theorem foldl_tick_eq_last_tick {times : List UInt64} (hne : times ≠ [])
    (hsorted : times.Pairwise (· ≤ ·)) :
    times.foldl tick stage = stage.tick (times.getLast hne) := by
  induction times generalizing stage with
  | nil => exact absurd rfl hne
  | cons first times ih =>
      obtain ⟨hfirst, hrest⟩ := List.pairwise_cons.mp hsorted
      cases times with
      | nil => rfl
      | cons second times =>
          rw [List.foldl_cons, ih (stage.tick first) (List.cons_ne_nil second times) hrest,
            List.getLast_cons (List.cons_ne_nil second times)]
          exact stage.tick_tick (hfirst _ (List.getLast_mem _))

/-- A walk that is over before the background has come to rest. -/
def stroll : Stage :=
  { Stage.ofConfig .standard with
    clock := 80
    actors := Std.ExtTreeMap.empty.insert "Aoi"
      { transform := { tween := some ⟨⟨100, 40⟩, ⟨700, 40⟩, 1, 1.5, 100, 400⟩ }
        extent := ⟨400, 900⟩ }
    background := { tween := some ⟨⟨0, 0⟩, ⟨90, 0⟩, 1.25, 1.25, 80, 1000⟩ } }

theorem stroll_looked_at_often : [90, 200, 200, 700].foldl tick stroll = stroll.tick 700 ∧
    ((stroll.tick 200).transform? "Aoi").map Transform.isTweening = some true ∧
    ((stroll.tick 700).transform? "Aoi").map Transform.position = some ⟨700, 40⟩ ∧
    ((stroll.tick 700).transform? "Aoi").map Transform.isTweening = some false ∧
    (stroll.tick 700).background.isTweening = true :=
  ⟨stroll.foldl_tick_eq_last_tick (List.cons_ne_nil _ _) (by decide), by decide +kernel,
    by decide +kernel, by decide +kernel, by decide +kernel⟩

end Stage

end VisualNovel
