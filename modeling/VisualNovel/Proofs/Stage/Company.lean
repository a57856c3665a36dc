import VisualNovel.Proofs.Stage.Timeless

namespace VisualNovel.Stage

/-- The sprite extent of a character who was shown. -/
def extent? (stage : Stage) (name : String) : Option Point :=
  (stage.actor? name).map Actor.extent

theorem extent?_eq_some_iff {stage : Stage} {name : String} {extent : Point} :
    stage.extent? name = some extent ↔
      ∃ actor, stage.actor? name = some actor ∧ actor.extent = extent :=
  Option.map_eq_some_iff

section Timeless

variable (stage : Stage) (name : String)

@[simp] theorem timeless_extent? : stage.timeless.extent? name = stage.extent? name := by
  simp only [extent?, actor?, timeless, Std.ExtTreeMap.getElem?_map, Option.map_map]
  rfl

@[simp] theorem timeless_isOnStage : stage.timeless.isOnStage name = stage.isOnStage name := rfl

theorem extent?_congr {first second : Stage} (h : first.timeless = second.timeless)
    (name : String) : first.extent? name = second.extent? name := by
  rw [← timeless_extent?, h, timeless_extent?]

theorem isOnStage_congr {first second : Stage} (h : first.timeless = second.timeless)
    (name : String) : first.isOnStage name = second.isOnStage name := by
  rw [← timeless_isOnStage, h, timeless_isOnStage]

theorem backgroundName_congr {first second : Stage} (h : first.timeless = second.timeless) :
    first.backgroundName = second.backgroundName :=
  (congrArg Stage.backgroundName h :)

end Timeless

section Operations

variable (stage : Stage) (identity : Identity) (x y : Float) (name : String)

theorem extent?_showCharacter : (stage.showCharacter identity x y).extent? name =
    if identity.name = name then some identity.spriteExtent else stage.extent? name := by
  simp only [extent?, actor?, showCharacter, Std.ExtTreeMap.getElem?_insert,
    Std.LawfulEqCmp.compare_eq_iff_eq]
  split <;> rfl

theorem isOnStage_showCharacter : (stage.showCharacter identity x y).isOnStage name =
    (identity.name == name || stage.isOnStage name) := by
  rw [Bool.eq_iff_iff]
  simp [isOnStage, showCharacter, Std.ExtTreeSet.contains_insert]

theorem extent?_hideCharacter (other : String) :
    (stage.hideCharacter name).2.extent? other = stage.extent? other := by
  rw [← timeless_extent?, timeless_hideCharacter]
  exact stage.timeless_extent? other

theorem isOnStage_hideCharacter (other : String) :
    (stage.hideCharacter name).2.isOnStage other = (name != other && stage.isOnStage other) := by
  rw [← timeless_isOnStage, timeless_hideCharacter]
  rw [Bool.eq_iff_iff]
  simp [isOnStage, timeless, Std.ExtTreeSet.contains_erase]

end Operations

end VisualNovel.Stage
