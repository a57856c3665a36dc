import VisualNovel.Proofs.Run
import VisualNovel.Stage

/-!
A stage without what the clock decides. Who is on it, who was ever shown and which background hangs
behind them depends on the operations alone, and so does whether an operation can be carried out.
-/

namespace VisualNovel

namespace Framing

/-- The pan limits at the zoom bound an interval on each axis. -/
def canPan (framing : Framing) (zoom : Float) : Bool :=
  let limit := framing.panRange zoom
  decide (-limit.x ≤ limit.x) && decide (-limit.y ≤ limit.y)

theorem clampPan_eq (framing : Framing) (offset : Point) (zoom : Float) :
    framing.clampPan offset zoom =
      if framing.canPan zoom then
        .ok ⟨clamp (-(framing.panRange zoom).x) (framing.panRange zoom).x offset.x,
          clamp (-(framing.panRange zoom).y) (framing.panRange zoom).y offset.y⟩
      else .error .noPanRange := by
  by_cases hx : -(framing.panRange zoom).x ≤ (framing.panRange zoom).x
  · by_cases hy : -(framing.panRange zoom).y ≤ (framing.panRange zoom).y
    · simp [clampPan, clampWithin?, canPan, hx, hy]
    · simp [clampPan, clampWithin?, canPan, hx, hy]
  · simp [clampPan, clampWithin?, canPan, hx]

end Framing

namespace Stage

/-- The stage with its clock at the start and everything in one place, standing still. -/
def timeless (stage : Stage) : Stage :=
  { stage with
    clock := 0
    actors := stage.actors.map fun _ actor => { actor with transform := {} }
    background := {} }

variable (stage : Stage)

@[simp] theorem timeless_timeless : stage.timeless.timeless = stage.timeless := by
  simp [timeless, Std.ExtTreeMap.map_map]

@[simp] theorem timeless_tick (now : UInt64) : (stage.tick now).timeless = stage.timeless := by
  simp [timeless, tick, Std.ExtTreeMap.map_map]

@[simp] theorem timeless_framing : stage.timeless.framing = stage.framing := rfl

theorem timeless_clear : stage.timeless.clear.timeless = stage.clear.timeless := by
  simp [timeless, clear]

theorem timeless_insert {name : String} {actor : Actor} (hactor : stage.actor? name = some actor)
    (transform : Transform) :
    timeless { stage with actors := stage.actors.insert name { actor with transform } } =
      stage.timeless := by
  have hactors : (stage.actors.insert name { actor with transform }).map
      (fun _ actor => { actor with transform := {} }) =
        stage.actors.map fun _ actor => { actor with transform := {} } := by
    apply Std.ExtTreeMap.ext_getElem?
    intro other
    rw [Std.ExtTreeMap.getElem?_map, Std.ExtTreeMap.getElem?_map, Std.ExtTreeMap.getElem?_insert]
    by_cases hname : name = other
    · rw [← hname, show stage.actors[name]? = some actor from hactor]
      simp
    · simp [hname]
  simp only [timeless, hactors]

theorem timeless_showCharacter (identity : Identity) (x y : Float) :
    (stage.showCharacter identity x y).timeless =
      { stage.timeless with
        actors := stage.timeless.actors.insert identity.name ⟨{}, identity.spriteExtent⟩
        onStage := stage.timeless.onStage.insert identity.name } := by
  have hactors : (stage.showCharacter identity x y).timeless.actors =
      stage.timeless.actors.insert identity.name ⟨{}, identity.spriteExtent⟩ := by
    apply Std.ExtTreeMap.ext_getElem?
    intro other
    simp only [timeless, showCharacter, Std.ExtTreeMap.getElem?_map,
      Std.ExtTreeMap.getElem?_insert]
    split <;> rfl
  rw [← hactors]
  rfl

theorem timeless_hideCharacter (name : String) :
    (stage.hideCharacter name).2.timeless =
      { stage.timeless with onStage := stage.timeless.onStage.erase name } := by
  rw [hideCharacter]
  split
  · rfl
  · rename_i actor hactor
    exact timeless_insert _ hactor actor.transform.still

theorem map_moveCharacter (name : String) (x y : Float) (duration : UInt64) (zoom : Float) :
    (stage.moveCharacter name x y duration zoom).map (fun result => result.2.timeless) =
      .ok stage.timeless := by
  rw [moveCharacter]
  split
  · rfl
  · rename_i actor hactor
    simp only [startTween, hactor]
    exact congrArg Except.ok (timeless_insert _ hactor _)

theorem map_showBackground (name : String) (x y zoom : Float) :
    (stage.showBackground name x y zoom).map timeless =
      if stage.framing.canPan (clampZoom zoom) then
        .ok { stage.timeless with backgroundName := some name }
      else .error .noPanRange := by
  simp only [showBackground, Framing.clampPan_eq]
  split <;> rfl

theorem map_moveBackground (dx dy : Float) (duration : UInt64) (zoom : Float) :
    (stage.moveBackground dx dy duration zoom).map (fun result => result.2.timeless) =
      if stage.framing.canPan (clampZoom zoom) then .ok stage.timeless
      else .error .noPanRange := by
  simp only [moveBackground, startTween, Framing.clampPan_eq]
  split <;> rfl

end Stage

end VisualNovel
