import Std.Data.ExtTreeMap
import Std.Data.ExtTreeSet
import VisualNovel.Cast
import VisualNovel.Stage.Framing
import VisualNovel.Stage.Transform

/-!
The stage of one performance: the characters and the background, moved by tweens that are all
sampled from one clock.
-/

namespace VisualNovel

structure Actor where
  transform : Transform
  /-- Width and height of the sprite at zoom 1. -/
  extent : Point
deriving DecidableEq, Repr

/-- What a tween moves. -/
inductive Target
  | character (name : String)
  | background
deriving DecidableEq, Repr

structure Stage where
  framing : Framing
  /-- The time of the last tick, in milliseconds. New tweens start here. -/
  clock : UInt64
  /-- Everyone shown since the stage was last cleared, hidden or not. -/
  actors : Std.ExtTreeMap String Actor
  onStage : Std.ExtTreeSet String
  background : Transform
  backgroundName : Option String

namespace Stage

def ofConfig (config : Config) : Stage where
  framing := .ofConfig config
  clock := 0
  actors := ∅
  onStage := ∅
  background := {}
  backgroundName := none

def actor? (stage : Stage) (name : String) : Option Actor :=
  stage.actors[name]?

def transform? (stage : Stage) (name : String) : Option Transform :=
  (stage.actor? name).map Actor.transform

def isOnStage (stage : Stage) (name : String) : Bool :=
  stage.onStage.contains name

/-- The names on stage, in increasing order. -/
def activeNames (stage : Stage) : List String :=
  stage.onStage.toList

def isAnimating (stage : Stage) : Bool :=
  stage.background.isTweening || stage.actors.any fun _ actor => actor.transform.isTweening

/-- The colour around a background that is smaller than the viewport. -/
def backgroundFill (stage : Stage) : Option Color :=
  if stage.background.zoom < 1 then some stage.framing.fallbackColor else none

/-- Starts a tween towards `position`, in pixels of the stage. A background's target is kept within
the pan range of its zoom. Answers whether there was something to move. -/
def startTween (stage : Stage) (target : Target) (position : Point) (duration : UInt64)
    (zoom : Float) : Except StageError (Bool × Stage) :=
  let zoom := clampZoom zoom
  match target with
  | .background => do
      let position ← stage.framing.clampPan position zoom
      return (true,
        { stage with background := stage.background.retarget position zoom stage.clock duration })
  | .character name =>
      match stage.actor? name with
      | none => return (false, stage)
      | some actor =>
          let transform := actor.transform.retarget position zoom stage.clock duration
          return (true,
            { stage with actors := stage.actors.insert name { actor with transform } })

/-- Samples every tween at `now`. -/
def tick (stage : Stage) (now : UInt64) : Stage :=
  { stage with
    clock := now
    actors := stage.actors.map fun _ actor =>
      { actor with transform := actor.transform.sample now }
    background := stage.background.sample now }

/-- Puts a character on stage, centered on the normalized point `(x, y)`. Shown again, it keeps its
zoom and loses its tween. -/
def showCharacter (stage : Stage) (identity : Identity) (x y : Float) : Stage :=
  let transform := (stage.transform? identity.name).getD {}
  let extent := identity.spriteExtent
  let position := stage.framing.place extent transform.zoom x y
  { stage with
    actors := stage.actors.insert identity.name ⟨transform.settleAt position, extent⟩
    onStage := stage.onStage.insert identity.name }

/-- Takes a character off stage; its transform stays. Answers whether it was ever shown. -/
def hideCharacter (stage : Stage) (name : String) : Bool × Stage :=
  let stage := { stage with onStage := stage.onStage.erase name }
  match stage.actor? name with
  | none => (false, stage)
  | some actor =>
      (true, { stage with
        actors := stage.actors.insert name { actor with transform := actor.transform.still } })

/-- Moves a character until it is centered on the normalized point `(x, y)` at `zoom`. -/
def moveCharacter (stage : Stage) (name : String) (x y : Float) (duration : UInt64)
    (zoom : Float) : Except StageError (Bool × Stage) :=
  match stage.actor? name with
  | none => return (false, stage)
  | some actor =>
      let zoom := clampZoom zoom
      stage.startTween (.character name) (stage.framing.place actor.extent zoom x y) duration zoom

/-- Frames a new background; `(0.5, 0.5)` is its center. -/
def showBackground (stage : Stage) (name : String) (x y zoom : Float) :
    Except StageError Stage := do
  let zoom := clampZoom zoom
  let viewport := stage.framing.viewport
  let position ← stage.framing.clampPan ⟨(x - 0.5) * viewport.x, (y - 0.5) * viewport.y⟩ zoom
  return { stage with
    background := { position, zoom }
    backgroundName := some name }

/-- Pans the background by a part of the viewport. -/
def moveBackground (stage : Stage) (dx dy : Float) (duration : UInt64) (zoom : Float) :
    Except StageError (Bool × Stage) :=
  let position := stage.background.position
  let viewport := stage.framing.viewport
  stage.startTween .background
    ⟨position.x + dx * viewport.x, position.y + dy * viewport.y⟩ duration zoom

/-- An empty stage with the same framing and clock. -/
def clear (stage : Stage) : Stage :=
  { stage with
    actors := ∅
    onStage := ∅
    background := {}
    backgroundName := none }

end Stage

end VisualNovel
