import VisualNovel.Geometry

/-!
Where something stands on stage, and the linear tweens that move it.

A tween keeps both of its ends, so what it shows at a time depends on that time alone.
-/

namespace VisualNovel

/-- A linear movement in flight. Times are milliseconds of the stage clock. -/
structure Tween where
  startPosition : Point
  targetPosition : Point
  startZoom : Float
  targetZoom : Float
  startTime : UInt64
  duration : UInt64
deriving DecidableEq, Repr

/-- Position and zoom. For a character the position is the top left corner of the zoomed sprite,
for the background it is the offset of the image's center from the viewport's. -/
structure Transform where
  position : Point := .origin
  zoom : Float := 1
  tween : Option Tween := none
deriving DecidableEq, Repr, Inhabited

namespace Tween

/-- Milliseconds since the start; none before it. -/
def elapsed (tween : Tween) (now : UInt64) : UInt64 :=
  if tween.startTime ≤ now then now - tween.startTime else 0

/-- The part of the way that is done at `now`. A tween without length is done at once. -/
def progress (tween : Tween) (now : UInt64) : Float :=
  if tween.duration = 0 then 1
  else clamp 0 1 ((tween.elapsed now).toFloat / tween.duration.toFloat)

end Tween

namespace Transform

def isTweening (transform : Transform) : Bool :=
  transform.tween.isSome

/-- Starts a tween from where the transform stands now, in place of any other. -/
def retarget (transform : Transform) (position : Point) (zoom : Float) (now duration : UInt64) :
    Transform :=
  { transform with
    tween := some
      { startPosition := transform.position
        targetPosition := position
        startZoom := transform.zoom
        targetZoom := zoom
        startTime := now
        duration := duration } }

/-- Samples the tween. One that is done leaves the transform exactly on its target. -/
def sample (transform : Transform) (now : UInt64) : Transform :=
  match transform.tween with
  | none => transform
  | some tween =>
      let t := tween.progress now
      if 1 ≤ t then
        { position := tween.targetPosition, zoom := tween.targetZoom, tween := none }
      else
        { position := tween.startPosition.lerp tween.targetPosition t
          zoom := lerp tween.startZoom tween.targetZoom t
          tween := some tween }

/-- Stands still at `position`, with the zoom unchanged. -/
def settleAt (transform : Transform) (position : Point) : Transform :=
  { transform with position := position, tween := none }

def still (transform : Transform) : Transform :=
  { transform with tween := none }

end Transform

end VisualNovel
