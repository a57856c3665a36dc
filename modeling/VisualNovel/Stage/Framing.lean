import VisualNovel.Config

namespace VisualNovel

/-- Zoom lies between one half and three; what is not a number counts as one. -/
def clampZoom (zoom : Float) : Float :=
  if zoom.isNaN then 1 else clamp 0.5 3 zoom

/-- Why a stage operation cannot be carried out. -/
inductive StageError
  /-- The pan limits at the zoom bound no interval. -/
  | noPanRange
deriving DecidableEq, Repr

structure Framing where
  viewport : Point
  virtualExtent : Point
  scale : Point
  fallbackColor : Color
deriving DecidableEq, Repr

namespace Framing

def ofConfig (config : Config) : Framing where
  viewport := config.viewport
  virtualExtent := config.virtualExtent
  scale := config.viewportScale
  fallbackColor := config.fallbackColor

/-- The top left corner that centers a zoomed sprite on the normalized point `(x, y)`. -/
def place (framing : Framing) (extent : Point) (zoom x y : Float) : Point :=
  ⟨x * framing.viewport.x - extent.x * zoom / 2, y * framing.viewport.y - extent.y * zoom / 2⟩

/-- The limit of panning as a part of the virtual extent: half of the overflow when zoomed in, a
quarter of the shrinkage when zoomed out. -/
def panFactor (zoom : Float) : Float :=
  if 1 ≤ zoom then (zoom - 1) / 2 else (1 - zoom) / 4

/-- How far the background may be off center on each axis, in viewport pixels. -/
def panRange (framing : Framing) (zoom : Float) : Point :=
  let factor := panFactor (clampZoom zoom)
  ⟨(factor * framing.virtualExtent.x * framing.scale.x).abs,
    (factor * framing.virtualExtent.y * framing.scale.y).abs⟩

def clampPan (framing : Framing) (offset : Point) (zoom : Float) : Except StageError Point :=
  let limit := framing.panRange zoom
  match clampWithin? limit.x offset.x, clampWithin? limit.y offset.y with
  | some x, some y => .ok ⟨x, y⟩
  | _, _ => .error .noPanRange

end Framing

end VisualNovel
