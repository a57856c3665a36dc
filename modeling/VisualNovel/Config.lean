import VisualNovel.Calendar
import VisualNovel.Geometry

namespace VisualNovel

structure Color where
  red : UInt8
  green : UInt8
  blue : UInt8
  alpha : UInt8
deriving DecidableEq, Repr

def Color.black : Color := ⟨0, 0, 0, 255⟩

structure Config where
  /-- Width and height of the viewport in pixels. -/
  viewport : Point
  /-- The resolution that the limits of panning are expressed in. -/
  virtualExtent : Point
  /-- Fills the margin around a background that is smaller than the viewport. -/
  fallbackColor : Color
  slots : SlotTable
deriving DecidableEq, Repr

namespace Config

def standard : Config where
  viewport := ⟨1280, 720⟩
  virtualExtent := ⟨1920, 1080⟩
  fallbackColor := .black
  slots := .standard

instance : Inhabited Config := ⟨standard⟩

/-- Viewport pixels per virtual pixel; a virtual extent that is not positive counts as the
viewport's. -/
def axisScale (view virtual : Float) : Float :=
  if 0 < virtual then view / virtual else 1

def viewportScale (config : Config) : Point :=
  ⟨axisScale config.viewport.x config.virtualExtent.x,
    axisScale config.viewport.y config.virtualExtent.y⟩

end Config

end VisualNovel
