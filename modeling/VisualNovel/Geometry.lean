/-!
Points of the plane of the stage and clamping of coordinates.

Coordinates are binary floating point numbers, and every operation keeps the order of its
arithmetic, so that equal inputs give equal bits.
-/

namespace VisualNovel

/-- A position, an offset or a pair of lengths. -/
structure Point where
  x : Float
  y : Float
deriving DecidableEq, Repr

namespace Point

def origin : Point := ⟨0, 0⟩

instance : Inhabited Point := ⟨origin⟩

end Point

/-- Moves `x` to the nearer bound when it lies outside; a value that is not a number stays. -/
def clamp (lower upper x : Float) : Float :=
  let raised := if x < lower then lower else x
  if upper < raised then upper else raised

/-- Clamping between `-limit` and `limit`, for limits that bound an interval. -/
def clampWithin? (limit x : Float) : Option Float :=
  if -limit ≤ limit then some (clamp (-limit) limit x) else none

/-- The point at part `t` of the way from `a` to `b`. -/
def lerp (a b t : Float) : Float :=
  a + (b - a) * t

def Point.lerp (a b : Point) (t : Float) : Point :=
  ⟨VisualNovel.lerp a.x b.x t, VisualNovel.lerp a.y b.y t⟩

end VisualNovel
