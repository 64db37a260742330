import RenderRelay.Geometry.Viewport
import RenderRelay.Single

/-!
Rectangles of draw geometry. A rectangle covers the pixels between its rounded edges; `coverage`
gives them as a box inside a target.
-/

namespace RenderRelay

/-- An axis-parallel rectangle, its origin at the top left, `y` downwards. -/
structure Rect where
  x : Single
  y : Single
  width : Single
  height : Single
  deriving DecidableEq, Inhabited

namespace Rect

instance : BEq Rect where
  beq a b := a.x == b.x && a.y == b.y && a.width == b.width && a.height == b.height

def zero : Rect := ⟨0, 0, 0, 0⟩

def right (r : Rect) : Single := r.x + r.width

def bottom (r : Rect) : Single := r.y + r.height

def isEmpty (r : Rect) : Bool := r.width.le 0 || r.height.le 0

def isFinite (r : Rect) : Bool :=
  r.x.isFinite && r.y.isFinite && r.width.isFinite && r.height.isFinite

def normalizedSide (start extent : Single) : Single × Single :=
  if extent.lt 0 then (start + extent, -extent) else (start, extent)

def normalized (r : Rect) : Rect :=
  let (x, width) := normalizedSide r.x r.width
  let (y, height) := normalizedSide r.y r.height
  ⟨x, y, width, height⟩

/-- The common part of two rectangles, unless they only touch or lie apart. -/
def intersect (r s : Rect) : Option Rect :=
  let a := r.normalized
  let b := s.normalized
  let x := a.x.max b.x
  let y := a.y.max b.y
  let width := a.right.min b.right - x
  let height := a.bottom.min b.bottom - y
  if width.le 0 || height.le 0 then none else some ⟨x, y, width, height⟩

/-- The largest coordinate that an edge is rounded to. -/
def coordinateLimit : Nat := 0xffffffff

/-- The pixel boundary nearest to an edge, inside a side of `limit` pixels. -/
def snap (limit : Nat) (edge : Single) : Nat :=
  min ((edge.round.max 0).toNatWithin coordinateLimit) limit

/-- The pixels of a `width` by `height` target whose centres lie in the rectangle, if there are
any. A rectangle that is not finite covers none. -/
def coverage (r : Rect) (width height : Nat) : Option PixelBox :=
  if r.isFinite then
    let r := r.normalized
    PixelBox.nonempty?
      ⟨snap width r.x, snap height r.y, snap width r.right, snap height r.bottom⟩
  else none

end Rect

end RenderRelay
