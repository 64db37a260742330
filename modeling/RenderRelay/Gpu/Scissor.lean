import RenderRelay.Geometry.Rect

/-!
Clips as scissor boxes of a viewport.
-/

namespace RenderRelay.Gpu

def viewportRect (v : Viewport) : Rect := ⟨0, 0, .ofNat v.width, .ofNat v.height⟩

/-- The box that a clip leaves of a viewport; without a clip all of it. None where nothing is
left. -/
def scissor (clip : Option Rect) (v : Viewport) : Option PixelBox :=
  (clip.getD (viewportRect v)).coverage v.width v.height

end RenderRelay.Gpu
