import RenderRelay.Color
import RenderRelay.Geometry.Rect
import RenderRelay.Handle

/-!
Finished recordings of draw operations.
-/

namespace RenderRelay

/-- One draw operation. -/
inductive DrawOp where
  | clear (color : Color)
  | fill (rect : Rect) (color : Color)
  /-- Runs the callback attached under this name, if there is one. -/
  | functor (id : FunctorId)
  /-- Copies the layer of this name, if there is one, into a rectangle. -/
  | layer (handle : LayerHandle) (dst : Rect)
  deriving DecidableEq

/-- An operation and the clip it was recorded under; none clips nothing. -/
structure DrawItem where
  op : DrawOp
  clip : Option Rect
  deriving DecidableEq

/-- A finished recording, its items from back to front. -/
structure DisplayList where
  id : ListId
  items : List DrawItem
  deriving DecidableEq

namespace DisplayList

/-- Two lists are the same recording when they carry the same name. -/
def same (a b : DisplayList) : Bool := a.id = b.id

/-- The callbacks the list refers to, in its order. -/
def functors (list : DisplayList) : List FunctorId :=
  list.items.filterMap fun item =>
    match item.op with
    | .functor id => some id
    | _ => none

def debugText (list : DisplayList) : String :=
  "DisplayList \x7b id: " ++ list.id.text ++ s!", items: {list.items.length} \x7d"

end DisplayList

end RenderRelay
