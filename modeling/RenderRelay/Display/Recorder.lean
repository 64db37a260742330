import RenderRelay.Display.DisplayList
import RenderRelay.Fault

/-!
Recording display lists. Clips nest: each new clip is cut down to the one around it, so the
innermost alone says what may still be drawn.
-/

namespace RenderRelay

/-- A recording under way: the items so far, and the open clips from the innermost outwards. -/
structure Recorder where
  items : List DrawItem
  clips : List Rect
  deriving DecidableEq

namespace Recorder

def empty : Recorder := ⟨[], []⟩

instance : Inhabited Recorder := ⟨empty⟩

def push (r : Recorder) (op : DrawOp) : Recorder :=
  { r with items := r.items ++ [⟨op, r.clips.head?⟩] }

def clearTo (r : Recorder) (color : Color) : Recorder := r.push (.clear color)

/-- Records a filled rectangle, unless it is empty or not finite. -/
def fillRect (r : Recorder) (rect : Rect) (color : Color) : Recorder :=
  if rect.isEmpty || !rect.isFinite then r else r.push (.fill rect color)

def drawFunctor (r : Recorder) (id : FunctorId) : Recorder := r.push (.functor id)

def drawLayer (r : Recorder) (handle : LayerHandle) (dst : Rect) : Recorder :=
  r.push (.layer handle dst)

/-- The clip that `rect` opens inside `clips`: cut down to the one around it, and without any
extent where the two are disjoint. -/
def nestedClip (clips : List Rect) (rect : Rect) : Rect :=
  match clips with
  | [] => rect.normalized
  | around :: _ => (around.intersect rect).getD .zero

def pushClip (r : Recorder) (rect : Rect) : Recorder :=
  { r with clips := nestedClip r.clips rect :: r.clips }

def popClip (r : Recorder) : Except Fault Recorder :=
  match r.clips with
  | [] => .error .unmatchedPopClip
  | _ :: clips => .ok { r with clips }

/-- Ends the recording under the name `id` and leaves an empty one. -/
def finish (r : Recorder) (id : ListId) : Except Fault (DisplayList × Recorder) :=
  match r.clips with
  | [] => .ok (⟨id, r.items⟩, empty)
  | _ :: _ => .error .unbalancedFinish

end Recorder

end RenderRelay
