import RenderRelay.Bitmap
import RenderRelay.Display.DisplayList
import RenderRelay.Fault
import RenderRelay.LogRecord
import RenderRelay.RenderError

/-!
What a render thread needs from a backend, and from the code of others that runs on it.

A backend owns the state `Device`. What it makes (canvases, layers, frames) is handed to it and
taken back by value. An operation that ends in a fault leaves the device as it was at that point.
-/

namespace RenderRelay

/-- An operation on a device, which may end in a fault. -/
abbrev DeviceOp (δ α : Type) := ExceptT Fault (StateM δ) α

/-- A rendering backend for surfaces of one type, which a window system or a test hands over to draw
to. The operations with a body are those of a backend without layers. -/
structure Backend (Surface : Type) where
  Device : Type
  Canvas : Type
  Layer : Type
  Frame : Type
  name : String
  capabilities : Device → Capabilities
  createCanvas (translucent : Bool) : DeviceOp Device (Except RenderError Canvas)
  /-- Binds a surface in place of the one before, which is gone also if this fails. -/
  bindSurface (canvas : Canvas) (surface : Surface) (viewport : Option Viewport) :
    DeviceOp Device (Except RenderError Unit × Canvas)
  unbindSurface (canvas : Canvas) : DeviceOp Device Canvas
  /-- Records the size. Failing leaves the binding in place. -/
  resize (canvas : Canvas) (viewport : Viewport) :
    DeviceOp Device (Except RenderError Unit × Canvas)
  /-- Starts a frame that repaints a box; no frame if the surface has none to give now. -/
  beginFrame (canvas : Canvas) (damage : PixelBox) :
    DeviceOp Device (Except RenderError (Option Frame) × Canvas)
  /-- Draws a cleared or filled area; other items are not given to it. -/
  drawOp (frame : Frame) (item : DrawItem) : DeviceOp Device Frame
  /-- Makes what was drawn so far visible to code that draws into the frame itself. -/
  flush (frame : Frame) : DeviceOp Device Frame := pure frame
  endFrame (canvas : Canvas) (frame : Frame) : DeviceOp Device (Except RenderError Unit × Canvas)
  createLayer (_size : Viewport) : DeviceOp Device (Except RenderError Layer) :=
    pure (.error (.unsupported .onlyLayers))
  /-- Starts drawing a layer anew, from a cleared state. -/
  beginLayerFrame (layer : Layer) : DeviceOp Device (Except RenderError Frame × Layer) :=
    pure (.error (.unsupported .onlyLayers), layer)
  endLayerFrame (layer : Layer) (_frame : Frame) : DeviceOp Device Layer := pure layer
  /-- Puts a layer into a rectangle of the frame. -/
  drawLayer (frame : Frame) (_layer : Layer) (_dst : Rect) (_clip : Option Rect) :
    DeviceOp Device Frame := pure frame
  copyLayer (_layer : Layer) : DeviceOp Device (Except RenderError Bitmap) :=
    pure (.error (.unsupported .onlyLayerReadback))
  destroyLayer (_layer : Layer) : DeviceOp Device Unit := pure ()
  trimCaches (canvas : Canvas) : DeviceOp Device Canvas := pure canvas
  /-- Takes a canvas down together with its binding. -/
  destroyCanvas (canvas : Canvas) : DeviceOp Device Unit

/-! ### Code of others on the render thread -/

/-- What a callback is told about the frame it draws into. -/
structure FunctorInfo where
  displayList : ListId
  viewport : Viewport
  damage : PixelBox
  clip : Option Rect
  frameIndex : Nat
  deriving DecidableEq

/-- How foreign code ended. A panic ends that code alone. -/
inductive Completion where
  | finished
  | panicked
  deriving DecidableEq

/-- The surroundings of a render thread: what running a callback or a task does, and where reports
go. -/
structure Host {σ : Type} (B : Backend σ) (Callback Task : Type) where
  invoke (callback : Callback) (frame : B.Frame) (info : FunctorInfo) :
    StateM B.Device (B.Frame × Completion)
  perform (task : Task) : StateM B.Device Completion
  report (record : LogRecord) (device : B.Device) : B.Device

def Host.note {σ φ τ : Type} {B : Backend σ} (H : Host B φ τ) (level : Level) (reporter : Reporter)
    (text : String) : DeviceOp B.Device Unit :=
  modify (H.report ⟨level, reporter, text⟩)

end RenderRelay
