import RenderRelay.Backend
import RenderRelay.Surface

/-!
A backend without a display: it draws into bitmaps and presents them to surfaces in memory. Budgets
for canvases and buffers let allocation fail.
-/

namespace RenderRelay

namespace Headless

/-- What a headless backend is set up with. -/
structure Config where
  /-- How many canvases may live at a time; none for any number. -/
  maxCanvases : Option Nat
  maxBufferBytes : Nat
  capabilities : Capabilities
  /-- What opaque canvases clear their damage to before each frame. -/
  opaqueClear : Color
  deriving Inhabited

/-- All capabilities, any number of canvases, buffers up to 256 MiB, cleared to black. -/
def Config.standard : Config := ⟨none, 268435456, .all, .black⟩

/-- The state of a headless backend, the surfaces it presents to, and the world outside. -/
structure Device (ω : Type) where
  config : Config
  live : Nat
  gallery : Gallery
  outside : ω

/-- A canvas: the bound surface and the buffer that frames are drawn into. -/
structure Canvas where
  translucent : Bool
  surface : Option Surface
  viewport : Option Viewport
  back : Bitmap

/-- A frame being drawn: its buffer, and the box that may change. -/
structure Frame where
  target : Bitmap
  damage : PixelBox

/-- An offscreen layer. -/
structure Layer where
  pixels : Bitmap

/-! ### Frames -/

namespace Frame

/-- The pixels of a rectangle that lie in the frame's target. -/
def coverage (f : Frame) (rect : Rect) : Option PixelBox :=
  rect.coverage f.target.width f.target.height

/-- The pixels that an item under a clip may change. -/
def clipArea (f : Frame) : Option Rect → Option PixelBox
  | none => some f.damage
  | some clip => (f.coverage clip).bind (·.intersect f.damage)

/-- The pixels of a rectangle that an item under a clip may change. -/
def fillArea (f : Frame) (rect : Rect) (clip : Option Rect) : Option PixelBox :=
  (f.clipArea clip).bind fun area => (f.coverage rect).bind (·.intersect area)

/-- Lays a colour over a rectangle, as far as the damage goes. -/
def fillRect (f : Frame) (rect : Rect) (color : Color) : Frame :=
  match (f.coverage rect).bind (·.intersect f.damage) with
  | none => f
  | some area => { f with target := f.target.blend area color }

def drawOp (f : Frame) (item : DrawItem) : Frame :=
  match item.op with
  | .clear color =>
    match f.clipArea item.clip with
    | none => f
    | some area => { f with target := f.target.fill area color }
  | .fill rect color =>
    match f.fillArea rect item.clip with
    | none => f
    | some area => { f with target := f.target.blend area color }
  | .functor _ => f
  | .layer _ _ => f

/-- The corner that a layer is put at: the rounded origin of the rectangle. -/
def layerCorner (dst : Rect) : Int × Int :=
  let origin := dst.normalized
  let edge (v : Single) : Int := v.round.toIntWithin (-0x8000000000000000) 0x7fffffffffffffff
  (edge origin.x, edge origin.y)

def drawLayer (f : Frame) (layer : Layer) (dst : Rect) (clip : Option Rect) :
    Except Fault Frame :=
  match f.fillArea dst clip with
  | none => .ok f
  | some area => do
    let (left, top) := layerCorner dst
    let target ← f.target.blit layer.pixels left top area
    return { f with target }

end Frame

/-! ### Device -/

variable {ω : Type} (report : LogRecord → ω → ω)

def note (text : String) : DeviceOp (Device ω) Unit :=
  modify fun d => { d with outside := report ⟨.debug, .headless, text⟩ d.outside }

/-- Whether a buffer of a size is within the budget. -/
def checkBudget (what : String) (size : Viewport) : DeviceOp (Device ω) (Except RenderError Unit) :=
  match size.bufferBytes with
  | .error fault => throw fault
  | .ok bytes => do
    let budget := (← get).config.maxBufferBytes
    if budget < bytes then
      return .error (.allocationFailure (.buffer what size bytes budget))
    else return .ok ()

/-- The largest piece of memory, in bytes, that can be asked for at once. -/
def allocationLimit : Nat := 0x7fffffffffffffff

/-- A new buffer. One above the largest piece of memory is a fault, whatever the budget. -/
def newBuffer (size : Viewport) : DeviceOp (Device ω) Bitmap :=
  if allocationLimit < size.width * size.height * 4 then throw .capacityOverflow
  else pure (.ofSize size.width size.height)

/-- What the shortage of a frame's buffer is called. -/
def backBuffer : String := "back buffer"

def createCanvas (translucent : Bool) : DeviceOp (Device ω) (Except RenderError Canvas) := do
  let d ← get
  match d.config.maxCanvases.filter (· ≤ d.live) with
  | some limit => return .error (.allocationFailure (.canvasLimit limit))
  | none => do
    set { d with live := d.live + 1 }
    note report s!"headless canvas created (translucent={translucent}, live={d.live + 1})"
    return .ok ⟨translucent, none, none, .empty⟩

/-- The canvas without its binding and the frame drawn last. -/
def Canvas.cleared (canvas : Canvas) : Canvas := { canvas with surface := none, back := .empty }

def Canvas.sized (canvas : Canvas) (viewport : Viewport) : Canvas :=
  { canvas with viewport := some viewport }

/-- The old binding and its last frame are dropped before anything can fail. -/
def bindSurface (canvas : Canvas) (surface : Surface) (viewport : Option Viewport) :
    DeviceOp (Device ω) (Except RenderError Unit × Canvas) := do
  let canvas := canvas.cleared
  if surface.unallocatable then
    return (.error (.allocationFailure (.surfaceBuffers surface.label)), canvas)
  else
    let checked ← match viewport with
      | none => pure (.ok ())
      | some size => checkBudget backBuffer size
    match checked with
    | .error e => return (.error e, canvas)
    | .ok () => do
      note report s!"headless surface '{surface.label}' bound"
      return (.ok (), { canvas with surface := some surface })

def unbindSurface (canvas : Canvas) : DeviceOp (Device ω) Canvas :=
  match canvas.surface with
  | none => pure canvas
  | some surface => do
    note report s!"headless surface '{surface.label}' unbound"
    return { canvas with surface := none }

def resize (canvas : Canvas) (viewport : Viewport) :
    DeviceOp (Device ω) (Except RenderError Unit × Canvas) := do
  let canvas := canvas.sized viewport
  if canvas.surface.isSome then
    let checked ← checkBudget backBuffer viewport
    return (checked, canvas)
  else return (.ok (), canvas)

/-- The buffer of a size: the canvas's own if it has that size, a new one otherwise. -/
def backOfSize (canvas : Canvas) (size : Viewport) :
    DeviceOp (Device ω) (Except RenderError Bitmap) :=
  if canvas.back.width = size.width ∧ canvas.back.height = size.height then
    pure (.ok canvas.back)
  else do
    match ← checkBudget backBuffer size with
    | .error e => return .error e
    | .ok () => return .ok (← newBuffer size)

/-- The frame takes the canvas's buffer and starts with its damage cleared. -/
def beginFrame (canvas : Canvas) (damage : PixelBox) :
    DeviceOp (Device ω) (Except RenderError (Option Frame) × Canvas) :=
  match canvas.viewport.filter (!·.isEmpty) with
  | none => pure (.ok none, canvas)
  | some size =>
    if canvas.surface.isNone then pure (.ok none, canvas)
    else do
      match ← backOfSize canvas size with
      | .error e => return (.error e, canvas)
      | .ok target => do
        let d ← get
        let clear := if canvas.translucent then .transparent else d.config.opaqueClear
        return (.ok (some ⟨target.fill damage clear, damage⟩), { canvas with back := .empty })

/-- The device after a frame has come to a surface. A frame that is dropped is reported. -/
def Device.presented (d : Device ω) (surface : Surface) (frame : Bitmap) : Device ω where
  config := d.config
  live := d.live
  gallery := d.gallery.present surface frame
  outside :=
    if d.gallery.isRead surface then
      report ⟨.warn, .headlessSurface,
        s!"headless surface '{surface.label}' busy; dropping presentation"⟩ d.outside
    else d.outside

section Presented

variable {report} {d : Device ω} {surface : Surface}

theorem Device.presented_of_free (free : d.gallery.isRead surface = false) (frame : Bitmap) :
    d.presented report surface frame = { d with gallery := d.gallery.present surface frame } := by
  unfold presented
  rw [free]
  rfl

theorem Device.presented_of_busy (busy : d.gallery.isRead surface = true) (frame : Bitmap) :
    d.presented report surface frame =
      { d with
        gallery := d.gallery.present surface frame
        outside := report ⟨.warn, .headlessSurface,
          s!"headless surface '{surface.label}' busy; dropping presentation"⟩ d.outside } := by
  unfold presented
  rw [busy]
  rfl

end Presented

/-- Presents a frame to a surface, and tells whether it is shown. -/
def present (surface : Surface) (frame : Bitmap) : DeviceOp (Device ω) Bool := do
  let busy := (← get).gallery.isRead surface
  modify (·.presented report surface frame)
  return !busy

/-- The frame is presented to the bound surface and becomes the canvas's buffer, shown or not. -/
def endFrame (canvas : Canvas) (frame : Frame) :
    DeviceOp (Device ω) (Except RenderError Unit × Canvas) := do
  match canvas.surface with
  | none => pure ()
  | some surface =>
    let _ ← present report surface frame.target
  return (.ok (), { canvas with back := frame.target })

def createLayer (size : Viewport) : DeviceOp (Device ω) (Except RenderError Layer) :=
  if size.isEmpty then pure (.error (.allocationFailure (.emptyLayer size)))
  else do
    match ← checkBudget "layer" size with
    | .error e => return .error e
    | .ok () => return .ok ⟨← newBuffer size⟩

def beginLayerFrame (layer : Layer) : Frame × Layer :=
  let bounds := layer.pixels.bounds
  (⟨layer.pixels.fill bounds .transparent, bounds⟩, ⟨.empty⟩)

def copyLayer (layer : Layer) : DeviceOp (Device ω) (Except RenderError Bitmap) := do
  if (← get).config.capabilities.layerReadback then return .ok layer.pixels
  else return .error (.unsupported .onlyLayerReadback)

def trimCaches (canvas : Canvas) : Canvas :=
  if canvas.surface.isNone then { canvas with back := .empty } else canvas

def destroyCanvas (canvas : Canvas) : DeviceOp (Device ω) Unit := do
  let _ ← unbindSurface report canvas
  let d ← get
  set { d with live := d.live - 1 }
  note report s!"headless canvas destroyed (live={d.live - 1})"

/-- The headless backend; reports go to the world outside. -/
@[reducible] def backend : Backend Surface where
  Device := Device ω
  Canvas := Canvas
  Layer := Layer
  Frame := Frame
  name := "headless"
  capabilities d := d.config.capabilities
  createCanvas := createCanvas report
  bindSurface := bindSurface report
  unbindSurface := unbindSurface report
  resize := resize
  beginFrame := beginFrame
  drawOp frame item := pure (frame.drawOp item)
  endFrame := endFrame report
  createLayer := createLayer
  beginLayerFrame layer :=
    let (frame, layer) := beginLayerFrame layer
    pure (.ok frame, layer)
  endLayerFrame _ frame := pure ⟨frame.target⟩
  drawLayer frame layer dst clip :=
    match frame.drawLayer layer dst clip with
    | .ok frame => pure frame
    | .error fault => throw fault
  copyLayer := copyLayer
  trimCaches canvas := pure (trimCaches canvas)
  destroyCanvas := destroyCanvas report

/-! ### Foreign code -/

def outside {α : Type} (work : StateM ω α) : StateM (Device ω) α := fun d =>
  let (a, world) := work d.outside
  (a, { d with outside := world })

/-- A host whose callbacks and tasks see nothing of the device but the frame and the world
outside. -/
def host {φ τ : Type} (invoke : φ → Frame → FunctorInfo → StateM ω (Frame × Completion))
    (perform : τ → StateM ω Completion) : Host (backend report) φ τ where
  invoke callback frame info := outside (invoke callback frame info)
  perform task := outside (perform task)
  report record d := { d with outside := report record d.outside }

/-- A host with nothing outside: callbacks and tasks do nothing, and reports are lost. -/
def idleHost : Host (backend fun _ (_ : Unit) => ()) Unit Unit :=
  host _ (fun _ frame _ => pure (frame, .finished)) (fun _ => pure .finished)

/-- A device before anything was made on it, for owners who read their surfaces at such times. -/
def Device.watched (config : Config) (reading : Nat → Nat → Bool) (world : ω) : Device ω :=
  ⟨config, 0, .unshown reading, world⟩

/-- A device before anything was made on it, for owners who never read while a frame comes. -/
def Device.start (config : Config) (world : ω) : Device ω :=
  .watched config (fun _ _ => false) world

end Headless

end RenderRelay
