import RenderRelay.Backend
import RenderRelay.Surface

/-!
A backend that draws nothing and tells the world outside of every call. Surfaces of certain labels
and sizes of a certain width make it fail, so that each failure of a backend can be brought about.
-/

namespace RenderRelay

namespace Traced

/-- A call as the world outside is told of it, with the label of the bound surface where the call
is about it. -/
inductive BackendCall where
  | createCanvas (translucent : Bool)
  | bindSurface (label : String) (viewport : Option Viewport)
  | unbindSurface (label : Option String)
  | destroyCanvas (label : Option String)
  | resize (size : Viewport)
  | beginFrame (label : Option String) (damage : PixelBox)
  | drawOp (item : DrawItem)
  | flush (ops : Nat)
  | endFrame (label : Option String) (ops : Nat)
  | createLayer (size : Viewport)

/-- How many canvases may be made, and the features that are claimed. -/
structure Config where
  maxCanvases : Option Nat
  capabilities : Capabilities
  deriving Inhabited

/-- The state of a traced backend and the world outside. -/
structure Device (ω : Type) where
  config : Config
  created : Nat
  outside : ω

/-- A canvas is its binding. -/
structure Canvas where
  surface : Option Surface

/-- A frame is the number of operations drawn into it. -/
structure Frame where
  ops : Nat

def refusedWidth : Nat := 13

def Canvas.label (canvas : Canvas) : Option String := canvas.surface.map Surface.label

variable {ω : Type} (tell : BackendCall → ω → ω)

def note (call : BackendCall) : DeviceOp (Device ω) Unit :=
  modify fun d => { d with outside := tell call d.outside }

/-- The shortage of a call that is made to fail. -/
def refused (what : String) : RenderError := .allocationFailure (.described what)

def createCanvas (translucent : Bool) : DeviceOp (Device ω) (Except RenderError Canvas) := do
  note tell (.createCanvas translucent)
  let d ← get
  match d.config.maxCanvases.filter (· ≤ d.created) with
  | some _ => return .error (refused "trace canvas")
  | none => do
    set { d with created := d.created + 1 }
    return .ok ⟨none⟩

def bindSurface (_canvas : Canvas) (surface : Surface) (viewport : Option Viewport) :
    DeviceOp (Device ω) (Except RenderError Unit × Canvas) := do
  note tell (.bindSurface surface.label viewport)
  if surface.label = "nobind" then return (.error (refused "trace bind"), ⟨none⟩)
  else return (.ok (), ⟨some surface⟩)

def unbindSurface (canvas : Canvas) : DeviceOp (Device ω) Canvas := do
  note tell (.unbindSurface canvas.label)
  return ⟨none⟩

def resize (canvas : Canvas) (viewport : Viewport) :
    DeviceOp (Device ω) (Except RenderError Unit × Canvas) := do
  note tell (.resize viewport)
  if viewport.width = refusedWidth then return (.error (refused "trace resize"), canvas)
  else return (.ok (), canvas)

def beginFrame (canvas : Canvas) (damage : PixelBox) :
    DeviceOp (Device ω) (Except RenderError (Option Frame) × Canvas) := do
  note tell (.beginFrame canvas.label damage)
  if canvas.label = some "lost" then return (.ok none, canvas)
  else if canvas.label = some "errbegin" then return (.error .invalidHandle, canvas)
  else if canvas.label = some "crash" then throw .backendCrash
  else return (.ok (some ⟨0⟩), canvas)

def drawOp (frame : Frame) (item : DrawItem) : DeviceOp (Device ω) Frame := do
  note tell (.drawOp item)
  return ⟨frame.ops + 1⟩

def flush (frame : Frame) : DeviceOp (Device ω) Frame := do
  note tell (.flush frame.ops)
  return frame

def endFrame (canvas : Canvas) (frame : Frame) :
    DeviceOp (Device ω) (Except RenderError Unit × Canvas) := do
  note tell (.endFrame canvas.label frame.ops)
  if canvas.label = some "errend" then return (.error (refused "trace end"), canvas)
  else return (.ok (), canvas)

def createLayer (size : Viewport) : DeviceOp (Device ω) (Except RenderError Unit) := do
  note tell (.createLayer size)
  if size.width = refusedWidth then return .error (refused "trace layer")
  else return .ok ()

def destroyCanvas (canvas : Canvas) : DeviceOp (Device ω) Unit :=
  note tell (.destroyCanvas canvas.label)

/-- The traced backend with no more than it must have: no layers, and frames that need no flush. -/
def bare : Backend Surface where
  Device := Device ω
  Canvas := Canvas
  Layer := Unit
  Frame := Frame
  name := "bare"
  capabilities d := d.config.capabilities
  createCanvas := createCanvas tell
  bindSurface := bindSurface tell
  unbindSurface := unbindSurface tell
  resize := resize tell
  beginFrame := beginFrame tell
  drawOp := drawOp tell
  endFrame := endFrame tell
  destroyCanvas := destroyCanvas tell

/-- The traced backend, whose flushes and new layers are told of too. -/
def backend : Backend Surface :=
  { bare tell with
    name := "trace"
    flush := flush tell
    createLayer := createLayer tell }

/-! ### Foreign code -/

def outside {α : Type} (work : StateM ω α) : StateM (Device ω) α := fun d =>
  let (a, world) := work d.outside
  (a, { d with outside := world })

variable {φ τ : Type} (invoke : φ → Frame → FunctorInfo → StateM ω (Frame × Completion))
  (perform : τ → StateM ω Completion) (report : LogRecord → ω → ω)

/-- A host of the traced backend, whose foreign code sees the frame and the world outside. -/
def host : Host (backend tell) φ τ where
  invoke callback frame info := outside (invoke callback frame info)
  perform task := outside (perform task)
  report record d := { d with outside := report record d.outside }

/-- The same for the backend with no more than it must have. -/
def bareHost : Host (bare tell) φ τ where
  invoke callback frame info := outside (invoke callback frame info)
  perform task := outside (perform task)
  report record d := { d with outside := report record d.outside }

end Traced

end RenderRelay
