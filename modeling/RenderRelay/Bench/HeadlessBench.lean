import RenderRelay.Backend.Headless

/-!
A bench for the headless backend: its operations one by one, on canvases, surfaces, frames and
layers that are numbered from zero in the order in which they are made. A step on one that was used
up, or never made, is told that it is gone; only to end a frame that was never made is a fault.
-/

namespace RenderRelay.Bench

/-- Things numbered from zero; one that was used up leaves its place empty. -/
abbrev Slots (α : Type) := Array (Option α)

def Slots.look {α : Type} (s : Slots α) (n : Nat) : Option α := s[n]?.join

/-- One operation. -/
inductive HeadlessStep where
  | about
  | surface (label : String) (unallocatable : Bool)
  | canvas (translucent : Bool)
  | bind (canvas surface : Nat) (viewport : Option Viewport)
  | unbind (canvas : Nat)
  | resize (canvas : Nat) (size : Viewport)
  | beginFrame (canvas : Nat) (damage : PixelBox)
  | drawOp (frame : Nat) (item : DrawItem)
  | fill (frame : Nat) (rect : Rect) (color : Color)
  | frame (frame : Nat)
  | endFrame (canvas frame : Nat)
  | layer (size : Viewport)
  | beginLayer (layer : Nat)
  | endLayer (layer frame : Nat)
  | drawLayer (frame layer : Nat) (dst : Rect) (clip : Option Rect)
  | copyLayer (layer : Nat)
  | destroyLayer (layer : Nat)
  | trim (canvas : Nat)
  | destroy (canvas : Nat)
  | snapshot (surface : Nat)

/-- What an operation answers. -/
inductive HeadlessAnswer where
  | ok
  | gone
  | failed (error : RenderError)
  | fault (fault : Fault)
  | about (name : String) (capabilities : Capabilities) (live : Nat)
  | index (n : Nat)
  | noFrame
  /-- The number of a new canvas, and how many live now. -/
  | canvas (result : Except RenderError Nat) (live : Nat)
  /-- How binding or resizing went, and the label of the surface bound now. -/
  | bound (result : Except RenderError Unit) (surface : Option String)
  | unbound (surface : Option String)
  | bitmap (pixels : Bitmap)
  | frame (frame : Headless.Frame)
  /-- The number and damage of a frame on a layer, and what is left in the layer. -/
  | layerFrame (n : Nat) (damage : PixelBox) (left : Bitmap)
  | live (live : Nat)
  | snapshot (label : String) (shown : Presentation)

/-- The backend and everything made with it. -/
structure HeadlessBench where
  device : Headless.Device Unit
  canvases : Slots Headless.Canvas
  surfaces : Slots Surface
  frames : Slots Headless.Frame
  layers : Slots Headless.Layer

namespace HeadlessBench

/-- The bench with a backend of this configuration and nothing else. -/
def ofConfig (config : Headless.Config) : HeadlessBench :=
  ⟨⟨config, 0, .empty, ()⟩, #[], #[], #[], #[]⟩

def backend : Backend Surface := Headless.backend (ω := Unit) fun _ w => w

def run {α : Type} (b : HeadlessBench) (op : DeviceOp (Headless.Device Unit) α) :
    Except Fault α × HeadlessBench :=
  let (result, device) := op.run b.device
  (result, { b with device })

def setCanvas (b : HeadlessBench) (n : Nat) (canvas : Headless.Canvas) : HeadlessBench :=
  { b with canvases := b.canvases.setIfInBounds n (some canvas) }

def setFrame (b : HeadlessBench) (n : Nat) (frame : Headless.Frame) : HeadlessBench :=
  { b with frames := b.frames.setIfInBounds n (some frame) }

def setLayer (b : HeadlessBench) (n : Nat) (layer : Headless.Layer) : HeadlessBench :=
  { b with layers := b.layers.setIfInBounds n (some layer) }

def label (canvas : Headless.Canvas) : Option String := canvas.surface.map Surface.label

/-- Carries out an operation on a canvas; `fallback` is the canvas that a fault leaves. -/
def onCanvas {α : Type} (b : HeadlessBench) (n : Nat) (fallback : Headless.Canvas)
    (op : DeviceOp (Headless.Device Unit) (α × Headless.Canvas))
    (answer : α → Headless.Canvas → HeadlessBench → HeadlessAnswer × HeadlessBench) :
    HeadlessAnswer × HeadlessBench :=
  match b.run op with
  | (.error fault, b) => (.fault fault, b.setCanvas n fallback)
  | (.ok (a, canvas), b) => answer a canvas (b.setCanvas n canvas)

/-- Carries out an operation on a frame; a fault leaves the frame as it was. -/
def onFrame (b : HeadlessBench) (n : Nat)
    (op : DeviceOp (Headless.Device Unit) Headless.Frame) : HeadlessAnswer × HeadlessBench :=
  match b.run op with
  | (.error fault, b) => (.fault fault, b)
  | (.ok frame, b) => (.bitmap frame.target, b.setFrame n frame)

def addFrame (b : HeadlessBench) (frame : Headless.Frame) : HeadlessBench :=
  { b with frames := b.frames.push (some frame) }

def step (b : HeadlessBench) : HeadlessStep → HeadlessAnswer × HeadlessBench
  | .about => (.about backend.name (backend.capabilities b.device) b.device.live, b)
  | .surface label unallocatable =>
    let n := b.surfaces.size
    (.index n, { b with surfaces := b.surfaces.push (some ⟨n, label, unallocatable⟩) })
  | .canvas translucent =>
    match b.run (backend.createCanvas translucent) with
    | (.error fault, b) => (.fault fault, b)
    | (.ok (.error e), b) => (.canvas (.error e) b.device.live, b)
    | (.ok (.ok canvas), b) =>
      (.canvas (.ok b.canvases.size) b.device.live,
        { b with canvases := b.canvases.push (some canvas) })
  | .bind c s viewport =>
    match b.canvases.look c, b.surfaces.look s with
    | some canvas, some surface =>
      b.onCanvas c canvas.cleared (backend.bindSurface canvas surface viewport)
        fun result canvas b => (.bound result (label canvas), b)
    | _, _ => (.gone, b)
  | .unbind c =>
    match b.canvases.look c with
    | none => (.gone, b)
    | some canvas =>
      b.onCanvas c canvas ((fun canvas => ((), canvas)) <$> backend.unbindSurface canvas)
        fun _ canvas b => (.unbound (label canvas), b)
  | .resize c size =>
    match b.canvases.look c with
    | none => (.gone, b)
    | some canvas =>
      b.onCanvas c (canvas.sized size) (backend.resize canvas size)
        fun result canvas b => (.bound result (label canvas), b)
  | .beginFrame c damage =>
    match b.canvases.look c with
    | none => (.gone, b)
    | some canvas =>
      b.onCanvas c canvas (backend.beginFrame canvas damage) fun result _ b =>
        match result with
        | .error e => (.failed e, b)
        | .ok none => (.noFrame, b)
        | .ok (some frame) => (.index b.frames.size, b.addFrame frame)
  | .drawOp f item =>
    match b.frames.look f with
    | none => (.gone, b)
    | some frame => b.onFrame f (backend.drawOp frame item >>= backend.flush)
  | .fill f rect color =>
    match b.frames.look f with
    | none => (.gone, b)
    | some frame => b.onFrame f (pure (frame.fillRect rect color))
  | .frame f =>
    match b.frames.look f with
    | none => (.gone, b)
    | some frame => (.frame frame, b)
  | .endFrame c f =>
    match b.canvases.look c, b.frames[f]? with
    | some canvas, some (some frame) =>
      { b with frames := b.frames.setIfInBounds f none }.onCanvas c canvas
        (backend.endFrame canvas frame) fun result _ b =>
          match result with
          | .error e => (.failed e, b)
          | .ok () => (.ok, b)
    | some _, none => (.fault (.indexOutOfBounds b.frames.size f), b)
    | _, _ => (.gone, b)
  | .layer size =>
    match b.run (backend.createLayer size) with
    | (.error fault, b) => (.fault fault, b)
    | (.ok (.error e), b) => (.failed e, b)
    | (.ok (.ok layer), b) =>
      (.index b.layers.size, { b with layers := b.layers.push (some layer) })
  | .beginLayer l =>
    match b.layers.look l with
    | none => (.gone, b)
    | some layer =>
      match b.run (backend.beginLayerFrame layer) with
      | (.error fault, b) => (.fault fault, b)
      | (.ok (.error e, layer), b) => (.failed e, b.setLayer l layer)
      | (.ok (.ok (frame : Headless.Frame), (layer : Headless.Layer)), b) =>
        (.layerFrame b.frames.size frame.damage layer.pixels,
          (b.setLayer l layer).addFrame frame)
  | .endLayer l f =>
    match b.layers.look l, b.frames[f]? with
    | some layer, some (some frame) =>
      match b.run (backend.endLayerFrame layer frame) with
      | (.error fault, b) => (.fault fault, b)
      | (.ok (layer : Headless.Layer), b) =>
        (.bitmap layer.pixels,
          { b with frames := b.frames.setIfInBounds f none }.setLayer l layer)
    | some _, none => (.fault (.indexOutOfBounds b.frames.size f), b)
    | _, _ => (.gone, b)
  | .drawLayer f l dst clip =>
    match b.frames.look f, b.layers.look l with
    | some frame, some layer => b.onFrame f (backend.drawLayer frame layer dst clip)
    | _, _ => (.gone, b)
  | .copyLayer l =>
    match b.layers.look l with
    | none => (.gone, b)
    | some layer =>
      match b.run (backend.copyLayer layer) with
      | (.error fault, b) => (.fault fault, b)
      | (.ok (.error e), b) => (.failed e, b)
      | (.ok (.ok pixels), b) => (.bitmap pixels, b)
  | .destroyLayer l =>
    match b.layers.look l with
    | none => (.gone, b)
    | some layer =>
      match b.run (backend.destroyLayer layer) with
      | (.error fault, b) => (.fault fault, b)
      | (.ok (), b) => (.ok, { b with layers := b.layers.setIfInBounds l none })
  | .trim c =>
    match b.canvases.look c with
    | none => (.gone, b)
    | some canvas =>
      b.onCanvas c canvas ((fun canvas => ((), canvas)) <$> backend.trimCaches canvas)
        fun _ _ b => (.ok, b)
  | .destroy c =>
    match b.canvases.look c with
    | none => (.gone, b)
    | some canvas =>
      match b.run (backend.destroyCanvas canvas) with
      | (.error fault, b) => (.fault fault, b)
      | (.ok (), b) =>
        (.live b.device.live, { b with canvases := b.canvases.setIfInBounds c none })
  | .snapshot s =>
    match b.surfaces.look s with
    | none => (.gone, b)
    | some surface => (.snapshot surface.label (b.device.gallery.look surface), b)

def runAll : List HeadlessStep → HeadlessBench → List HeadlessAnswer
  | [], _ => []
  | first :: rest, b =>
    let (answer, b) := b.step first
    answer :: runAll rest b

end HeadlessBench

end RenderRelay.Bench
