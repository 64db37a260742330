import RenderRelay.Backend
import RenderRelay.Engine.Command
import RenderRelay.Engine.Registry

/-!
A rendering context: what a render thread keeps for one proxy, and how it carries out that proxy's
commands.

`draw` replays a display list. Outside the damage a frame keeps what the one before left there, so
after a new binding or size the first frame repaints everything: `needsFullRedraw`.
-/

namespace RenderRelay

variable {σ φ τ : Type} {B : Backend σ}

/-- The render thread's side of a proxy. -/
structure Context {σ : Type} (B : Backend σ) (φ : Type) where
  handle : ProxyHandle
  name : String
  /-- None once everything was destroyed. -/
  canvas : Option B.Canvas
  registry : Registry B.Layer φ
  viewport : Option Viewport
  surfaceBound : Bool
  /-- Nothing outside the damage is valid yet. -/
  needsFullRedraw : Bool
  stats : FrameStats

/-- What a list is drawn into. -/
structure Target where
  viewport : Viewport
  damage : PixelBox
  frameIndex : Nat

namespace Context

def ofCanvas (handle : ProxyHandle) (canvas : B.Canvas) : Context B φ where
  handle
  name := s!"context-{handle.number}"
  canvas := some canvas
  registry := .empty
  viewport := none
  surfaceBound := false
  needsFullRedraw := true
  stats := ⟨0, 0⟩

variable (H : Host B φ τ)

def note (name : String) (level : Level) (text : String) : DeviceOp B.Device Unit :=
  H.note level .context s!"[{name}] {text}"

/-! ### Drawing lists -/

/-- Draws one item: callbacks run in place after a flush, layers come from the registry, and what
has no entry there is passed over. -/
def drawItem (name : String) (registry : Registry B.Layer φ) (list : ListId)
    (target : Target) (frame : B.Frame) (item : DrawItem) : DeviceOp B.Device B.Frame :=
  match item.op with
  | .functor id =>
    match registry.functors.get? id with
    | none => do
      note H name .trace s!"{id.text} not attached; skipped"
      return frame
    | some callback => do
      let frame ← B.flush frame
      let (frame, completion) ← H.invoke callback frame
        ⟨list, target.viewport, target.damage, item.clip, target.frameIndex⟩
      match completion with
      | .finished => return frame
      | .panicked => do
        note H name .error s!"{id.text} panicked; frame continues without it"
        return frame
  | .layer handle dst =>
    match registry.layers.get? handle with
    | none => do
      note H name .trace s!"{handle.text} unknown; skipped"
      return frame
    | some entry => B.drawLayer frame entry.layer dst item.clip
  | .clear _ => B.drawOp frame item
  | .fill _ _ => B.drawOp frame item

def drawItems (name : String) (registry : Registry B.Layer φ) (list : ListId)
    (target : Target) : List DrawItem → B.Frame → DeviceOp B.Device B.Frame
  | [], frame => pure frame
  | item :: rest, frame => do
    let frame ← drawItem H name registry list target frame item
    drawItems name registry list target rest frame

/-! ### Layer updates -/

/-- Draws one layer anew. While this goes on the registry is without that layer. -/
def redrawLayer (c : Context B φ) (handle : LayerHandle) (list : DisplayList) :
    DeviceOp B.Device (Context B φ) :=
  match c.registry.layers.get? handle with
  | none => pure c
  | some entry => do
    let registry := c.registry.takeLayer handle
    let target : Target :=
      ⟨entry.size, .ofSize entry.size.width entry.size.height, c.stats.drawn⟩
    let (begun, layer) ← B.beginLayerFrame entry.layer
    match begun with
    | .ok frame => do
      let frame ← drawItems H c.name registry list.id target list.items frame
      let layer ← B.endLayerFrame layer frame
      return { c with registry := registry.insertLayer handle { entry with layer } }
    | .error e => do
      note H c.name .warn s!"cannot re-record {handle.text}: {e.message}"
      return { c with registry := registry.insertLayer handle { entry with layer } }

def redrawLayers : List (LayerHandle × DisplayList) → Context B φ →
    DeviceOp B.Device (Context B φ)
  | [], c => pure c
  | (handle, list) :: rest, c => do
    let c ← redrawLayer H c handle list
    redrawLayers rest c

/-- Carries out all waiting layer updates, in the order in which the layers began to wait. -/
def applyLayerUpdates (c : Context B φ) : DeviceOp B.Device (Context B φ) :=
  redrawLayers H c.registry.pending { c with registry := { c.registry with pending := [] } }

/-! ### Frames -/

/-- The pixels a draw repaints: its damage inside the viewport, if it has any there, or everything
when nothing outside is valid. -/
def frameDamage (capabilities : Capabilities) (needsFullRedraw : Bool) (viewport : Viewport)
    (damage : Damage) : Option PixelBox :=
  let damage := if capabilities.partialRedraw then damage else .whole
  match damage.clipTo viewport with
  | none => none
  | some box =>
    if needsFullRedraw then some ((Damage.whole.clipTo viewport).getD box) else some box

/-- Draws a list as one frame on a bound canvas. -/
def drawOnCanvas (c : Context B φ) (canvas : B.Canvas) (viewport : Viewport)
    (damage : PixelBox) (list : DisplayList) :
    DeviceOp B.Device (DrawStatus × Context B φ) := do
  let (begun, canvas) ← B.beginFrame canvas damage
  match begun with
  | .error e => do
    note H c.name .warn s!"cannot begin frame: {e.message}"
    return (.skipped, { c with canvas := some canvas })
  | .ok none => return (.skipped, { c with canvas := some canvas })
  | .ok (some frame) => do
    let frame ←
      drawItems H c.name c.registry list.id ⟨viewport, damage, c.stats.drawn⟩ list.items frame
    let (ended, canvas) ← B.endFrame canvas frame
    match ended with
    | .ok () => return (.drawn, { c with canvas := some canvas, needsFullRedraw := false })
    | .error e => do
      note H c.name .warn s!"frame submission failed: {e.message}"
      return (.skipped, { c with canvas := some canvas })

/-- Draws a list as one frame, if there is something to draw to and something to repaint. -/
def drawFrame (c : Context B φ) (list : DisplayList) (damage : Damage) :
    DeviceOp B.Device (DrawStatus × Context B φ) :=
  match c.canvas with
  | none => pure (.skipped, c)
  | some canvas =>
    if !c.surfaceBound then do
      note H c.name .trace "no surface; draw skipped"
      return (.skipped, c)
    else
      match c.viewport with
      | none => do
        note H c.name .trace "no viewport; draw skipped"
        return (.skipped, c)
      | some viewport => do
        let capabilities := B.capabilities (← get)
        match frameDamage capabilities c.needsFullRedraw viewport damage with
        | none => return (.skipped, c)
        | some damage => drawOnCanvas H c canvas viewport damage list

/-- Draws a list and remembers it. Waiting layer updates come first, and the draw is counted
whatever becomes of it. -/
def draw (c : Context B φ) (list : DisplayList) (damage : Damage) :
    DeviceOp B.Device (DrawStatus × Context B φ) := do
  let c ← applyLayerUpdates H { c with registry := { c.registry with lastDrawn := some list } }
  let (status, c) ← drawFrame H c list damage
  return (status, { c with stats := c.stats.count status })

/-! ### Other commands -/

/-- Binds a surface, or releases the one that is bound. -/
def bind (c : Context B φ) (surface : Option σ) :
    DeviceOp B.Device (Except RenderError Unit × Context B φ) :=
  match c.canvas, surface with
  | none, _ => pure (.error .invalidHandle, c)
  | some canvas, none => do
    let canvas ← B.unbindSurface canvas
    return (.ok (), { c with canvas := some canvas, surfaceBound := false })
  | some canvas, some surface => do
    let (result, canvas) ← B.bindSurface canvas surface c.viewport
    match result with
    | .ok () =>
      return (result,
        { c with canvas := some canvas, surfaceBound := true, needsFullRedraw := true })
    | .error e => do
      note H c.name .warn s!"surface bind failed: {e.message}"
      return (result, { c with canvas := some canvas, surfaceBound := false })

/-- Sets the size, also if the backend then has no buffers for it. -/
def resize (c : Context B φ) (viewport : Viewport) :
    DeviceOp B.Device (Except RenderError Unit × Context B φ) :=
  let c := { c with
    viewport := some viewport
    needsFullRedraw := c.needsFullRedraw || c.viewport ≠ some viewport }
  match c.canvas with
  | none => pure (.ok (), c)
  | some canvas => do
    let (result, canvas) ← B.resize canvas viewport
    match result with
    | .ok () => return (result, { c with canvas := some canvas })
    | .error e => do
      note H c.name .warn s!"no buffers for {viewport.width}x{viewport.height}: {e.message}"
      return (result, { c with canvas := some canvas })

def createLayer (c : Context B φ) (fresh : LayerHandle) (size : Viewport) :
    DeviceOp B.Device (Except RenderError LayerHandle × Context B φ) :=
  match c.canvas with
  | none => pure (.error .invalidHandle, c)
  | some _ => do
    match ← B.createLayer size with
    | .error e => return (.error e, c)
    | .ok layer => do
      note H c.name .debug s!"{fresh.text} created ({size.width}x{size.height})"
      return (.ok fresh, { c with registry := c.registry.insertLayer fresh ⟨layer, size⟩ })

def destroyLayers : List (LayerHandle × LayerEntry B.Layer) → DeviceOp B.Device Unit
  | [] => pure ()
  | (_, entry) :: rest => do
    B.destroyLayer entry.layer
    destroyLayers rest

def releaseAll (c : Context B φ) : DeviceOp B.Device (Context B φ) := do
  destroyLayers c.registry.layers.entries
  match c.canvas with
  | none => return { c with registry := .empty }
  | some canvas => do
    B.destroyCanvas canvas
    return { c with registry := .empty, canvas := none }

/-- Releases the surface, and with `full` every other resource too. -/
def destroy (c : Context B φ) (full : Bool) :
    DeviceOp B.Device (Context B φ) := do
  let canvas ← match c.canvas with
    | none => pure none
    | some canvas => do
      let canvas ← B.unbindSurface canvas
      pure (some canvas)
  let c := { c with canvas, surfaceBound := false }
  if full then
    let c ← releaseAll c
    note H c.name .debug "destroyed with all resources"
    return c
  else
    note H c.name .debug "surface released"
    return c

def teardown (c : Context B φ) : DeviceOp B.Device Unit := do
  let c ← releaseAll c
  note H c.name .debug "disposed"

def info (c : Context B φ) (device : B.Device) : ContextInfo where
  name := c.name
  backend := B.name
  handle := c.handle
  capabilities := B.capabilities device
  viewport := c.viewport
  surfaceBound := c.surfaceBound
  destroyed := c.canvas.isNone
  stats := c.stats
  functors := c.registry.functors.size
  layers := c.registry.layers.size
  cachedLists := c.registry.cachedLists

/-! ### Commands -/

/-- Carries out a command. A reply is given exactly to the commands that are waited for; `fresh` is
the name of the layer that the command may make. -/
def execute (c : Context B φ) (fresh : LayerHandle) :
    Command σ φ →
      DeviceOp B.Device (Option Reply × Context B φ)
  | .bindSurface surface => do
    let (result, c) ← bind H c (some surface)
    return (some (.surface result), c)
  | .updateSurface surface => do
    let (result, c) ← bind H c surface
    return (some (.surface result), c)
  | .setup viewport => do
    let (result, c) ← resize H c viewport
    return (some (.resized result), c)
  | .draw list record => do
    let (status, c) ← draw H c list (.decode record)
    return (some (.drawn status), c)
  | .repeatLastDraw =>
    match c.registry.lastDrawn with
    | some list => do
      let (status, c) ← draw H c list .whole
      return (some (.drawn status), c)
    | none => do
      note H c.name .debug "nothing to repeat"
      return (some (.drawn .skipped), { c with stats := c.stats.count .skipped })
  | .destroy full => do
    let c ← destroy H c full
    return (some .done, c)
  | .attachFunctor functor =>
    match c.registry.attach? functor.id functor.callback with
    | some registry => return (none, { c with registry })
    | none => do
      note H c.name .debug s!"{functor.id.text} already attached"
      return (none, c)
  | .detachFunctor id =>
    match c.registry.detach? id with
    | some registry => return (none, { c with registry })
    | none => do
      note H c.name .debug s!"{id.text} was not attached"
      return (none, c)
  | .createLayer size => do
    let (result, c) ← createLayer H c fresh size
    return (some (.layer result), c)
  | .pushLayerUpdate layer list =>
    match c.registry.queueUpdate? layer list with
    | some registry => return (none, { c with registry })
    | none => do
      note H c.name .debug s!"update for unknown {layer.text} dropped"
      return (none, c)
  | .flushLayerUpdates => do
    let c ← applyLayerUpdates H c
    return (none, c)
  | .copyLayer layer => do
    let c ← applyLayerUpdates H c
    match c.registry.layers.get? layer with
    | none => return (some (.pixels (.error .invalidHandle)), c)
    | some entry => do
      let pixels ← B.copyLayer entry.layer
      return (some (.pixels pixels), c)
  | .destroyLayer layer =>
    match c.registry.layers.get? layer with
    | some entry => do
      B.destroyLayer entry.layer
      return (none, { c with registry := c.registry.removeLayer layer })
    | none => do
      note H c.name .debug s!"destroy of unknown {layer.text} ignored"
      return (none, c)
  | .flushCaches => do
    let c := { c with registry := { c.registry with lastDrawn := none } }
    match c.canvas with
    | none => return (none, c)
    | some canvas => do
      let canvas ← B.trimCaches canvas
      return (none, { c with canvas := some canvas })
  | .setName name => do
    note H c.name .debug s!"renamed to '{name}'"
    return (none, { c with name })
  | .dumpInfo => do
    return (some (.info (c.info (← get))), c)
  | .fence => return (some .done, c)

def dispatch (c : Context B φ) (fresh : LayerHandle)
    (command : Command σ φ) :
    DeviceOp B.Device (Option Reply × Context B φ) := do
  note H c.name .trace command.name
  execute H c fresh command

end Context

end RenderRelay
