import RenderRelay.Engine.Command
import RenderRelay.LogRecord

/-!
The control side of a rendering context. A call on a proxy is made in two parts: `plan` says what
is sent and whether the caller waits, and `conclude` turns the reply into the caller's result. What
lies between them, the queue and the render thread, is no part of the proxy.
-/

namespace RenderRelay

variable {σ φ : Type}

/-- Where a proxy stands in its life. -/
inductive Lifecycle where
  | live
  /-- Everything was destroyed; only the proxy's end still does something. -/
  | destroyed
  /-- Creation failed or the render thread is gone. -/
  | disabled
  | disposed
  deriving DecidableEq

def Lifecycle.name : Lifecycle → String
  | live => "Live"
  | destroyed => "Destroyed"
  | disabled => "Disabled"
  | disposed => "Disposed"

/-- A proxy, as far as it is kept on the control side. -/
structure Proxy where
  handle : ProxyHandle
  capabilities : Capabilities
  translucent : Bool
  viewport : Option Viewport
  frameCount : Nat
  lifecycle : Lifecycle
  deriving DecidableEq

/-- What a proxy can be asked for, its end apart. -/
inductive Call (σ φ : Type) where
  | bindSurface (surface : σ)
  | updateSurface (surface : Option σ)
  | setup (size : Viewport)
  | draw (list : DisplayList) (dirty : Option DamageBox)
  | repeatLastDraw
  | destroy (full : Bool)
  | attachFunctor (functor : Functor φ)
  | detachFunctor (id : FunctorId)
  | createLayer (size : Viewport)
  | pushLayerUpdate (layer : LayerHandle) (list : DisplayList)
  | flushLayerUpdates
  | copyLayer (layer : LayerHandle)
  | destroyLayer (layer : LayerHandle)
  | flushCaches
  | setName (name : String)
  | info
  | fence

/-- What a call gives back when it does not fail. -/
inductive CallResult where
  | done
  | bound (wasBound : Bool)
  | drawn (status : DrawStatus)
  | layer (handle : LayerHandle)
  | pixels (pixels : Bitmap)
  | info (info : Option ContextInfo)

abbrev CallOutcome := Except RenderError CallResult

/-- What a call sends. -/
inductive Plan (σ φ : Type) where
  | answer (outcome : CallOutcome)
  /-- A command that nobody waits for, with the outcome. -/
  | notify (command : Command σ φ) (outcome : CallOutcome)
  | ask (command : Command σ φ)

/-- What became of a message given to a queue. -/
inductive Delivery where
  | queued
  /-- The queue has no place, and the sender is the thread that could make some. -/
  | full
  | disconnected
  deriving DecidableEq

namespace Proxy

def isEnabled (p : Proxy) : Bool := p.lifecycle = .live

/-- The proxy of a context about to be made. -/
def ofHandle (handle : ProxyHandle) (capabilities : Capabilities) (translucent : Bool) : Proxy :=
  ⟨handle, capabilities, translucent, none, 0, .live⟩

/-- The proxy that stands in where no context could be made. -/
def withoutContext (capabilities : Capabilities) (translucent : Bool) : Proxy :=
  ⟨.invalid, capabilities, translucent, none, 0, .disabled⟩

def width (p : Proxy) : Nat := p.viewport.elim 0 Viewport.width

def height (p : Proxy) : Nat := p.viewport.elim 0 Viewport.height

/-! ### Sending -/

/-- The outcome of a call that needs features, if some are missing. -/
def lacks (p : Proxy) (needed : Capabilities) : Option RenderError :=
  let missing := Capabilities.missing needed p.capabilities
  if missing = .none then none else some (.unsupported missing)

def readbackNeeds : Capabilities := { Capabilities.onlyLayers with layerReadback := true }

/-- What a call on a live proxy sends, and the proxy while the call is under way. -/
def planLive (p : Proxy) : Call σ φ → Proxy × Plan σ φ
  | .bindSurface surface => (p, .ask (.bindSurface surface))
  | .updateSurface surface => (p, .ask (.updateSurface surface))
  | .setup size =>
    if p.viewport = some size then (p, .answer (.ok .done))
    else ({ p with viewport := some size }, .ask (.setup size))
  | .draw list dirty => (p, .ask (.draw list (Damage.ofBox? dirty).encode))
  | .repeatLastDraw => (p, .ask .repeatLastDraw)
  | .destroy full => (p, .ask (.destroy full))
  | .attachFunctor functor =>
    match p.lacks .onlyFunctors with
    | some e => (p, .answer (.error e))
    | none => (p, .notify (.attachFunctor functor) (.ok .done))
  | .detachFunctor id => (p, .notify (.detachFunctor id) (.ok .done))
  | .createLayer size =>
    match p.lacks .onlyLayers with
    | some e => (p, .answer (.error e))
    | none => (p, .ask (.createLayer size))
  | .pushLayerUpdate layer list =>
    match p.lacks .onlyLayers with
    | some e => (p, .answer (.error e))
    | none => (p, .notify (.pushLayerUpdate layer list) (.ok .done))
  | .flushLayerUpdates =>
    if p.capabilities.layers then (p, .notify .flushLayerUpdates (.ok .done))
    else (p, .answer (.ok .done))
  | .copyLayer layer =>
    match p.lacks readbackNeeds with
    | some e => (p, .answer (.error e))
    | none => (p, .ask (.copyLayer layer))
  | .destroyLayer layer =>
    if p.capabilities.layers then (p, .notify (.destroyLayer layer) (.ok .done))
    else (p, .answer (.ok .done))
  | .flushCaches => (p, .notify .flushCaches (.ok .done))
  | .setName name => (p, .notify (.setName name) (.ok .done))
  | .info => (p, .ask .dumpInfo)
  | .fence => (p, .ask .fence)

/-- The outcome of a call that does not reach its context. -/
def idle : Call σ φ → CallOutcome
  | .bindSurface _ => .ok (.bound false)
  | .draw .. => .ok (.drawn .skipped)
  | .repeatLastDraw => .ok (.drawn .skipped)
  | .createLayer _ => .error .invalidHandle
  | .copyLayer _ => .error .invalidHandle
  | .info => .ok (.info none)
  | _ => .ok .done

/-- What a call sends, and the proxy while the call is under way. A proxy that is not live sends
nothing. -/
def plan (p : Proxy) (call : Call σ φ) : Proxy × Plan σ φ :=
  if p.isEnabled then p.planLive call else (p, .answer (idle call))

/-! ### After sending -/

def note (p : Proxy) (level : Level) (text : String) : LogRecord :=
  ⟨level, .proxy, s!"proxy {p.handle.text}: {text}"⟩

def disable (p : Proxy) (reason : String) : Proxy × List LogRecord :=
  match p.lifecycle with
  | .live => ({ p with lifecycle := .disabled }, [p.note .error s!"{reason}; disabling"])
  | .destroyed => ({ p with lifecycle := .disabled }, [p.note .error s!"{reason}; disabling"])
  | .disabled => (p, [])
  | .disposed => (p, [])

/-- What a proxy makes of the delivery of a message of this name. -/
def delivered (p : Proxy) (name : String) : Delivery → Proxy × List LogRecord
  | .queued => (p, [])
  | .full => (p, [p.note .warn s!"render queue full; {name} from the render thread dropped"])
  | .disconnected => p.disable "render thread gone"

/-- The report on a call that the render thread may not make, since it would wait for itself. -/
def refusal (p : Proxy) (name : String) : LogRecord :=
  p.note .error s!"{name} called on the render thread would wait on itself; ignored"

/-- What a proxy makes of a reply that can no longer come. -/
def abandoned (p : Proxy) : Proxy × List LogRecord :=
  p.disable "render thread stopped before replying"

/-- The proxy after a frame was drawn or skipped. -/
def countFrame (p : Proxy) : DrawStatus → Proxy
  | .drawn => { p with frameCount := p.frameCount + 1 }
  | .skipped => p

/-- The proxy and the outcome after a reply, or after a call that got none. A reply of another kind
than the call asks for is treated as none. -/
def conclude (p : Proxy) : Call σ φ → Option Reply → Proxy × CallOutcome
  | .bindSurface _, some (.surface (.ok ())) => (p, .ok (.bound true))
  | .bindSurface _, some (.surface (.error e)) => (p, .error e)
  | .updateSurface _, some (.surface (.ok ())) => (p, .ok .done)
  | .updateSurface _, some (.surface (.error e)) => (p, .error e)
  | .setup _, some (.resized (.error e)) => ({ p with viewport := none }, .error e)
  | .draw .., some (.drawn status) => (p.countFrame status, .ok (.drawn status))
  | .repeatLastDraw, some (.drawn status) => (p.countFrame status, .ok (.drawn status))
  | .destroy full, _ =>
    (if full ∧ p.lifecycle = .live then { p with lifecycle := .destroyed } else p, .ok .done)
  | .createLayer _, some (.layer (.ok handle)) => (p, .ok (.layer handle))
  | .createLayer _, some (.layer (.error e)) => (p, .error e)
  | .copyLayer _, some (.pixels (.ok pixels)) => (p, .ok (.pixels pixels))
  | .copyLayer _, some (.pixels (.error e)) => (p, .error e)
  | .info, some (.info info) => (p, .ok (.info (some info)))
  | call, _ => (p, idle call)

/-! ### Beginning and end -/

/-- The outcome of making a context; on failure the handle is given up. -/
def opened (p : Proxy) : Option Reply → Except RenderError Proxy
  | some (.created (.ok ())) => .ok p
  | some (.created (.error e)) => .error e
  | _ => .error .invalidHandle

/-- Whether the end of a proxy is told to the render thread. -/
def announcesEnd (p : Proxy) : Bool := p.lifecycle ≠ .disposed && p.handle.isValid

/-- What is reported about the message that ends a proxy. -/
def endDelivered (p : Proxy) : Delivery → List LogRecord
  | .queued => []
  | .disconnected => [p.note .debug "render thread gone before dispose"]
  | .full => [p.note .error "render queue full; context leaks until shutdown"]

/-- What is reported about a proxy that is given up without being disposed of. -/
def dropReport (p : Proxy) : List LogRecord :=
  match p.lifecycle with
  | .live => [⟨.warn, .proxy, s!"proxy {p.handle.text} dropped without dispose"⟩]
  | .destroyed => [⟨.warn, .proxy, s!"proxy {p.handle.text} dropped without dispose"⟩]
  | .disabled => []
  | .disposed => []

/-- The report on a context, one line end after the last line. -/
def dumpText (p : Proxy) : Option ContextInfo → String
  | some info => info.text ++ "\n"
  | none => s!"Render context {p.handle.text} ({p.lifecycle.name})\n"

def debugText (p : Proxy) : String :=
  let viewport :=
    match p.viewport with
    | none => "None"
    | some v => s!"Some(Viewport \x7b width: {v.width}, height: {v.height} \x7d)"
  s!"RenderProxy \x7b handle: {p.handle.text}, state: {p.lifecycle.name}, "
    ++ s!"viewport: {viewport}, frame_count: {p.frameCount} \x7d"

end Proxy

end RenderRelay
