import RenderRelay.Engine.Context

/-!
The render thread: it owns every context and takes one envelope after the other off its queue.
-/

namespace RenderRelay

variable {σ φ τ : Type} {B : Backend σ}

/-- What a render thread keeps between two envelopes. -/
structure RenderLoop {σ : Type} (B : Backend σ) (φ : Type) where
  contexts : Table ProxyHandle (Context B φ)
  /-- The name of the next layer that is made. -/
  nextLayer : LayerHandle

/-- A reply and the proxy that waits for it. -/
structure Acknowledgement where
  handle : ProxyHandle
  reply : Reply

namespace RenderLoop

def start (nextLayer : LayerHandle) : RenderLoop B φ := ⟨.empty, nextLayer⟩

/-- The name of the next layer after a command was answered: a layer that was made took one. -/
def layerAfter (next : LayerHandle) : Option Reply → LayerHandle
  | some (.layer (.ok _)) => next.next
  | _ => next

variable (H : Host B φ τ)

def create (loop : RenderLoop B φ) (handle : ProxyHandle) (translucent : Bool) :
    DeviceOp B.Device (Except RenderError Unit × RenderLoop B φ) := do
  match ← B.createCanvas translucent with
  | .ok canvas => do
    H.note .debug .thread s!"context {handle.text} created (translucent={translucent})"
    return (.ok (), { loop with contexts := loop.contexts.insert handle (.ofCanvas handle canvas) })
  | .error e => do
    H.note .warn .thread s!"context {handle.text} allocation failed: {e.message}"
    return (.error e, loop)

def run (loop : RenderLoop B φ) (handle : ProxyHandle)
    (command : Command σ φ) :
    DeviceOp B.Device (Option Reply × RenderLoop B φ) :=
  match loop.contexts.get? handle with
  | none => do
    H.note .debug .thread s!"{command.name} for unknown context {handle.text} dropped"
    return (none, loop)
  | some context => do
    let (reply, context) ← context.dispatch H loop.nextLayer command
    return (reply, ⟨loop.contexts.insert handle context, layerAfter loop.nextLayer reply⟩)

def dispose (loop : RenderLoop B φ) (handle : ProxyHandle) :
    DeviceOp B.Device (RenderLoop B φ) :=
  match loop.contexts.get? handle with
  | none => do
    H.note .debug .thread s!"dispose of unknown context {handle.text} ignored"
    return loop
  | some context => do
    context.teardown H
    return { loop with contexts := loop.contexts.erase handle }

/-- Takes down the contexts that are left when the thread stops. -/
def teardownAll : List (ProxyHandle × Context B φ) → DeviceOp B.Device Unit
  | [] => pure ()
  | (handle, context) :: rest => do
    H.note .warn .thread
      s!"context {handle.text} ('{context.name}') still live at shutdown; tearing down"
    context.teardown H
    teardownAll rest

def stop (loop : RenderLoop B φ) : DeviceOp B.Device Unit := do
  teardownAll H loop.contexts.entries
  H.note .info .thread "render thread stopped"

/-- What an envelope leaves behind. -/
inductive Served {σ : Type} (B : Backend σ) (φ : Type) where
  /-- The thread goes on; a reply is given if the envelope's sender waits for one. -/
  | next (loop : RenderLoop B φ) (acknowledgement : Option Acknowledgement)
  | stopped

def serve (loop : RenderLoop B φ) :
    Envelope σ φ τ → DeviceOp B.Device (Served B φ)
  | .message handle (.create translucent) => do
    let (result, loop) ← create H loop handle translucent
    return .next loop (some ⟨handle, .created result⟩)
  | .message handle .dispose => do
    let loop ← dispose H loop handle
    return .next loop none
  | .message handle (.run command) => do
    let (reply, loop) ← run H loop handle command
    return .next loop (reply.map (⟨handle, ·⟩))
  | .task task => do
    match ← H.perform task with
    | .finished => return .next loop none
    | .panicked => do
      H.note .error .thread "posted render task panicked"
      return .next loop none
  | .shutdown => do
    stop H loop
    return .stopped

end RenderLoop

end RenderRelay
