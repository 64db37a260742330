import RenderRelay.Session.Calls

/-!
Scripts on render threads, and the kinds of backend that a session can run its threads on.
-/

namespace RenderRelay.Session

/-! ### Scripts -/

def runAction : Action → StateM World (Answer × Completion)
  | .mark label => return (.mark label, .finished)
  | .panic => return (.nothing, .panicked)
  | .call proxy step => do
    let answer ← Caller.onRenderThread.call proxy step
    return (answer, .finished)
  | .post thread task actions => do
    match (← get).threadNames.get? thread with
    | none => return (.gone, .finished)
    | some number => do
      let taken ← World.post .render number ⟨task, actions⟩
      return (.truth taken, .finished)
  | .proxy request => do
    let answer ← Caller.onRenderThread.proxy request
    return (answer, .finished)
  | _ => return (.nothing, .finished)

/-- Carries out the actions of a task up to the first panic. -/
def runTask (owner : Name) : List Action → StateM World Completion
  | [] => return .finished
  | action :: rest => do
    match ← runAction action with
    | (_, .panicked) => return .panicked
    | (value, .finished) => do
      modify (World.tell (.action owner action.name value))
      runTask owner rest

/-- What an action does to a frame of type `F`, if it is an action on frames. -/
abbrev FrameAction (F : Type) := Action → F → Option (StateM World (Answer × F))

/-- Carries out the actions of a callback up to the first panic. What was drawn until then stays. -/
def runCallback {F : Type} (onFrame : FrameAction F) (owner : Name) :
    List Action → F → FunctorInfo → StateM World (F × Completion)
  | [], frame, _ => return (frame, .finished)
  | action :: rest, frame, info => do
    let (value, frame, completion) ←
      match action, onFrame action frame with
      | .info, _ => pure (.frameInfo info, frame, .finished)
      | _, some work => do
        let (value, frame) ← work
        pure (value, frame, .finished)
      | action, none => do
        let (value, completion) ← runAction action
        pure (value, frame, completion)
    match completion with
    | .panicked => return (frame, .panicked)
    | .finished => do
      modify (World.tell (.action owner action.name value))
      runCallback onFrame owner rest frame info

/-! ### Actions on frames -/

/-- Actions on headless frames look at them and draw into them. -/
def onHeadlessFrame : FrameAction Headless.Frame
  | .pixel x y, frame => some (return (.pixel (frame.target.pixel? x y), frame))
  | .damage, frame => some (return (.area frame.damage, frame))
  | .fill rect color, frame => some (return (.nothing, frame.fillRect rect color))
  | .rawFill area color, frame =>
    some (return (.nothing, { frame with target := frame.target.fill area color }))
  | .rawBlend area color, frame =>
    some (return (.nothing, { frame with target := frame.target.blend area color }))
  | _, _ => none

/-- Actions on traced frames count as one operation each. -/
def onTracedFrame (action : Action) (frame : Traced.Frame) :
    Option (StateM World (Answer × Traced.Frame)) :=
  let counted : StateM World (Answer × Traced.Frame) := do
    modify (World.tell (.functorOp action.name))
    return (.nothing, ⟨frame.ops + 1⟩)
  match action with
  | .pixel .. => some counted
  | .damage => some counted
  | .fill .. => some counted
  | .rawFill .. => some counted
  | .rawBlend .. => some counted
  | .other _ => some counted
  | _ => none

/-! ### Rigs -/

/-- A kind of backend in a session: what each thread keeps of it, and how the device is put together
from that, what the surfaces show, and the world. -/
structure Rig where
  backend : Backend Surface
  host : Host backend Script Script
  Own : Type
  boot : Headless.Config → Own
  enter : Own → Gallery → World → backend.Device
  leave : backend.Device → Own × Gallery × World
  /-- Whether frames come to be shown on surfaces. -/
  presents : Bool

def reportRender (record : LogRecord) (w : World) : World := w.note .render record

def Rig.headless : Rig where
  backend := Headless.backend reportRender
  host := Headless.host reportRender
    (fun script frame info => runCallback onHeadlessFrame script.owner script.actions frame info)
    (fun script => runTask script.owner script.actions)
  Own := Headless.Config × Nat
  boot config := (config, 0)
  enter own gallery world := ⟨own.1, own.2, gallery, world⟩
  leave d := ((d.config, d.live), d.gallery, d.outside)
  presents := true

/-- Tells a session of a call on the backend. -/
def tellCall (call : Traced.BackendCall) (w : World) : World := w.tell (.backend call)

def Rig.traced : Rig where
  backend := Traced.backend tellCall
  host := Traced.host tellCall
    (fun script frame info => runCallback onTracedFrame script.owner script.actions frame info)
    (fun script => runTask script.owner script.actions) reportRender
  Own := Traced.Config × Nat
  boot config := (⟨config.maxCanvases, config.capabilities⟩, 0)
  enter own _ world := ⟨own.1, own.2, world⟩
  leave d := ((d.config, d.created), .empty, d.outside)
  presents := false

/-- The backend with no more than it must have, in a session. -/
def Rig.bare : Rig where
  backend := Traced.bare tellCall
  host := Traced.bareHost tellCall
    (fun script frame info => runCallback onTracedFrame script.owner script.actions frame info)
    (fun script => runTask script.owner script.actions) reportRender
  Own := Traced.Config × Nat
  boot config := (⟨config.maxCanvases, config.capabilities⟩, 0)
  enter own _ world := ⟨own.1, own.2, world⟩
  leave d := ((d.config, d.created), .empty, d.outside)
  presents := false

end RenderRelay.Session
