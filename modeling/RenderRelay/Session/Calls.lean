import RenderRelay.Session.World

/-!
Steps on proxies, from either side. The sides differ in one point: what happens when a call has to
wait for a reply. A `Caller` says so.
-/

namespace RenderRelay.Session

/-- A side that calls proxies. -/
structure Caller (M : Type → Type) where
  side : Side
  inWorld {α : Type} : StateM World α → M α
  /-- Sends a message and waits for the reply; the proxy learns of a thread that is gone. -/
  ask : Nat → Proxy → Message Surface Script → M (Proxy × Option Reply)

namespace Caller

/-- The render side, where every call that waits is refused. -/
def onRenderThread : Caller (StateM World) where
  side := .render
  inWorld work := work
  ask _ p message := do
    modify (World.note .render (p.refusal message.name))
    return (p, none)

variable {M : Type → Type} [Monad M] (k : Caller M)

def note (records : List LogRecord) : M Unit :=
  k.inWorld (modify (World.noteAll k.side records))

/-- Makes a call on a proxy whose context is on the given thread. -/
def perform (thread : Nat) (p : Proxy) (call : Call Surface Script) : M (Proxy × CallOutcome) := do
  match p.plan call with
  | (p, .answer outcome) => return (p, outcome)
  | (p, .notify command outcome) => do
    let delivery ← k.inWorld fun w => w.send k.side thread (.message p.handle (.run command))
    let (p, records) := p.delivered command.name delivery
    k.note records
    return (p, outcome)
  | (p, .ask command) => do
    let (p, reply) ← k.ask thread p (.run command)
    return p.conclude call reply

/-! ### Proxies -/

def makeProxy (thread : Nat) (translucent : Bool) : M (Except RenderError Proxy) := do
  let p ← k.inWorld fun w =>
    let handle : ProxyHandle := ⟨w.handles + 1⟩
    let capabilities := ((w.inboxes.get? thread).map Inbox.capabilities).getD .none
    (Proxy.ofHandle handle capabilities translucent, { w with handles := w.handles + 1 })
  let (p, reply) ← k.ask thread p (.create translucent)
  return p.opened reply

/-- Makes a proxy as a request asks for it, and names it. -/
def proxy (request : ProxyRequest) : M Answer := do
  match ← k.inWorld fun w => (w.threadNames.get? request.thread, w) with
  | none => return .gone
  | some thread => do
    match ← k.makeProxy thread request.translucent with
    | .ok p => do
      k.inWorld (modify (World.nameProxy k.side request.proxy { proxy := p, thread }))
      return .proxy p
    | .error e =>
      if request.strict then return .failed e
      else do
        k.note
          [⟨.warn, .thread, s!"render context allocation failed: {e.message}; proxy disabled"⟩]
        let capabilities ← k.inWorld fun w =>
          (((w.inboxes.get? thread).map Inbox.capabilities).getD .none, w)
        let p := Proxy.withoutContext capabilities request.translucent
        k.inWorld (modify (World.nameProxy k.side request.proxy { proxy := p, thread }))
        return .proxy p

/-- How many nodes of a tree are visited at most. -/
def sweepLimit : Nat := 0x1000000000000

/-- The call that a step makes, if what it names exists. Steps that do more than one call, or none,
are not among them. -/
def callOf? (w : World) : ProxyStep → Option (Call Surface Script)
  | .bindSurface surface => (w.surfaceNames.get? surface).map .bindSurface
  | .updateSurface none => some (.updateSurface none)
  | .updateSurface (some surface) =>
    (w.surfaceNames.get? surface).map fun s => .updateSurface (some s)
  | .setup size => some (.setup size)
  | .draw list dirty => (w.listNames.get? list).map (.draw · dirty)
  | .repeatLastDraw => some .repeatLastDraw
  | .destroy full => some (.destroy full)
  | .attachFunctor functor => (w.functorNames.get? functor).map .attachFunctor
  | .detachFunctor functor => (w.functorNames.get? functor).map fun f => .detachFunctor f.id
  | .createLayer _ size => some (.createLayer size)
  | .pushLayerUpdate layer list =>
    (w.layerNames.get? layer).bind fun h => (w.listNames.get? list).map (.pushLayerUpdate h ·)
  | .flushLayerUpdates => some .flushLayerUpdates
  | .copyLayer layer => (w.layerNames.get? layer).map .copyLayer
  | .destroyLayer layer => (w.layerNames.get? layer).map .destroyLayer
  | .setName name => some (.setName name)
  | .info => some .info
  | .fence => some .fence
  | .sweep .. => none
  | .dump => none
  | .debug => none
  | .about => none
  | .dispose => none
  | .drop => none

/-- Gives a layer that was made the name its step asked for. -/
def nameLayer (step : ProxyStep) (outcome : CallOutcome) (w : World) : World :=
  match step, outcome with
  | .createLayer name _, .ok (.layer handle) =>
    { w with layerNames := w.layerNames.insert name handle }
  | _, _ => w

/-- The answer of a step on a proxy that lives on, and the proxy afterwards. -/
def answer (thread : Nat) (p : Proxy) (step : ProxyStep) : M (Proxy × Option CallAnswer) :=
  match step with
  | .sweep tree root =>
    match ChildTable.tree.sweep sweepLimit root tree with
    | none => return (p, none)
    | some (visited, tree) => do
      k.note [⟨.debug, .sweep, s!"released hardware resources of {visited} nodes"⟩]
      let (p, _) ← k.perform thread p .flushCaches
      return (p, some (.swept visited tree.released.reverse))
  | .dump => do
    let (p, outcome) ← k.perform thread p .info
    match outcome with
    | .ok (.info info) => return (p, some (.text (p.dumpText info)))
    | _ => return (p, some (.text (p.dumpText none)))
  | .debug => return (p, some (.text p.debugText))
  | .about => return (p, some (.facts p))
  | step => do
    match ← k.inWorld fun w => (callOf? w step, w) with
    | none => return (p, none)
    | some call => do
      let (p, outcome) ← k.perform thread p call
      k.inWorld (modify (nameLayer step outcome))
      return (p, some (.outcome outcome))

def endNamed (name : Name) (givenUp : Bool) (entry : ProxyEntry) : M Answer := do
  k.inWorld <| modify fun w =>
    { w with proxyNames := w.proxyNames.erase name }.endProxy k.side givenUp entry
  return .ok

/-- Makes a step on a named proxy. While a call on it is under way there is no other. -/
def call (name : Name) (step : ProxyStep) : M Answer := do
  match ← k.inWorld fun w => (w.proxyNames.get? name, w) with
  | none => return .gone
  | some entry =>
    if entry.held then return .busy
    else
      match step with
      | .dispose => k.endNamed name false entry
      | .drop => k.endNamed name true entry
      | step => do
        k.inWorld (modify (World.holdProxy name))
        let (p, answer) ← k.answer entry.thread entry.proxy step
        k.inWorld (modify (World.releaseProxy k.side name { entry with proxy := p }))
        return answer.elim .gone fun a => .call a p

end Caller

end RenderRelay.Session
