import RenderRelay.Engine.RenderLoop
import RenderRelay.Session.Rig

/-!
Running sessions. A control step hands work to the threads' queues; before the next step all queues
are worked off, so what a step brings about belongs to that step.
-/

namespace RenderRelay.Session

variable {R : Rig}

/-- A render thread that runs. -/
structure Machine (R : Rig) where
  own : R.Own
  loop : RenderLoop R.backend Script

/-- A session between two steps. -/
structure Stage (R : Rig) where
  world : World
  gallery : Gallery
  /-- The name of the next layer on any thread. -/
  nextLayer : LayerHandle
  machines : Table Nat (Machine R)

namespace Stage

def empty : Stage R := ⟨.empty, .empty, ⟨1⟩, .empty⟩

def inWorld {α : Type} (work : StateM World α) : StateM (Stage R) α := fun s =>
  let (a, world) := work s.world
  (a, { s with world })

/-! ### Render threads -/

def endThread (thread : Nat) (crashed : Bool) (s : Stage R) : Stage R :=
  { s with
    world := s.world.closeInbox thread crashed
    machines := s.machines.erase thread }

/-- Handles one envelope on a thread. A fault ends the thread. -/
def serve (thread : Nat) (m : Machine R) (envelope : Envelope Surface Script Script)
    (s : Stage R) : Option Acknowledgement × Stage R :=
  let loop := { m.loop with nextLayer := s.nextLayer }
  let (result, device) :=
    (RenderLoop.serve R.host loop envelope).run (R.enter m.own s.gallery s.world)
  let (own, gallery, world) := R.leave device
  let s := { s with gallery, world }
  match result with
  | .error _ => (none, s.endThread thread true)
  | .ok .stopped => (none, s.endThread thread false)
  | .ok (.next loop acknowledgement) =>
    (acknowledgement,
      { s with nextLayer := loop.nextLayer, machines := s.machines.insert thread ⟨own, loop⟩ })

/-- Takes one envelope off a thread's queue and handles it. Without one nothing happens. -/
def advance (thread : Nat) (s : Stage R) : Option Acknowledgement × Stage R :=
  match s.world.receive thread, s.machines.get? thread with
  | some (envelope, world), some m => serve thread m envelope { s with world }
  | _, _ => (none, s)

/-- Works off a thread's queue up to the reply that a proxy waits for; `fuel` envelopes at most. -/
def awaitReply (thread : Nat) (handle : ProxyHandle) : Nat → Stage R → Option Reply × Stage R
  | 0, s => (none, s)
  | fuel + 1, s =>
    match advance thread s with
    | (some acknowledgement, s) =>
      if acknowledgement.handle = handle then (some acknowledgement.reply, s)
      else awaitReply thread handle fuel s
    | (none, s) => awaitReply thread handle fuel s

def settle : Nat → Stage R → Stage R
  | 0, s => s
  | fuel + 1, s =>
    match s.world.busyThread? with
    | none => s
    | some thread => settle fuel (advance thread s).2

/-- How many envelopes a step brings about at most. -/
def settleLimit : Nat := 0x1000000000000

/-! ### Control side -/

/-- Sends a message and lets the thread work until the reply is there. -/
def askThread (thread : Nat) (p : Proxy) (message : Message Surface Script) :
    StateM (Stage R) (Proxy × Option Reply) := do
  let delivery ← inWorld fun w => w.send .control thread (.message p.handle message)
  match delivery with
  | .queued => do
    let waiting := (← get).world.queueLength thread
    match ← (fun s => awaitReply thread p.handle waiting s) with
    | some reply => return (p, some reply)
    | none => do
      let (p, records) := p.abandoned
      inWorld (modify (World.noteAll .control records))
      return (p, none)
  | delivery => do
    let (p, records) := p.delivered message.name delivery
    inWorld (modify (World.noteAll .control records))
    return (p, none)

def control : Caller (StateM (Stage R)) where
  side := .control
  inWorld := inWorld
  ask := askThread

/-- Shuts a thread down: what waits on its queue is worked off, then it stops. -/
def shutDown (thread : Nat) : StateM (Stage R) Unit := do
  let _ ← inWorld fun w => w.send .control thread .shutdown
  modify fun s => (awaitReply thread .invalid (s.world.queueLength thread) s).2
  let inbox ← inWorld fun w => (w.inboxes.get? thread, w)
  if inbox.any Inbox.crashed then
    inWorld (modify (World.note .control ⟨.error, .thread, "render thread panicked"⟩))

/-- Starts a thread. One that had the name before is shut down. -/
def spawn (request : SpawnRequest) : StateM (Stage R) Answer := do
  let s ← get
  let own := R.boot request.config
  let capabilities := R.backend.capabilities (R.enter own s.gallery s.world)
  let thread := s.world.threads
  let before := s.world.threadNames.get? request.thread
  set { s with machines := s.machines.insert thread ⟨own, .start s.nextLayer⟩ }
  inWorld <| modify fun w =>
    { w with
      threads := thread + 1
      threadNames := w.threadNames.insert request.thread thread
      inboxes := w.inboxes.insert thread ⟨max request.capacity 1, capabilities, [], true, false⟩ }
  inWorld <| modify <| World.note .control
    ⟨.info, .thread, s!"render thread '{request.label}' started "
      ++ s!"({R.backend.name}, {capabilities.text})"⟩
  match before with
  | none => pure ()
  | some old => shutDown old
  return .spawned R.backend.name capabilities

/-- The reason given for a thread that could not be started. -/
def SpawnFailure.reason : SpawnFailure → String
  | .panicked => "render thread exited during startup"
  | .refused reason => s!"render backend initialization failed: {reason}"

/-- Carries out a step on the control side; what it sends off need not be worked off yet. -/
def perform : Step → StateM (Stage R) Answer
  | .spawn _ (some failure) => return .notSpawned (SpawnFailure.reason failure)
  | .spawn request none => spawn request
  | .shutdown name => do
    match (← get).world.threadNames.get? name with
    | none => return .ok
    | some thread => do
      inWorld (modify fun w => { w with threadNames := w.threadNames.erase name })
      shutDown thread
      return .ok
  | .proxy request => control.proxy request
  | .surface name label unallocatable => inWorld fun w =>
    let surface : Surface := ⟨w.surfaces + 1, label, unallocatable⟩
    (.ok, { w with
      surfaces := w.surfaces + 1
      surfaceNames := w.surfaceNames.insert name surface })
  | .snapshot name => do
    let s ← get
    match s.world.surfaceNames.get? name with
    | none => return .gone
    | some surface =>
      return .snapshot surface.label (if R.presents then some (s.gallery.look surface) else none)
  | .compareSurfaces a b => do
    let names := (← get).world.surfaceNames
    match names.get? a, names.get? b with
    | some a, some b => return .compared (a.number = b.number) (compare a.number b.number)
    | _, _ => return .gone
  | .pixel name x y => do
    let s ← get
    match s.world.surfaceNames.get? name with
    | none => return .gone
    | some surface => return .pixel ((s.gallery.look surface).front.bind (·.pixel? x y))
  | .functor name actions => inWorld fun w =>
    let functor : Functor Script := ⟨⟨w.functors + 1⟩, ⟨name, actions⟩⟩
    (.functor functor.id, { w with
      functors := w.functors + 1
      functorNames := w.functorNames.insert name functor })
  | .record steps => inWorld fun w =>
    match w.record steps with
    | (none, w) => (.ok, w)
    | (some fault, w) => (.fault fault, w)
  | .list name steps => inWorld (World.recordList name steps)
  | .emptyList name => inWorld fun w =>
    let list : DisplayList := ⟨w.nextListId, []⟩
    (.list list, w.nameList name list)
  | .sameList a b => do
    let names := (← get).world.listNames
    match names.get? a, names.get? b with
    | some a, some b => return .truth (a.same b)
    | _, _ => return .gone
  | .post name task actions => do
    match (← get).world.threadNames.get? name with
    | none => return .gone
    | some thread => do
      let taken ← inWorld (World.post .control thread ⟨task, actions⟩)
      return .truth taken
  | .call proxy step => control.call proxy step

/-- Carries out a step and all that follows from it. -/
def step (step : Step) (s : Stage R) : StepReport × Stage R :=
  let (answer, s) := perform step { s with world := s.world.clearNotes }
  let s := settle settleLimit s
  (s.world.stepReport answer, s)

def runFrom : List Step → Stage R → List StepReport
  | [], _ => []
  | first :: rest, s =>
    let (answer, s) := step first s
    answer :: runFrom rest s

def run (R : Rig) (steps : List Step) : List StepReport := runFrom steps (empty : Stage R)

end Stage

end RenderRelay.Session
