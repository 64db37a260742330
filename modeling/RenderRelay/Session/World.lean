import RenderRelay.Session.Step
import RenderRelay.Table

/-!
What a session keeps outside its render threads: the named things, the threads' queues, and what
was noted since the last answer. Control and render side alike act on it; on the render side a
message for a full queue is turned away.
-/

namespace RenderRelay.Session

/-- A thread's queue, and what is known of the thread on the control side. -/
structure Inbox where
  capacity : Nat
  capabilities : Capabilities
  queue : List (Envelope Surface Script Script)
  isOpen : Bool
  crashed : Bool

/-- A proxy and the number of the thread its context is on. -/
structure ProxyEntry where
  proxy : Proxy
  thread : Nat
  /-- Whether a call on the proxy is under way. -/
  held : Bool := false

/-- Where a piece of work is done. -/
inductive Side where
  | control
  | render
  deriving DecidableEq

/-- Everything a session keeps outside its render threads. -/
structure World where
  /-- How many proxy handles, lists, callbacks, surfaces and threads were given out. -/
  handles : Nat
  lists : Nat
  functors : Nat
  surfaces : Nat
  threads : Nat
  threadNames : Table Name Nat
  inboxes : Table Nat Inbox
  proxyNames : Table Name ProxyEntry
  surfaceNames : Table Name Surface
  functorNames : Table Name (Functor Script)
  listNames : Table Name DisplayList
  layerNames : Table Name LayerHandle
  recorder : Recorder
  events : List Event
  controlLog : List LogRecord
  renderLog : List LogRecord

namespace World

def empty : World where
  handles := 0
  lists := 0
  functors := 0
  surfaces := 0
  threads := 0
  threadNames := .empty
  inboxes := .empty
  proxyNames := .empty
  surfaceNames := .empty
  functorNames := .empty
  listNames := .empty
  layerNames := .empty
  recorder := .empty
  events := []
  controlLog := []
  renderLog := []

/-! ### Notes -/

def tell (event : Event) (w : World) : World := { w with events := event :: w.events }

def note (side : Side) (record : LogRecord) (w : World) : World :=
  match side with
  | .control => { w with controlLog := record :: w.controlLog }
  | .render => { w with renderLog := record :: w.renderLog }

def noteAll (side : Side) (records : List LogRecord) (w : World) : World :=
  records.foldl (fun w r => w.note side r) w

def clearNotes (w : World) : World := { w with events := [], controlLog := [], renderLog := [] }

def stepReport (w : World) (answer : Answer) : StepReport :=
  ⟨answer, w.events.reverse, w.controlLog.reverse, w.renderLog.reverse⟩

/-! ### Queues -/

/-- Gives an envelope to a thread. Control threads wait for a place, which here has always come free
before; the render side does not wait. -/
def send (side : Side) (thread : Nat) (envelope : Envelope Surface Script Script) (w : World) :
    Delivery × World :=
  match w.inboxes.get? thread with
  | none => (.disconnected, w)
  | some inbox =>
    if !inbox.isOpen then (.disconnected, w)
    else if side = .render ∧ inbox.capacity ≤ inbox.queue.length then (.full, w)
    else
      let inbox := { inbox with queue := inbox.queue ++ [envelope] }
      (.queued, { w with inboxes := w.inboxes.insert thread inbox })

def receive (thread : Nat) (w : World) : Option (Envelope Surface Script Script × World) :=
  match w.inboxes.get? thread with
  | none => none
  | some inbox =>
    match inbox.queue with
    | [] => none
    | envelope :: queue =>
      some (envelope, { w with inboxes := w.inboxes.insert thread { inbox with queue } })

/-- Closes a thread's queue; what is still on it is lost. -/
def closeInbox (thread : Nat) (crashed : Bool) (w : World) : World :=
  { w with inboxes := w.inboxes.modify thread fun inbox =>
      { inbox with queue := [], isOpen := false, crashed } }

def queueLength (thread : Nat) (w : World) : Nat :=
  ((w.inboxes.get? thread).map (·.queue.length)).getD 0

def busyThread? (w : World) : Option Nat :=
  (w.inboxes.entries.find? fun e => !e.2.queue.isEmpty).map Prod.fst

/-- Posts a task, and says whether it was taken. -/
def post (side : Side) (thread : Nat) (task : Script) (w : World) : Bool × World :=
  match w.send side thread (.task task) with
  | (.queued, w) => (true, w)
  | (.disconnected, w) => (false, w)
  | (.full, w) =>
    (false,
      w.note side ⟨.warn, .thread, "render queue full; task posted from the render thread dropped"⟩)

/-! ### The end of proxies -/

/-- Ends a proxy, first saying that it was given up if it was. -/
def endProxy (side : Side) (givenUp : Bool) (entry : ProxyEntry) (w : World) : World :=
  let p := entry.proxy
  let w := if givenUp then w.noteAll side p.dropReport else w
  if p.announcesEnd then
    let (delivery, w) := w.send side entry.thread (.message p.handle .dispose)
    w.noteAll side (p.endDelivered delivery)
  else w

/-- Gives a proxy a name. The one that had the name before is given up, unless a call on it is under
way: then whoever makes the call gives it up afterwards. -/
def nameProxy (side : Side) (name : Name) (entry : ProxyEntry) (w : World) : World :=
  let before := w.proxyNames.get? name
  let w := { w with proxyNames := w.proxyNames.insert name entry }
  match before with
  | none => w
  | some old => if old.held then w else w.endProxy side true old

/-- Marks a named proxy as one with a call under way. -/
def holdProxy (name : Name) (w : World) : World :=
  { w with proxyNames := w.proxyNames.modify name fun entry => { entry with held := true } }

/-- Puts a proxy back under its name after a call. One that lost its name meanwhile is given up. -/
def releaseProxy (side : Side) (name : Name) (entry : ProxyEntry) (w : World) : World :=
  if (w.proxyNames.get? name).any ProxyEntry.held then
    { w with proxyNames := w.proxyNames.insert name { entry with held := false } }
  else w.endProxy side true entry

/-! ### Recording -/

def nextListId (w : World) : ListId := ⟨w.lists + 1⟩

def nameList (name : Name) (list : DisplayList) (w : World) : World :=
  { w with lists := w.lists + 1, listNames := w.listNames.insert name list }

/-- Carries out one recorder operation. One on a thing that does not exist does nothing. -/
def recordStep (w : World) (r : Recorder) : RecordStep → Except Fault Recorder
  | .clear color => .ok (r.clearTo color)
  | .fill rect color => .ok (r.fillRect rect color)
  | .pushFill rect color => .ok (r.push (.fill rect color))
  | .functor name => .ok ((w.functorNames.get? name).elim r fun f => r.drawFunctor f.id)
  | .layer name dst => .ok ((w.layerNames.get? name).elim r fun h => r.drawLayer h dst)
  | .pushClip rect => .ok (r.pushClip rect)
  | .popClip => r.popClip
  | .reset => .ok .empty

/-- Carries out recorder operations up to the first fault. -/
def record : List RecordStep → World → Option Fault × World
  | [], w => (none, w)
  | step :: rest, w =>
    match w.recordStep w.recorder step with
    | .ok recorder => record rest { w with recorder }
    | .error fault => (some fault, w)

/-- Carries out recorder operations and ends the recording as a named list. -/
def recordList (name : Name) (steps : List RecordStep) (w : World) : Answer × World :=
  match record steps w with
  | (some fault, w) => (.fault fault, w)
  | (none, w) =>
    match w.recorder.finish w.nextListId with
    | .error fault => (.fault fault, w)
    | .ok (list, recorder) => (.list list, { w with recorder }.nameList name list)

end World

end RenderRelay.Session
