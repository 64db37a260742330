import Mathlib.Logic.Function.Basic
import RenderRelay.Proofs.Exchange.Replies

/-!
A render thread, its queue and the proxies that send to it, as one system.

Each proxy belongs to a control thread that makes one call at a time; a `Party` is a proxy, how far
its thread is with a call, and the place for one reply. Whoever acts next takes one `Step`, so that
the reachable states are those of every interleaving. What is handled and with which reply is kept
in a journal that no step looks at.

The thread drops what it has when it stops: first the contexts, one by one, and each with the only
sender for its proxy's replies; then the queue and all that is on it. A fault drops all of it.
-/

namespace RenderRelay.Exchange

variable {σ φ τ : Type} {B : Backend σ}

/-! ### Control threads -/

/-- What a proxy wants of the render thread. -/
inductive Errand (σ φ : Type) where
  | opening (translucent : Bool)
  | request (call : Call σ φ) (command : Command σ φ)
  | notice (command : Command σ φ)
  | closing

namespace Errand

def message : Errand σ φ → Message σ φ
  | opening translucent => .create translucent
  | request _ command => .run command
  | notice command => .run command
  | closing => .dispose

def replyKind : Errand σ φ → Option ReplyKind
  | opening _ => some .created
  | request call _ => call.replyKind
  | notice _ => none
  | closing => none

/-- The proxy after a reply, or after none could come. One whose context was not made is given
up. -/
def conclude (p : Proxy) : Errand σ φ → Option Reply → Proxy
  | opening _, reply =>
    match p.opened reply with
    | .ok p => p
    | .error _ => .withoutContext p.capabilities p.translucent
  | request call _, reply => (p.conclude call reply).1
  | notice _, _ => p
  | closing, _ => p

end Errand

/-- How far the owner of a proxy is. -/
inductive Phase (σ φ : Type) where
  | unborn
  | idle
  | sending (errand : Errand σ φ)
  | waiting (number : Nat) (errand : Errand σ φ)
  | gone

/-- A proxy with its owner, and the place for a reply. -/
structure Party (σ φ : Type) where
  proxy : Proxy
  phase : Phase σ φ
  slot : Option Reply

namespace Party

def begin (party : Party σ φ) (call : Call σ φ) : Party σ φ :=
  match party.proxy.plan call with
  | (p, .answer _) => { party with proxy := p }
  | (p, .notify command _) => { party with proxy := p, phase := .sending (.notice command) }
  | (p, .ask command) => { party with proxy := p, phase := .sending (.request call command) }

def close (party : Party σ φ) : Party σ φ :=
  { party with phase := if party.proxy.announcesEnd then .sending .closing else .gone }

def submitted (party : Party σ φ) (number : Nat) (errand : Errand σ φ) : Party σ φ :=
  { party with
    phase :=
      match errand with
      | .opening _ => .waiting number errand
      | .request .. => .waiting number errand
      | .notice _ => .idle
      | .closing => .gone }

/-- The thread was gone before the message got on its queue. -/
def undelivered (party : Party σ φ) (errand : Errand σ φ) : Party σ φ :=
  match errand with
  | .closing => { party with phase := .gone }
  | errand =>
    { party with
      proxy := errand.conclude (party.proxy.delivered errand.message.name .disconnected).1 none
      phase := .idle }

def receive (party : Party σ φ) (errand : Errand σ φ) (reply : Reply) : Party σ φ :=
  { party with proxy := errand.conclude party.proxy (some reply), phase := .idle, slot := none }

def abandon (party : Party σ φ) (errand : Errand σ φ) : Party σ φ :=
  { party with proxy := errand.conclude party.proxy.abandoned.1 none, phase := .idle }

/-- The place for a reply is there until the proxy ends or gives its handle up. -/
def listens (party : Party σ φ) : Bool :=
  match party.phase with
  | .unborn => false
  | .gone => false
  | _ => party.proxy.handle.isValid

/-- The render thread's attempt to leave a reply; it does not wait. -/
def offer (party : Party σ φ) (reply : Reply) : Party σ φ × Delivery :=
  if party.listens then
    match party.slot with
    | none => ({ party with slot := some reply }, .queued)
    | some _ => (party, .full)
  else (party, .disconnected)

end Party

/-! ### The render thread -/

/-- An envelope on the queue and its number. -/
structure Ticket (σ φ τ : Type) where
  number : Nat
  envelope : Envelope σ φ τ

/-- An envelope that was handled, and what was replied. -/
structure Entry (σ φ τ : Type) where
  ticket : Ticket σ φ τ
  answer : Option Acknowledgement

inductive Engine {σ : Type} (B : Backend σ) (φ τ : Type) where
  | ready (loop : RenderLoop B φ) (device : B.Device)
  | busy (loop : RenderLoop B φ) (device : B.Device) (ticket : Ticket σ φ τ)
  | closing (left : Table ProxyHandle (Context B φ))
  | ended

namespace Engine

def Running : Engine B φ τ → Prop
  | ready .. => True
  | busy .. => True
  | closing _ => False
  | ended => False

/-- The thread has a context of this name, and with it a sender for the replies. -/
def Knows (engine : Engine B φ τ) (h : ProxyHandle) : Prop :=
  match engine with
  | ready loop _ => loop.Knows h
  | busy loop _ _ => loop.Knows h
  | closing left => (left.get? h).isSome
  | ended => False

/-- What was taken off the queue and is not handled yet. -/
def inHand : Engine B φ τ → List (Ticket σ φ τ)
  | busy _ _ ticket => [ticket]
  | _ => []

end Engine

/-! ### The system -/

structure State {σ : Type} (B : Backend σ) (φ τ : Type) where
  handles : Nat
  issued : Nat
  parties : ProxyHandle → Party σ φ
  queue : List (Ticket σ φ τ)
  engine : Engine B φ τ
  journal : List (Entry σ φ τ)

namespace State

def pending (s : State B φ τ) : List (Ticket σ φ τ) := s.engine.inHand ++ s.queue

/-- The message of a proxy that a ticket carries, and the ticket's number. -/
def messageOf? (h : ProxyHandle) (ticket : Ticket σ φ τ) : Option (Nat × Message σ φ) :=
  match ticket.envelope with
  | .message k message => if k = h then some (ticket.number, message) else none
  | .task _ => none
  | .shutdown => none

/-- The messages of a proxy that are not handled yet, oldest first. -/
def mail (s : State B φ τ) (h : ProxyHandle) : List (Nat × Message σ φ) :=
  s.pending.filterMap (messageOf? h)

/-- Somewhere there is a sender for replies to this proxy: with its context, or with the message
that asks for one. -/
def SenderAlive (s : State B φ τ) (h : ProxyHandle) : Prop :=
  s.engine.Knows h ∨ ∃ number translucent, (number, .create translucent) ∈ s.mail h

def setParty (s : State B φ τ) (h : ProxyHandle) (party : Party σ φ) : State B φ τ :=
  { s with parties := Function.update s.parties h party }

def push (s : State B φ τ) (envelope : Envelope σ φ τ) : State B φ τ :=
  { s with issued := s.issued + 1, queue := s.queue ++ [⟨s.issued, envelope⟩] }

/-- Notes an envelope as handled; the thread goes on from there. -/
def handled (s : State B φ τ) (engine : Engine B φ τ) (ticket : Ticket σ φ τ)
    (answer : Option Acknowledgement) : State B φ τ :=
  { s with engine, journal := s.journal ++ [⟨ticket, answer⟩] }

def ended (s : State B φ τ) : State B φ τ := { s with engine := .ended, queue := [] }

def start (device : B.Device) (nextLayer : LayerHandle) : State B φ τ where
  handles := 0
  issued := 0
  parties h := ⟨.ofHandle h .none false, .unborn, none⟩
  queue := []
  engine := .ready (.start nextLayer) device
  journal := []

end State

/-- What can be seen of a step from outside. -/
inductive Event (σ φ : Type) where
  | silent
  | acknowledges (acknowledgement : Acknowledgement) (delivery : Delivery)
  | returns (handle : ProxyHandle) (errand : Errand σ φ) (reply : Option Reply)

/-- The event of an errand that ended without a reply. -/
def Event.ofFailed (h : ProxyHandle) (errand : Errand σ φ) : Event σ φ :=
  if errand.replyKind.isSome then .returns h errand none else .silent

open State in
inductive Step (H : Host B φ τ) (capacity : Nat) (capabilities : Capabilities)
    (s : State B φ τ) : Event σ φ → State B φ τ → Prop
  | opens (translucent : Bool) :
    Step H capacity capabilities s .silent
      { s with
        handles := s.handles + 1
        parties := Function.update s.parties ⟨s.handles + 1⟩
          ⟨.ofHandle ⟨s.handles + 1⟩ capabilities translucent,
            .sending (.opening translucent), none⟩ }
  | calls {h : ProxyHandle} (call : Call σ φ) (idle : (s.parties h).phase = .idle) :
    Step H capacity capabilities s .silent (s.setParty h ((s.parties h).begin call))
  | closes {h : ProxyHandle} (idle : (s.parties h).phase = .idle) :
    Step H capacity capabilities s .silent (s.setParty h (s.parties h).close)
  | submits {h : ProxyHandle} {errand : Errand σ φ} (phase : (s.parties h).phase = .sending errand)
      (room : s.queue.length < capacity) (there : s.engine ≠ .ended) :
    Step H capacity capabilities s .silent
      ((s.push (.message (s.parties h).proxy.handle errand.message)).setParty h
        ((s.parties h).submitted s.issued errand))
  | fails {h : ProxyHandle} {errand : Errand σ φ} (phase : (s.parties h).phase = .sending errand)
      (ended : s.engine = .ended) :
    Step H capacity capabilities s (.ofFailed h errand)
      (s.setParty h ((s.parties h).undelivered errand))
  | receives {h : ProxyHandle} {number : Nat} {errand : Errand σ φ} {reply : Reply}
      (phase : (s.parties h).phase = .waiting number errand)
      (slot : (s.parties h).slot = some reply) :
    Step H capacity capabilities s (.returns h errand (some reply))
      (s.setParty h ((s.parties h).receive errand reply))
  | abandons {h : ProxyHandle} {number : Nat} {errand : Errand σ φ}
      (phase : (s.parties h).phase = .waiting number errand) (slot : (s.parties h).slot = none)
      (dead : ¬s.SenderAlive h) :
    Step H capacity capabilities s (.returns h errand none)
      (s.setParty h ((s.parties h).abandon errand))
  | posts (task : τ) (room : s.queue.length < capacity) (there : s.engine ≠ .ended) :
    Step H capacity capabilities s .silent (s.push (.task task))
  | shutsDown (room : s.queue.length < capacity) (there : s.engine ≠ .ended) :
    Step H capacity capabilities s .silent (s.push .shutdown)
  | takes {loop : RenderLoop B φ} {d : B.Device} {ticket : Ticket σ φ τ}
      {rest : List (Ticket σ φ τ)} (engine : s.engine = .ready loop d)
      (queue : s.queue = ticket :: rest) :
    Step H capacity capabilities s .silent { s with engine := .busy loop d ticket, queue := rest }
  | serves {loop loop' : RenderLoop B φ} {d d' : B.Device} {ticket : Ticket σ φ τ}
      (engine : s.engine = .busy loop d ticket)
      (served : (loop.serve H ticket.envelope).runOn d = (.ok (.next loop' none), d')) :
    Step H capacity capabilities s .silent (s.handled (.ready loop' d') ticket none)
  | answers {loop loop' : RenderLoop B φ} {d d' : B.Device} {ticket : Ticket σ φ τ}
      {ack : Acknowledgement} (engine : s.engine = .busy loop d ticket)
      (served : (loop.serve H ticket.envelope).runOn d = (.ok (.next loop' (some ack)), d')) :
    Step H capacity capabilities s
      (.acknowledges ack ((s.parties ack.handle).offer ack.reply).2)
      ((s.handled (.ready loop' d') ticket (some ack)).setParty ack.handle
        ((s.parties ack.handle).offer ack.reply).1)
  | stops {loop : RenderLoop B φ} {d d' : B.Device} {ticket : Ticket σ φ τ}
      (engine : s.engine = .busy loop d ticket)
      (served : (loop.serve H ticket.envelope).runOn d = (.ok .stopped, d')) :
    Step H capacity capabilities s .silent (s.handled (.closing loop.contexts) ticket none)
  | dies {loop : RenderLoop B φ} {d d' : B.Device} {ticket : Ticket σ φ τ} {fault : Fault}
      (engine : s.engine = .busy loop d ticket)
      (served : (loop.serve H ticket.envelope).runOn d = (.error fault, d')) :
    Step H capacity capabilities s .silent s.ended
  | releases {left : Table ProxyHandle (Context B φ)} (h : ProxyHandle)
      (engine : s.engine = .closing left) :
    Step H capacity capabilities s .silent { s with engine := .closing (left.erase h) }
  | disconnects {left : Table ProxyHandle (Context B φ)} (engine : s.engine = .closing left)
      (empty : left.entries = []) :
    Step H capacity capabilities s .silent s.ended

/-- The states that some run of the system gets to. -/
inductive Reachable (H : Host B φ τ) (capacity : Nat) (capabilities : Capabilities) :
    State B φ τ → Prop
  | start (device : B.Device) (nextLayer : LayerHandle) :
    Reachable H capacity capabilities (.start device nextLayer)
  | step {s s' : State B φ τ} {event : Event σ φ} (reachable : Reachable H capacity capabilities s)
      (step : Step H capacity capabilities s event s') : Reachable H capacity capabilities s'

end RenderRelay.Exchange
