import RenderRelay.Backend.Headless
import RenderRelay.Backend.Traced
import RenderRelay.Display.Recorder
import RenderRelay.Engine.Proxy
import RenderRelay.Sweep

/-!
Sessions: written sequences of steps on render threads, proxies, lists and surfaces, and what each
step answers. Things are called by names that a session gives them. Callbacks and tasks are written
too, as scripts of actions.
-/

namespace RenderRelay.Session

abbrev Name := String

/-! ### Steps -/

/-- A step on a proxy. -/
inductive ProxyStep where
  | bindSurface (surface : Name)
  | updateSurface (surface : Option Name)
  | setup (size : Viewport)
  | draw (list : Name) (dirty : Option DamageBox)
  | repeatLastDraw
  | destroy (full : Bool)
  | attachFunctor (functor : Name)
  | detachFunctor (functor : Name)
  | createLayer (layer : Name) (size : Viewport)
  | pushLayerUpdate (layer list : Name)
  | flushLayerUpdates
  | copyLayer (layer : Name)
  | destroyLayer (layer : Name)
  /-- Releases the resources of a tree, then the caches of the context. -/
  | sweep (tree : ChildTable) (root : Nat)
  | setName (name : String)
  | info
  | dump
  | debug
  | about
  | fence
  | dispose
  /-- Gives the proxy up without disposing of it. -/
  | drop

/-- The making of a proxy. A strict one fails where another would come without a context. -/
structure ProxyRequest where
  proxy : Name
  thread : Name
  translucent : Bool
  strict : Bool

/-- An action of a script. -/
inductive Action where
  | mark (label : String)
  | panic
  | call (proxy : Name) (step : ProxyStep)
  | post (thread task : Name) (actions : List Action)
  | proxy (request : ProxyRequest)
  /-- What the callback was told of its frame. -/
  | info
  | pixel (x y : Nat)
  | damage
  | fill (rect : Rect) (color : Color)
  | rawFill (area : PixelBox) (color : Color)
  | rawBlend (area : PixelBox) (color : Color)
  | other (name : String)
  deriving Inhabited

def Action.name : Action → String
  | mark _ => "mark"
  | panic => "panic"
  | call .. => "call"
  | post .. => "post"
  | proxy _ => "proxy"
  | info => "info"
  | pixel .. => "pixel"
  | damage => "damage"
  | fill .. => "fill"
  | rawFill .. => "raw_fill"
  | rawBlend .. => "raw_blend"
  | other name => name

/-- The actions of a callback or task, and what that is called. -/
structure Script where
  owner : Name
  actions : List Action
  deriving Inhabited

/-- A recorder operation. -/
inductive RecordStep where
  | clear (color : Color)
  | fill (rect : Rect) (color : Color)
  /-- Records a fill as it is, also an empty one. -/
  | pushFill (rect : Rect) (color : Color)
  | functor (functor : Name)
  | layer (layer : Name) (dst : Rect)
  | pushClip (rect : Rect)
  | popClip
  | reset

/-- How a thread is started: the name it runs under, the places on its queue, and what its backend
is set up with. -/
structure SpawnRequest where
  thread : Name
  label : String
  capacity : Nat
  config : Headless.Config

/-- The places on a queue where nothing else is asked for. -/
def standardCapacity : Nat := 64

/-- How the making of a backend fails. -/
inductive SpawnFailure where
  | panicked
  | refused (reason : String)

/-- A step of a session. -/
inductive Step where
  | spawn (request : SpawnRequest) (failure : Option SpawnFailure)
  | shutdown (thread : Name)
  | proxy (request : ProxyRequest)
  | surface (surface : Name) (label : String) (unallocatable : Bool)
  | snapshot (surface : Name)
  | compareSurfaces (a b : Name)
  | pixel (surface : Name) (x y : Nat)
  | functor (functor : Name) (actions : List Action)
  | record (steps : List RecordStep)
  | list (list : Name) (steps : List RecordStep)
  | emptyList (list : Name)
  | sameList (a b : Name)
  | post (thread task : Name) (actions : List Action)
  | call (proxy : Name) (step : ProxyStep)

/-! ### Answers -/

/-- What a step on a proxy answers. -/
inductive CallAnswer where
  | outcome (outcome : CallOutcome)
  | text (text : String)
  | facts (proxy : Proxy)
  | swept (visited : Nat) (released : List Nat)

/-- What a step or an action answers. -/
inductive Answer where
  | nothing
  | ok
  /-- What the step is about is not there any more. -/
  | gone
  /-- Another call on the proxy is under way. -/
  | busy
  | truth (value : Bool)
  | failed (error : RenderError)
  | fault (fault : Fault)
  | spawned (backend : String) (capabilities : Capabilities)
  | notSpawned (reason : String)
  | call (answer : CallAnswer) (proxy : Proxy)
  | proxy (proxy : Proxy)
  | functor (id : FunctorId)
  | list (list : DisplayList)
  /-- What a surface shows, where the backend presents at all. -/
  | snapshot (label : String) (shown : Option Presentation)
  | compared (equal : Bool) (order : Ordering)
  | pixel (pixel : Option Pixel)
  | mark (label : String)
  | frameInfo (info : FunctorInfo)
  | area (area : PixelBox)

/-- Something that came about on a render thread. -/
inductive Event where
  /-- An action of a script was carried out. -/
  | action (owner : Name) (action : String) (value : Answer)
  | backend (call : Traced.BackendCall)
  | functorOp (action : String)

/-- An answer, with what came about and was reported meanwhile. -/
structure StepReport where
  answer : Answer
  events : List Event
  control : List LogRecord
  render : List LogRecord

end RenderRelay.Session
