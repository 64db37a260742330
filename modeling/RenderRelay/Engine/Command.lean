import RenderRelay.Bitmap
import RenderRelay.Capabilities
import RenderRelay.Display.DisplayList
import RenderRelay.Geometry.Damage
import RenderRelay.RenderError

/-!
What travels between proxies and a render thread: commands one way, replies the other.
-/

namespace RenderRelay

/-- A draw callback and its name. -/
structure Functor (φ : Type) where
  id : FunctorId
  callback : φ

/-- What a context can be told to do. -/
inductive Command (σ φ : Type) where
  | bindSurface (surface : σ)
  | updateSurface (surface : Option σ)
  | setup (viewport : Viewport)
  | draw (list : DisplayList) (record : DamageBox)
  | repeatLastDraw
  | destroy (full : Bool)
  | attachFunctor (functor : Functor φ)
  | detachFunctor (id : FunctorId)
  | createLayer (size : Viewport)
  | pushLayerUpdate (layer : LayerHandle) (list : DisplayList)
  | flushLayerUpdates
  | copyLayer (layer : LayerHandle)
  | destroyLayer (layer : LayerHandle)
  | flushCaches
  | setName (name : String)
  | dumpInfo
  | fence

def Command.name {σ φ : Type} : Command σ φ → String
  | bindSurface _ => "initialize"
  | updateSurface _ => "update_surface"
  | setup _ => "setup"
  | draw .. => "draw"
  | repeatLastDraw => "repeat_last_draw"
  | destroy _ => "destroy"
  | attachFunctor _ => "attach_functor"
  | detachFunctor _ => "detach_functor"
  | createLayer _ => "create_layer"
  | pushLayerUpdate .. => "push_layer_update"
  | flushLayerUpdates => "flush_layer_updates"
  | copyLayer _ => "copy_layer"
  | destroyLayer _ => "destroy_layer"
  | flushCaches => "flush_caches"
  | setName _ => "set_name"
  | dumpInfo => "dump_info"
  | fence => "fence"

/-- What a proxy sends: the making of its context, commands for it, and its end. -/
inductive Message (σ φ : Type) where
  | create (translucent : Bool)
  | run (command : Command σ φ)
  | dispose

def Message.name {σ φ : Type} : Message σ φ → String
  | create _ => "create"
  | run command => command.name
  | dispose => "dispose"

/-- One piece of work on a render thread's queue. -/
inductive Envelope (σ φ τ : Type) where
  | message (handle : ProxyHandle) (message : Message σ φ)
  | task (task : τ)
  | shutdown

/-- What became of a draw. -/
inductive DrawStatus where
  | drawn
  | skipped
  deriving DecidableEq

/-- The frames a context drew and skipped. -/
structure FrameStats where
  drawn : Nat
  skipped : Nat
  deriving DecidableEq, Inhabited

def FrameStats.count (s : FrameStats) : DrawStatus → FrameStats
  | .drawn => { s with drawn := s.drawn + 1 }
  | .skipped => { s with skipped := s.skipped + 1 }

/-- What a context looked like when it was asked. -/
structure ContextInfo where
  name : String
  backend : String
  handle : ProxyHandle
  capabilities : Capabilities
  viewport : Option Viewport
  surfaceBound : Bool
  destroyed : Bool
  stats : FrameStats
  functors : Nat
  layers : Nat
  cachedLists : Nat
  deriving DecidableEq

/-- The report on a context, without a line end after the last line. -/
def ContextInfo.text (info : ContextInfo) : String :=
  "\n".intercalate <|
    [s!"Render context '{info.name}' ({info.handle.text}, {info.backend})",
      s!"  capabilities: {info.capabilities.text}",
      match info.viewport with
      | some v => s!"  viewport: {v.width}x{v.height}"
      | none => "  viewport: unset",
      s!"  surface bound: {info.surfaceBound}"] ++
    (if info.destroyed then ["  destroyed: resources released"] else []) ++
    [s!"  frames: {info.stats.drawn} drawn, {info.stats.skipped} skipped",
      s!"  registry: {info.functors} functors, {info.layers} layers, "
        ++ s!"{info.cachedLists} cached display lists"]

/-- The answer to a command that its sender waits for. -/
inductive Reply where
  | created (result : Except RenderError Unit)
  | done
  | surface (result : Except RenderError Unit)
  | resized (result : Except RenderError Unit)
  | drawn (status : DrawStatus)
  | layer (result : Except RenderError LayerHandle)
  | pixels (result : Except RenderError Bitmap)
  | info (info : ContextInfo)

end RenderRelay
