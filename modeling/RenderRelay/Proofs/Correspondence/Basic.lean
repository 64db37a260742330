import RenderRelay.Proofs.Correspondence.Renaming
import RenderRelay.Proofs.DeviceOp

/-!
Two backends side by side. A `Correspondence` relates the devices, canvases, layers and frames of
one backend to those of another such that every operation keeps them related; the layers may go
under other names. The engine then does the same on both (`Engine`), which is used for

* two devices of one backend, where a context is alone on one of them;
* a backend and the same one with a ledger of what it is asked;
* a device and itself, where the relation is an invariant.

What makes and releases objects is not part of a correspondence: it may break an invariant.
-/

namespace RenderRelay

open DeviceOp

variable {σ φ τ : Type} {B₁ B₂ : Backend σ}

/-- The same outcome twice, with related values. -/
inductive Outcome {α β : Type} (R : α → β → Prop) :
    Except RenderError α → Except RenderError β → Prop
  | ok {a : α} {b : β} (rel : R a b) : Outcome R (.ok a) (.ok b)
  | error (e : RenderError) : Outcome R (.error e) (.error e)

theorem isSome_of_rel {α β : Type} {R : α → β → Prop} {a : Option α} {b : Option β}
    (rel : Option.Rel R a b) : b.isSome = a.isSome := by
  cases rel <;> rfl

/-- How two backends and their hosts correspond. -/
structure Correspondence (H₁ : Host B₁ φ τ) (H₂ : Host B₂ φ τ) where
  rename : LayerHandle → LayerHandle
  injective : Function.Injective rename
  device : B₁.Device → B₂.Device → Prop
  canvas : B₁.Canvas → B₂.Canvas → Prop
  layer : LayerHandle → B₁.Layer → B₂.Layer → Prop
  frame : B₁.Frame → B₂.Frame → Prop
  surface : σ → Prop
  callback : FunctorId → φ → Prop
  backend : B₂.name = B₁.name
  capabilities : ∀ d₁ d₂, device d₁ d₂ → B₂.capabilities d₂ = B₁.capabilities d₁
  report : ∀ level reporter (text : LayerHandle → String) handle d₁ d₂, device d₁ d₂ →
    device (H₁.report ⟨level, reporter, text handle⟩ d₁)
      (H₂.report ⟨level, reporter, text (rename handle)⟩ d₂)
  invoke : ∀ id f f₁ f₂ info, callback id f → frame f₁ f₂ →
    Simulates device (fun r₁ r₂ => frame r₁.1 r₂.1 ∧ r₂.2 = r₁.2)
      (liftM (H₁.invoke f f₁ info)) (liftM (H₂.invoke f f₂ info))
  bindSurface : ∀ c₁ c₂ s viewport, canvas c₁ c₂ → surface s →
    Simulates device (fun r₁ r₂ => r₂.1 = r₁.1 ∧ canvas r₁.2 r₂.2)
      (B₁.bindSurface c₁ s viewport) (B₂.bindSurface c₂ s viewport)
  unbindSurface : ∀ c₁ c₂, canvas c₁ c₂ →
    Simulates device canvas (B₁.unbindSurface c₁) (B₂.unbindSurface c₂)
  resize : ∀ c₁ c₂ viewport, canvas c₁ c₂ →
    Simulates device (fun r₁ r₂ => r₂.1 = r₁.1 ∧ canvas r₁.2 r₂.2)
      (B₁.resize c₁ viewport) (B₂.resize c₂ viewport)
  beginFrame : ∀ c₁ c₂ damage, canvas c₁ c₂ →
    Simulates device (fun r₁ r₂ => Outcome (Option.Rel frame) r₁.1 r₂.1 ∧ canvas r₁.2 r₂.2)
      (B₁.beginFrame c₁ damage) (B₂.beginFrame c₂ damage)
  drawOp : ∀ f₁ f₂ item, frame f₁ f₂ →
    Simulates device frame (B₁.drawOp f₁ item) (B₂.drawOp f₂ item)
  flush : ∀ f₁ f₂, frame f₁ f₂ → Simulates device frame (B₁.flush f₁) (B₂.flush f₂)
  endFrame : ∀ c₁ c₂ f₁ f₂, canvas c₁ c₂ → frame f₁ f₂ →
    Simulates device (fun r₁ r₂ => r₂.1 = r₁.1 ∧ canvas r₁.2 r₂.2)
      (B₁.endFrame c₁ f₁) (B₂.endFrame c₂ f₂)
  beginLayerFrame : ∀ handle l₁ l₂, layer handle l₁ l₂ →
    Simulates device (fun r₁ r₂ => Outcome frame r₁.1 r₂.1 ∧ layer handle r₁.2 r₂.2)
      (B₁.beginLayerFrame l₁) (B₂.beginLayerFrame l₂)
  endLayerFrame : ∀ handle l₁ l₂ f₁ f₂, layer handle l₁ l₂ → frame f₁ f₂ →
    Simulates device (layer handle) (B₁.endLayerFrame l₁ f₁) (B₂.endLayerFrame l₂ f₂)
  drawLayer : ∀ handle f₁ f₂ l₁ l₂ dst clip, frame f₁ f₂ → layer handle l₁ l₂ →
    Simulates device frame (B₁.drawLayer f₁ l₁ dst clip) (B₂.drawLayer f₂ l₂ dst clip)
  copyLayer : ∀ handle l₁ l₂, layer handle l₁ l₂ →
    Simulates device (fun r₁ r₂ => r₂ = r₁) (B₁.copyLayer l₁) (B₂.copyLayer l₂)
  trimCaches : ∀ c₁ c₂, canvas c₁ c₂ →
    Simulates device canvas (B₁.trimCaches c₁) (B₂.trimCaches c₂)

namespace Correspondence

variable {H₁ : Host B₁ φ τ} {H₂ : Host B₂ φ τ} (C : Correspondence H₁ H₂)

/-! ### Making and releasing -/

/-- New layers correspond, and may be reported under these names. -/
structure CreatesLayers (fresh₁ fresh₂ : LayerHandle) : Prop where
  create : ∀ size, Simulates C.device (Outcome (C.layer fresh₁))
    (B₁.createLayer size) (B₂.createLayer size)
  report : ∀ level reporter (text : LayerHandle → String) d₁ d₂, C.device d₁ d₂ →
    C.device (H₁.report ⟨level, reporter, text fresh₁⟩ d₁)
      (H₂.report ⟨level, reporter, text fresh₂⟩ d₂)

def DestroysLayers : Prop :=
  ∀ handle l₁ l₂, C.layer handle l₁ l₂ →
    Simulates C.device (fun _ _ => True) (B₁.destroyLayer l₁) (B₂.destroyLayer l₂)

def DestroysCanvases : Prop :=
  ∀ c₁ c₂, C.canvas c₁ c₂ →
    Simulates C.device (fun _ _ => True) (B₁.destroyCanvas c₁) (B₂.destroyCanvas c₂)

/-! ### Registries and contexts -/

def Entry (handle : LayerHandle) (e₁ : LayerEntry B₁.Layer) (e₂ : LayerEntry B₂.Layer) : Prop :=
  C.layer handle e₁.layer e₂.layer ∧ e₂.size = e₁.size

structure Registries (r₁ : Registry B₁.Layer φ) (r₂ : Registry B₂.Layer φ) : Prop where
  functors : r₂.functors = r₁.functors
  callbacks : ∀ id f, r₁.functors.get? id = some f → C.callback id f
  layers : Table.Alike C.rename C.Entry r₁.layers r₂.layers
  pending : r₂.pending = r₁.pending.map (renameUpdate C.rename)
  lastDrawn : r₂.lastDrawn = r₁.lastDrawn.map (·.rename C.rename)

/-- Contexts that correspond: they differ in what the backends made at most. -/
inductive Contexts : Context B₁ φ → Context B₂ φ → Prop
  | of_parts {h : ProxyHandle} {name : String} {viewport : Option Viewport} {bound redraw : Bool}
      {stats : FrameStats} {canvas₁ : Option B₁.Canvas} {canvas₂ : Option B₂.Canvas}
      {r₁ : Registry B₁.Layer φ} {r₂ : Registry B₂.Layer φ}
      (canvas : Option.Rel C.canvas canvas₁ canvas₂) (registry : C.Registries r₁ r₂) :
    Contexts ⟨h, name, canvas₁, r₁, viewport, bound, redraw, stats⟩
      ⟨h, name, canvas₂, r₂, viewport, bound, redraw, stats⟩

/-- What a command needs of a correspondence beyond its being one, where these are the names for a
layer that it may make. -/
def Supports (fresh₁ fresh₂ : LayerHandle) : Command σ φ → Prop
  | .bindSurface s => C.surface s
  | .updateSurface s => ∀ t, s = some t → C.surface t
  | .attachFunctor functor => C.callback functor.id functor.callback
  | .createLayer _ => C.CreatesLayers fresh₁ fresh₂
  | .destroyLayer _ => C.DestroysLayers
  | .destroy full => full = true → C.DestroysLayers ∧ C.DestroysCanvases
  | _ => True

variable {C}

namespace Registries

variable {r₁ : Registry B₁.Layer φ} {r₂ : Registry B₂.Layer φ}

theorem empty : C.Registries .empty .empty where
  functors := rfl
  callbacks := by simp [Registry.empty]
  layers := .empty
  pending := rfl
  lastDrawn := rfl

theorem layer? (rel : C.Registries r₁ r₂) (handle : LayerHandle) :
    Option.Rel (C.Entry handle) (r₁.layers.get? handle) (r₂.layers.get? (C.rename handle)) :=
  rel.layers.get? C.injective handle

/-- A layer has a name on one side just if it has the new name on the other. -/
theorem contains (rel : C.Registries r₁ r₂) (handle : LayerHandle) :
    r₂.layers.contains (C.rename handle) = r₁.layers.contains handle :=
  isSome_of_rel (rel.layer? handle)

theorem cachedLists (rel : C.Registries r₁ r₂) : r₂.cachedLists = r₁.cachedLists := by
  simp [Registry.cachedLists, rel.pending, rel.lastDrawn]

theorem withLayers (rel : C.Registries r₁ r₂) {t₁ : Table LayerHandle (LayerEntry B₁.Layer)}
    {t₂ : Table LayerHandle (LayerEntry B₂.Layer)} (alike : Table.Alike C.rename C.Entry t₁ t₂) :
    C.Registries { r₁ with layers := t₁ } { r₂ with layers := t₂ } :=
  ⟨rel.functors, rel.callbacks, alike, rel.pending, rel.lastDrawn⟩

theorem insertLayer (rel : C.Registries r₁ r₂) {handle : LayerHandle} {e₁ : LayerEntry B₁.Layer}
    {e₂ : LayerEntry B₂.Layer} (entry : C.Entry handle e₁ e₂) :
    C.Registries (r₁.insertLayer handle e₁) (r₂.insertLayer (C.rename handle) e₂) :=
  rel.withLayers (rel.layers.insert C.injective entry)

theorem takeLayer (rel : C.Registries r₁ r₂) (handle : LayerHandle) :
    C.Registries (r₁.takeLayer handle) (r₂.takeLayer (C.rename handle)) :=
  rel.withLayers (rel.layers.erase C.injective handle)

theorem removeLayer (rel : C.Registries r₁ r₂) (handle : LayerHandle) :
    C.Registries (r₁.removeLayer handle) (r₂.removeLayer (C.rename handle)) where
  functors := rel.functors
  callbacks := rel.callbacks
  layers := rel.layers.erase C.injective handle
  pending := by
    simp only [Registry.removeLayer, rel.pending]
    exact filter_map_rename C.injective handle r₁.pending
  lastDrawn := rel.lastDrawn

theorem attach? (rel : C.Registries r₁ r₂) (id : FunctorId) {f : φ} (allowed : C.callback id f) :
    Option.Rel C.Registries (r₁.attach? id f) (r₂.attach? id f) := by
  unfold Registry.attach?
  rw [rel.functors]
  split
  · exact .none
  · refine .some ⟨rfl, fun id' f' found => ?_, rel.layers, rel.pending, rel.lastDrawn⟩
    rw [Table.get?_insert] at found
    split at found
    case isTrue same => exact same ▸ Option.some.inj found ▸ allowed
    case isFalse => exact rel.callbacks id' f' found

theorem detach? (rel : C.Registries r₁ r₂) (id : FunctorId) :
    Option.Rel C.Registries (r₁.detach? id) (r₂.detach? id) := by
  unfold Registry.detach?
  rw [rel.functors]
  split
  · refine .some ⟨rfl, fun id' f' found => ?_, rel.layers, rel.pending, rel.lastDrawn⟩
    rw [Table.get?_erase] at found
    split at found
    · simp at found
    · exact rel.callbacks id' f' found
  · exact .none

theorem queueUpdate? (rel : C.Registries r₁ r₂) (handle : LayerHandle) (list : DisplayList) :
    Option.Rel C.Registries (r₁.queueUpdate? handle list)
      (r₂.queueUpdate? (C.rename handle) (list.rename C.rename)) := by
  unfold Registry.queueUpdate?
  rw [rel.contains, rel.pending]
  split
  · refine .some ⟨rel.functors, rel.callbacks, rel.layers, ?_, rel.lastDrawn⟩
    exact enqueue_map_rename C.injective handle list r₁.pending
  · exact .none

/-- The updates that wait are carried out; the list drawn last is another one. -/
theorem settled (rel : C.Registries r₁ r₂) :
    C.Registries { r₁ with pending := [] } { r₂ with pending := [] } :=
  ⟨rel.functors, rel.callbacks, rel.layers, rfl, rel.lastDrawn⟩

theorem remember (rel : C.Registries r₁ r₂) (last : Option DisplayList) :
    C.Registries { r₁ with lastDrawn := last }
      { r₂ with lastDrawn := last.map (·.rename C.rename) } :=
  ⟨rel.functors, rel.callbacks, rel.layers, rel.pending, rfl⟩

end Registries

namespace Contexts

variable {c₁ : Context B₁ φ} {c₂ : Context B₂ φ}

theorem ofCanvas (h : ProxyHandle) {canvas₁ : B₁.Canvas} {canvas₂ : B₂.Canvas}
    (canvas : C.canvas canvas₁ canvas₂) :
    C.Contexts (.ofCanvas h canvas₁) (.ofCanvas h canvas₂) :=
  .of_parts (.some canvas) .empty

theorem registry (rel : C.Contexts c₁ c₂) : C.Registries c₁.registry c₂.registry := by
  cases rel with
  | of_parts canvas registry => exact registry

theorem canvas (rel : C.Contexts c₁ c₂) : Option.Rel C.canvas c₁.canvas c₂.canvas := by
  cases rel with
  | of_parts canvas registry => exact canvas

theorem info (rel : C.Contexts c₁ c₂) {d₁ : B₁.Device} {d₂ : B₂.Device}
    (devices : C.device d₁ d₂) : c₂.info d₂ = c₁.info d₁ := by
  cases rel with
  | of_parts canvas registry =>
    simp only [Context.info, C.backend, C.capabilities d₁ d₂ devices, registry.functors,
      registry.layers.size, registry.cachedLists, ← Option.not_isSome, isSome_of_rel canvas]

end Contexts

end Correspondence

end RenderRelay
