import RenderRelay.Proofs.Evolution

/-!
Contexts with another canvas. Layers and callbacks are kept apart from the canvas, so what commands
do to them they do whatever canvas there is (`dispatch_withCanvas`).
-/

namespace RenderRelay

variable {σ φ τ : Type} {B : Backend σ}

/-- The command leaves the canvas and what is valid on it alone. -/
def Command.sparesCanvas : Command σ φ → Bool
  | bindSurface _ => false
  | updateSurface _ => false
  | setup _ => false
  | draw .. => false
  | repeatLastDraw => false
  | destroy _ => false
  | flushCaches => false
  | _ => true

namespace Context

variable (H : Host B φ τ)

def withCanvas (c : Context B φ) (canvas : Option B.Canvas) (needsFullRedraw : Bool) :
    Context B φ :=
  { c with canvas, needsFullRedraw }

variable (c : Context B φ) (canvas : Option B.Canvas) (redraw : Bool)

@[simp] theorem withCanvas_needsFullRedraw :
    (c.withCanvas canvas redraw).needsFullRedraw = redraw := rfl

theorem redrawLayer_withCanvas (handle : LayerHandle) (list : DisplayList) :
    redrawLayer H (c.withCanvas canvas redraw) handle list =
      (do return (← redrawLayer H c handle list).withCanvas canvas redraw) := by
  have same : (c.withCanvas canvas redraw).registry.layers = c.registry.layers := rfl
  unfold redrawLayer
  rw [same]
  cases c.registry.layers.get? handle with
  | none => rfl
  | some entry =>
    simp only [bind_assoc]
    refine bind_congr fun begun => ?_
    obtain ⟨e | frame, layer⟩ := begun
    · simp only [bind_assoc]
      rfl
    · simp only [bind_assoc, pure_bind]
      rfl

theorem redrawLayers_withCanvas (updates : List (LayerHandle × DisplayList)) :
    redrawLayers H updates (c.withCanvas canvas redraw) =
      (do return (← redrawLayers H updates c).withCanvas canvas redraw) := by
  induction updates generalizing c with
  | nil => rfl
  | cons update rest ih =>
    simp only [redrawLayers, redrawLayer_withCanvas, bind_assoc, pure_bind, ih]

/-- **Waiting updates do not depend on the canvas.** -/
theorem applyLayerUpdates_withCanvas :
    applyLayerUpdates H (c.withCanvas canvas redraw) =
      (do return (← applyLayerUpdates H c).withCanvas canvas redraw) :=
  redrawLayers_withCanvas H { c with registry := { c.registry with pending := [] } } canvas redraw
    c.registry.pending

variable {c canvas}

theorem createLayer_withCanvas (there : canvas.isSome = c.canvas.isSome) (fresh : LayerHandle)
    (size : Viewport) :
    (c.withCanvas canvas redraw).createLayer H fresh size =
      c.createLayer H fresh size >>= fun r => pure (r.1, r.2.withCanvas canvas redraw) := by
  have held : (c.withCanvas canvas redraw).canvas = canvas := rfl
  unfold createLayer
  rw [held]
  cases canvas with
  | none =>
    have none : c.canvas = none := by simpa using there.symm
    rw [none]
    rfl
  | some _ =>
    obtain ⟨_, own⟩ := Option.isSome_iff_exists.1 there.symm
    simp only [own, bind_assoc]
    refine bind_congr fun made => ?_
    cases made with
    | error e => rfl
    | ok layer => rfl

theorem info_withCanvas (there : canvas.isSome = c.canvas.isSome) (d : B.Device) :
    (c.withCanvas canvas redraw).info d = c.info d := by
  simp only [info, withCanvas, ← Option.not_isSome, there]

/-- **A command that spares the canvas does the same with another one.** -/
theorem execute_withCanvas (there : canvas.isSome = c.canvas.isSome) (fresh : LayerHandle)
    {command : Command σ φ} (spares : command.sparesCanvas = true) :
    (c.withCanvas canvas redraw).execute H fresh command =
      c.execute H fresh command >>= fun r => pure (r.1, r.2.withCanvas canvas redraw) := by
  have updates := applyLayerUpdates_withCanvas H c canvas redraw
  have registry : (c.withCanvas canvas redraw).registry = c.registry := rfl
  cases command with
  | attachFunctor functor =>
    simp only [execute, registry]
    cases c.registry.attach? functor.id functor.callback <;> simp only [bind_assoc, pure_bind] <;>
      rfl
  | detachFunctor id =>
    simp only [execute, registry]
    cases c.registry.detach? id <;> simp only [bind_assoc, pure_bind] <;> rfl
  | createLayer size =>
    simp only [execute, createLayer_withCanvas H redraw there, bind_assoc, pure_bind]
  | pushLayerUpdate layer list =>
    simp only [execute, registry]
    cases c.registry.queueUpdate? layer list <;> simp only [bind_assoc, pure_bind] <;> rfl
  | flushLayerUpdates => simp only [execute, updates, bind_assoc, pure_bind]
  | copyLayer layer =>
    simp only [execute, updates, bind_assoc, pure_bind]
    refine bind_congr fun c => ?_
    have layers : (c.withCanvas canvas redraw).registry = c.registry := rfl
    rw [layers]
    cases c.registry.layers.get? layer <;> simp only [bind_assoc, pure_bind]
  | destroyLayer layer =>
    simp only [execute, registry]
    cases c.registry.layers.get? layer <;> simp only [bind_assoc, pure_bind] <;> rfl
  | setName name =>
    simp only [execute, bind_assoc, pure_bind]
    rfl
  | dumpInfo => simp only [execute, info_withCanvas redraw there, bind_assoc, pure_bind]
  | fence => rfl
  | _ => simp [Command.sparesCanvas] at spares

theorem dispatch_withCanvas (there : canvas.isSome = c.canvas.isSome) (fresh : LayerHandle)
    {command : Command σ φ} (spares : command.sparesCanvas = true) :
    (c.withCanvas canvas redraw).dispatch H fresh command =
      c.dispatch H fresh command >>= fun r => pure (r.1, r.2.withCanvas canvas redraw) := by
  unfold dispatch
  rw [execute_withCanvas H redraw there fresh spares, bind_assoc]
  rfl

end Context

end RenderRelay
