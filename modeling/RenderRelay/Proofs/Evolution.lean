import Mathlib.Logic.Relation
import RenderRelay.Engine.RenderLoop
import RenderRelay.Proofs.DeviceOp

/-!
What becomes of a registry, whatever the backend. `Change` lists what can happen to one, and
`execute_evolves` says that a command does nothing else: every invariant of registries is proved by
one case split over the changes.
-/

namespace RenderRelay

open DeviceOp Relation

namespace Registry

variable {Layer Callback : Type}

theorem eq_of_attach? {r r' : Registry Layer Callback} {id : FunctorId} {callback : Callback}
    (attached : r.attach? id callback = some r') :
    r' = { r with functors := r.functors.insert id callback } := by
  unfold attach? at attached
  split at attached
  · simp at attached
  · exact (Option.some.inj attached).symm

theorem contains_of_queueUpdate? {r r' : Registry Layer Callback} {handle : LayerHandle}
    {list : DisplayList} (queued : r.queueUpdate? handle list = some r') :
    r.layers.contains handle = true := by
  by_contra unknown
  simp [queueUpdate?, unknown] at queued

/-- One thing that happens to a registry. A layer comes in only under the name `made`. -/
inductive Change (made : Option LayerHandle) :
    Registry Layer Callback → Registry Layer Callback → Prop
  | attach (r : Registry Layer Callback) (id : FunctorId) (callback : Callback) :
    Change made r { r with functors := r.functors.insert id callback }
  | detach (r : Registry Layer Callback) (id : FunctorId) :
    Change made r { r with functors := r.functors.erase id }
  | make (r : Registry Layer Callback) (handle : LayerHandle) (entry : LayerEntry Layer)
      (name : made = some handle) : Change made r (r.insertLayer handle entry)
  | redraw (r : Registry Layer Callback) (handle : LayerHandle) (entry : LayerEntry Layer)
      (layer : Layer) (there : r.layers.get? handle = some entry) :
    Change made r ((r.takeLayer handle).insertLayer handle { entry with layer })
  | remove (r : Registry Layer Callback) (handle : LayerHandle) :
    Change made r (r.removeLayer handle)
  | wait (r : Registry Layer Callback) (handle : LayerHandle) (list : DisplayList)
      (there : r.layers.contains handle = true) :
    Change made r { r with pending := enqueue handle list r.pending }
  | settle (r : Registry Layer Callback) : Change made r { r with pending := [] }
  | remember (r : Registry Layer Callback) (lastDrawn : Option DisplayList) :
    Change made r { r with lastDrawn }
  | clear (r : Registry Layer Callback) : Change made r .empty

abbrev Evolves (made : Option LayerHandle) :
    Registry Layer Callback → Registry Layer Callback → Prop :=
  ReflTransGen (Change made)

theorem Evolves.preserves {made : Option LayerHandle} {r r' : Registry Layer Callback}
    {P : Registry Layer Callback → Prop} (evolves : Evolves made r r')
    (step : ∀ r r', Change made r r' → P r → P r') (holds : P r) : P r' := by
  induction evolves with
  | refl => exact holds
  | tail _ change ih => exact step _ _ change ih

end Registry

/-- The name of the layer that a command made, by its reply. -/
def Reply.made : Option Reply → Option LayerHandle
  | some (.layer (.ok handle)) => some handle
  | _ => none

namespace Context

open Registry

variable {σ φ τ : Type} {B : Backend σ} (H : Host B φ τ) (made : Option LayerHandle)

/-! ### Drawing -/

/-- Of all that a context keeps, carrying out an update changes the layers alone. -/
theorem redrawLayer_layers (c : Context B φ) (handle : LayerHandle) (list : DisplayList)
    (d : B.Device) :
    (c.redrawLayer H handle list).Ensures d fun c' _ =>
      ∃ layers, c' = { c with registry := { c.registry with layers } } := by
  unfold redrawLayer
  split
  case h_1 => exact ensures_pure.2 ⟨_, rfl⟩
  case h_2 entry there =>
    refine ensures_bind.2 (.of_forall fun begun d₁ => ?_)
    obtain ⟨fault | frame, layer⟩ := begun
    · exact ensures_bind.2 ((ensures_note H).2 (ensures_pure.2 ⟨_, rfl⟩))
    · refine ensures_bind.2 (.of_forall fun frame d₂ => ?_)
      exact ensures_bind.2 (.of_forall fun layer d₃ => ensures_pure.2 ⟨_, rfl⟩)

theorem redrawLayers_layers (updates : List (LayerHandle × DisplayList)) (c : Context B φ)
    (d : B.Device) :
    (redrawLayers H updates c).Ensures d fun c' _ =>
      ∃ layers, c' = { c with registry := { c.registry with layers } } := by
  induction updates generalizing c d with
  | nil => exact ensures_pure.2 ⟨_, rfl⟩
  | cons update rest ih =>
    refine ensures_bind.2 ((redrawLayer_layers H c update.1 update.2 d).mono ?_)
    rintro c₁ d₁ ⟨layers₁, rfl⟩
    exact ih _ d₁

theorem applyLayerUpdates_layers (c : Context B φ) (d : B.Device) :
    (c.applyLayerUpdates H).Ensures d fun c' _ =>
      ∃ layers, c' = { c with registry := { c.registry with layers, pending := [] } } :=
  redrawLayers_layers H _ _ d

theorem redrawLayer_evolves (c : Context B φ) (handle : LayerHandle) (list : DisplayList)
    (d : B.Device) :
    (c.redrawLayer H handle list).Ensures d fun c' _ => Evolves made c.registry c'.registry := by
  unfold redrawLayer
  split
  case h_1 => exact ensures_pure.2 .refl
  case h_2 entry there =>
    refine ensures_bind.2 (.of_forall fun begun d₁ => ?_)
    obtain ⟨fault | frame, layer⟩ := begun
    · refine ensures_bind.2 ((ensures_note H).2 (ensures_pure.2 ?_))
      exact .single (.redraw _ _ _ _ there)
    · refine ensures_bind.2 (.of_forall fun frame d₂ => ?_)
      refine ensures_bind.2 (.of_forall fun layer d₃ => ensures_pure.2 ?_)
      exact .single (.redraw _ _ _ _ there)

theorem redrawLayers_evolves (updates : List (LayerHandle × DisplayList)) (c : Context B φ)
    (d : B.Device) :
    (redrawLayers H updates c).Ensures d fun c' _ => Evolves made c.registry c'.registry := by
  induction updates generalizing c d with
  | nil => exact ensures_pure.2 .refl
  | cons update rest ih =>
    refine ensures_bind.2 ((redrawLayer_evolves H made c update.1 update.2 d).mono ?_)
    intro c₁ d₁ first
    exact (ih c₁ d₁).mono fun c₂ d₂ second => first.trans second

theorem applyLayerUpdates_evolves (c : Context B φ) (d : B.Device) :
    (c.applyLayerUpdates H).Ensures d fun c' _ => Evolves made c.registry c'.registry := by
  refine (redrawLayers_evolves H made _ _ d).mono fun c' d' rest => ?_
  exact .head (.settle _) rest

variable {H} in
/-- A frame is skipped, with at most a report, or there is a canvas, a binding, a size and a region
to draw it with. -/
theorem ensures_drawFrame {c : Context B φ} {list : DisplayList} {damage : Damage} {d : B.Device}
    {Q : DrawStatus × Context B φ → B.Device → Prop} (skipped : Q (.skipped, c) d)
    (reported : ∀ record, Q (.skipped, c) (H.report record d))
    (drawn : ∀ canvas size box, c.canvas = some canvas → c.surfaceBound = true →
      c.viewport = some size →
      frameDamage (B.capabilities d) c.needsFullRedraw size damage = some box →
      (c.drawOnCanvas H canvas size box list).Ensures d Q) :
    (c.drawFrame H list damage).Ensures d Q := by
  unfold drawFrame
  split
  case h_1 => exact ensures_pure.2 skipped
  case h_2 canvas there =>
    cases bound : c.surfaceBound with
    | false => exact ensures_bind.2 ((ensures_note H).2 (ensures_pure.2 (reported _)))
    | true =>
      cases sized : c.viewport with
      | none => exact ensures_bind.2 ((ensures_note H).2 (ensures_pure.2 (reported _)))
      | some size =>
        refine ensures_bind.2 (ensures_get.2 ?_)
        simp only
        split
        case h_1 => exact ensures_pure.2 skipped
        case h_2 box reached => exact drawn canvas size box there bound sized reached

/-- A frame may change the canvas that is there, and whether all is to be repainted. -/
theorem drawFrame_leaves (c : Context B φ) (list : DisplayList) (damage : Damage) (d : B.Device) :
    (c.drawFrame H list damage).Ensures d fun r _ => r.2 = c ∨ ∃ canvas needsFullRedraw,
      c.canvas.isSome ∧ r.2 = { c with canvas := some canvas, needsFullRedraw } := by
  refine ensures_drawFrame (.inl rfl) (fun _ => .inl rfl) fun canvas size box there _ _ _ => ?_
  have some : c.canvas.isSome = true := by rw [there]; rfl
  refine ensures_bind.2 (.of_forall fun begun d₁ => ?_)
  obtain ⟨fault | ⟨⟩ | frame, canvas⟩ := begun
  · exact ensures_bind.2 ((ensures_note H).2 (ensures_pure.2 (.inr ⟨canvas, _, some, rfl⟩)))
  · exact ensures_pure.2 (.inr ⟨canvas, _, some, rfl⟩)
  · refine ensures_bind.2 (.of_forall fun frame d₂ => ?_)
    refine ensures_bind.2 (.of_forall fun ended d₃ => ?_)
    obtain ⟨e | ⟨⟩, canvas⟩ := ended
    · exact ensures_bind.2 ((ensures_note H).2 (ensures_pure.2 (.inr ⟨canvas, _, some, rfl⟩)))
    · exact ensures_pure.2 (.inr ⟨canvas, _, some, rfl⟩)

theorem drawFrame_registry (c : Context B φ) (list : DisplayList) (damage : Damage)
    (d : B.Device) :
    (c.drawFrame H list damage).Ensures d fun r _ => r.2.registry = c.registry := by
  refine (drawFrame_leaves H c list damage d).mono fun r d' left => ?_
  obtain same | ⟨canvas, redraw, -, same⟩ := left
  · rw [same]
  · rw [same]

theorem draw_evolves (c : Context B φ) (list : DisplayList) (damage : Damage) (d : B.Device) :
    (c.draw H list damage).Ensures d fun r _ => Evolves made c.registry r.2.registry := by
  refine ensures_bind.2 ((applyLayerUpdates_evolves H made _ d).mono fun c₁ d₁ applied => ?_)
  refine ensures_bind.2 ((drawFrame_registry H c₁ list damage d₁).mono fun r d₂ same => ?_)
  refine ensures_pure.2 ?_
  change Evolves made c.registry r.2.registry
  rw [same]
  exact .head (.remember _ (some list)) applied

/-! ### Commands -/

theorem bind_registry (c : Context B φ) (surface : Option σ) (d : B.Device) :
    (c.bind H surface).Ensures d fun r _ => r.2.registry = c.registry := by
  unfold bind
  split
  · exact ensures_pure.2 rfl
  · exact ensures_bind.2 (.of_forall fun canvas d₁ => ensures_pure.2 rfl)
  · refine ensures_bind.2 (.of_forall fun bound d₁ => ?_)
    obtain ⟨e | ⟨⟩, canvas⟩ := bound
    · exact ensures_bind.2 ((ensures_note H).2 (ensures_pure.2 rfl))
    · exact ensures_pure.2 rfl

theorem resize_registry (c : Context B φ) (viewport : Viewport) (d : B.Device) :
    (c.resize H viewport).Ensures d fun r _ => r.2.registry = c.registry := by
  unfold resize
  simp only
  split
  · exact ensures_pure.2 rfl
  · refine ensures_bind.2 (.of_forall fun resized d₁ => ?_)
    obtain ⟨e | ⟨⟩, canvas⟩ := resized
    · exact ensures_bind.2 ((ensures_note H).2 (ensures_pure.2 rfl))
    · exact ensures_pure.2 rfl

theorem releaseAll_registry (c : Context B φ) (d : B.Device) :
    c.releaseAll.Ensures d fun c' _ => c'.registry = .empty := by
  refine ensures_bind.2 (.of_forall fun _ d₁ => ?_)
  split
  · exact ensures_pure.2 rfl
  · exact ensures_bind.2 (.of_forall fun _ d₂ => ensures_pure.2 rfl)

def release (c : Context B φ) (full : Bool) : DeviceOp B.Device (Context B φ) :=
  if full then do
    let c ← c.releaseAll
    note H c.name .debug "destroyed with all resources"
    return c
  else do
    note H c.name .debug "surface released"
    return c

theorem destroy_eq (c : Context B φ) (full : Bool) :
    c.destroy H full =
      match c.canvas with
      | none => release H { c with surfaceBound := false } full
      | some canvas => B.unbindSurface canvas >>= fun canvas =>
        release H { c with canvas := some canvas, surfaceBound := false } full := by
  obtain ⟨handle, name, canvas | canvas, registry, viewport, bound, redraw, stats⟩ := c <;> rfl

theorem release_registry (c : Context B φ) (d : B.Device) :
    (c.release H true).Ensures d fun c' _ => c'.registry = .empty :=
  ensures_bind.2 ((releaseAll_registry _ d).mono fun _ _ emptied =>
    ensures_bind.2 ((ensures_note H).2 (ensures_pure.2 emptied)))

theorem destroy_registry (c : Context B φ) (d : B.Device) :
    (c.destroy H true).Ensures d fun c' _ => c'.registry = .empty := by
  rw [destroy_eq]
  split
  · exact release_registry H _ d
  · exact ensures_bind.2 (.of_forall fun _ d₁ => release_registry H _ d₁)

theorem release_evolves (c : Context B φ) (full : Bool) (d : B.Device) :
    (c.release H full).Ensures d fun c' _ => Evolves made c.registry c'.registry := by
  cases full with
  | false => exact ensures_bind.2 ((ensures_note H).2 (ensures_pure.2 .refl))
  | true =>
    refine (release_registry H c d).mono fun c₁ d₁ emptied => ?_
    rw [emptied]
    exact .single (.clear _)

theorem destroy_evolves (c : Context B φ) (full : Bool) (d : B.Device) :
    (c.destroy H full).Ensures d fun c' _ => Evolves made c.registry c'.registry := by
  rw [destroy_eq]
  split
  · exact release_evolves H made _ full d
  · refine ensures_bind.2 (.of_forall fun canvas d₁ => ?_)
    exact release_evolves H made _ full d₁

theorem createLayer_evolves (c : Context B φ) (fresh : LayerHandle) (size : Viewport)
    (d : B.Device) :
    (c.createLayer H fresh size).Ensures d fun r _ =>
      Evolves (Reply.made (some (.layer r.1))) c.registry r.2.registry ∧
        ∀ handle, r.1 = .ok handle → handle = fresh := by
  unfold createLayer
  split
  · exact ensures_pure.2 ⟨.refl, by simp⟩
  · refine ensures_bind.2 (.of_forall fun made d₁ => ?_)
    rcases made with e | layer
    · exact ensures_pure.2 ⟨.refl, by simp⟩
    · refine ensures_bind.2 ((ensures_note H).2 (ensures_pure.2 ⟨?_, ?_⟩))
      · exact .single (.make _ fresh ⟨layer, size⟩ rfl)
      · rintro handle ⟨⟩
        rfl

/-- **A command does nothing to a registry but what `Change` lists**, and a layer that it makes gets
the name that it was given for it. -/
theorem execute_evolves (c : Context B φ) (fresh : LayerHandle) (command : Command σ φ)
    (d : B.Device) :
    (c.execute H fresh command).Ensures d fun r _ =>
      Evolves (Reply.made r.1) c.registry r.2.registry ∧
        ∀ handle, Reply.made r.1 = some handle → handle = fresh := by
  -- what makes no layer need only evolve
  have quiet {α : Type} {op : DeviceOp B.Device α} {reply : α → Option Reply}
      {context : α → Context B φ} (none : ∀ a, Reply.made (reply a) = .none)
      (evolves : op.Ensures d fun a _ => Evolves .none c.registry (context a).registry) :
      (op >>= fun a => pure (reply a, context a)).Ensures d fun r _ =>
        Evolves (Reply.made r.1) c.registry r.2.registry ∧
          ∀ handle, Reply.made r.1 = some handle → handle = fresh := by
    refine ensures_bind.2 (evolves.mono fun a d₁ evolves => ensures_pure.2 ?_)
    simp only [none]
    exact ⟨evolves, by simp⟩
  cases command with
  | bindSurface surface =>
    refine quiet (fun _ => rfl) ((bind_registry H c _ d).mono fun r d₁ same => ?_)
    rw [same]
  | updateSurface surface =>
    refine quiet (fun _ => rfl) ((bind_registry H c _ d).mono fun r d₁ same => ?_)
    rw [same]
  | setup viewport =>
    refine quiet (fun _ => rfl) ((resize_registry H c _ d).mono fun r d₁ same => ?_)
    rw [same]
  | draw list record => exact quiet (fun _ => rfl) (draw_evolves H _ c list _ d)
  | repeatLastDraw =>
    simp only [execute]
    split
    · exact quiet (fun _ => rfl) (draw_evolves H _ c _ .whole d)
    · exact quiet (fun _ => rfl) ((ensures_note H).2 .refl)
  | destroy full => exact quiet (fun _ => rfl) (destroy_evolves H _ c full d)
  | attachFunctor functor =>
    simp only [execute]
    split
    case h_1 registry attached =>
      obtain rfl := eq_of_attach? attached
      exact ensures_pure.2 ⟨.single (.attach ..), by simp [Reply.made]⟩
    case h_2 => exact quiet (fun _ => rfl) ((ensures_note H).2 .refl)
  | detachFunctor id =>
    simp only [execute]
    split
    case h_1 registry found =>
      obtain rfl := eq_of_detach? found
      exact ensures_pure.2 ⟨.single (.detach ..), by simp [Reply.made]⟩
    case h_2 => exact quiet (fun _ => rfl) ((ensures_note H).2 .refl)
  | createLayer size =>
    refine ensures_bind.2 ((createLayer_evolves H c fresh size d).mono fun r d₁ created => ?_)
    refine ensures_pure.2 ⟨created.1, fun handle name => ?_⟩
    obtain ⟨e | made, c₁⟩ := r
    · simp [Reply.made] at name
    · exact created.2 handle (congrArg Except.ok (Option.some.inj name))
  | pushLayerUpdate layer list =>
    simp only [execute]
    split
    case h_1 registry queued =>
      have known := contains_of_queueUpdate? queued
      obtain rfl := eq_of_queueUpdate? queued
      exact ensures_pure.2 ⟨.single (.wait _ _ _ known), by simp [Reply.made]⟩
    case h_2 => exact quiet (fun _ => rfl) ((ensures_note H).2 .refl)
  | flushLayerUpdates => exact quiet (fun _ => rfl) (applyLayerUpdates_evolves H _ c d)
  | copyLayer layer =>
    refine ensures_bind.2 ((applyLayerUpdates_evolves H none c d).mono fun c₁ d₁ applied => ?_)
    split
    · exact ensures_pure.2 ⟨applied, by simp [Reply.made]⟩
    · refine ensures_bind.2 (.of_forall fun pixels d₂ => ?_)
      exact ensures_pure.2 ⟨applied, by simp [Reply.made]⟩
  | destroyLayer layer =>
    simp only [execute]
    split
    · refine ensures_bind.2 (.of_forall fun _ d₁ => ?_)
      exact ensures_pure.2 ⟨.single (.remove ..), by simp [Reply.made]⟩
    · exact quiet (fun _ => rfl) ((ensures_note H).2 .refl)
  | flushCaches =>
    simp only [execute]
    split
    · exact ensures_pure.2 ⟨.single (.remember ..), by simp [Reply.made]⟩
    · refine ensures_bind.2 (.of_forall fun _ d₁ => ?_)
      exact ensures_pure.2 ⟨.single (.remember ..), by simp [Reply.made]⟩
  | setName name => exact quiet (fun _ => rfl) ((ensures_note H).2 .refl)
  | dumpInfo => exact quiet (fun _ => rfl) (ensures_get.2 .refl)
  | fence => exact ensures_pure.2 ⟨.refl, by simp [Reply.made]⟩

theorem dispatch_evolves (c : Context B φ) (fresh : LayerHandle) (command : Command σ φ)
    (d : B.Device) :
    (c.dispatch H fresh command).Ensures d fun r _ =>
      Evolves (Reply.made r.1) c.registry r.2.registry ∧
        ∀ handle, Reply.made r.1 = some handle → handle = fresh :=
  ensures_bind.2 ((ensures_note H).2 (execute_evolves H c fresh command _))

end Context

end RenderRelay
