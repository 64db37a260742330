import RenderRelay.Proofs.Evolution
import RenderRelay.Proofs.Turns

/-!
The engine adds no faults. Where no operation of a backend ends in a fault, neither does a command,
and a render thread answers whatever it is sent (`serveAll_returns`).
-/

namespace RenderRelay

namespace DeviceOp

variable {δ α β : Type}

def Returns (op : DeviceOp δ α) : Prop := ∀ d, ∃ a d', op.runOn d = (.ok a, d')

theorem returns_pure (a : α) : (pure a : DeviceOp δ α).Returns := fun d => ⟨a, d, rfl⟩

theorem returns_get : (get : DeviceOp δ δ).Returns := fun d => ⟨d, d, rfl⟩

theorem returns_lift (work : StateM δ α) : (liftM work : DeviceOp δ α).Returns :=
  fun d => ⟨_, _, runOn_lift work d⟩

theorem Returns.bind {op : DeviceOp δ α} {f : α → DeviceOp δ β} (first : op.Returns)
    (second : ∀ a, (f a).Returns) : (op >>= f).Returns := by
  intro d
  obtain ⟨a, d₁, run⟩ := first d
  obtain ⟨b, d₂, run'⟩ := second a d₁
  exact ⟨b, d₂, by rw [runOn_bind, run]; exact run'⟩

end DeviceOp

open DeviceOp

variable {σ φ τ : Type} {B : Backend σ}

/-- No operation of the backend ends in a fault. -/
structure Backend.Faultless (B : Backend σ) : Prop where
  createCanvas : ∀ translucent, (B.createCanvas translucent).Returns
  bindSurface : ∀ canvas s viewport, (B.bindSurface canvas s viewport).Returns
  unbindSurface : ∀ canvas, (B.unbindSurface canvas).Returns
  resize : ∀ canvas viewport, (B.resize canvas viewport).Returns
  beginFrame : ∀ canvas damage, (B.beginFrame canvas damage).Returns
  drawOp : ∀ frame item, (B.drawOp frame item).Returns
  flush : ∀ frame, (B.flush frame).Returns
  endFrame : ∀ canvas frame, (B.endFrame canvas frame).Returns
  createLayer : ∀ size, (B.createLayer size).Returns
  beginLayerFrame : ∀ layer, (B.beginLayerFrame layer).Returns
  endLayerFrame : ∀ layer frame, (B.endLayerFrame layer frame).Returns
  drawLayer : ∀ frame layer dst clip, (B.drawLayer frame layer dst clip).Returns
  copyLayer : ∀ layer, (B.copyLayer layer).Returns
  destroyLayer : ∀ layer, (B.destroyLayer layer).Returns
  trimCaches : ∀ canvas, (B.trimCaches canvas).Returns
  destroyCanvas : ∀ canvas, (B.destroyCanvas canvas).Returns

theorem Host.note_returns (H : Host B φ τ) (level : Level) (reporter : Reporter) (text : String) :
    (H.note level reporter text).Returns :=
  fun _ => ⟨⟨⟩, _, rfl⟩

namespace Context

variable (faultless : B.Faultless) (H : Host B φ τ)

theorem note_returns (name : String) (level : Level) (text : String) :
    (note H name level text).Returns :=
  H.note_returns level .context _

include faultless

/-! ### Lists and layers -/

theorem drawItem_returns (name : String) (registry : Registry B.Layer φ) (list : ListId)
    (target : Target) (frame : B.Frame) (item : DrawItem) :
    (drawItem H name registry list target frame item).Returns := by
  unfold drawItem
  split
  · split
    · exact (note_returns H _ _ _).bind fun _ => returns_pure _
    · refine (faultless.flush _).bind fun frame => (returns_lift _).bind fun invoked => ?_
      obtain ⟨frame, _ | _⟩ := invoked
      · exact returns_pure _
      · exact (note_returns H _ _ _).bind fun _ => returns_pure _
  · split
    · exact (note_returns H _ _ _).bind fun _ => returns_pure _
    · exact faultless.drawLayer _ _ _ _
  · exact faultless.drawOp _ _
  · exact faultless.drawOp _ _

theorem drawItems_returns (name : String) (registry : Registry B.Layer φ) (list : ListId)
    (target : Target) (items : List DrawItem) (frame : B.Frame) :
    (drawItems H name registry list target items frame).Returns := by
  induction items generalizing frame with
  | nil => exact returns_pure _
  | cons item rest ih =>
    exact (drawItem_returns faultless H _ _ _ _ frame item).bind fun frame => ih frame

theorem redrawLayer_returns (c : Context B φ) (handle : LayerHandle) (list : DisplayList) :
    (c.redrawLayer H handle list).Returns := by
  unfold redrawLayer
  split
  · exact returns_pure _
  · refine (faultless.beginLayerFrame _).bind fun begun => ?_
    obtain ⟨e | frame, layer⟩ := begun
    · exact (note_returns H _ _ _).bind fun _ => returns_pure _
    · refine (drawItems_returns faultless H _ _ _ _ _ frame).bind fun frame => ?_
      exact (faultless.endLayerFrame _ _).bind fun _ => returns_pure _

theorem redrawLayers_returns (updates : List (LayerHandle × DisplayList)) (c : Context B φ) :
    (redrawLayers H updates c).Returns := by
  induction updates generalizing c with
  | nil => exact returns_pure _
  | cons update rest ih =>
    exact (redrawLayer_returns faultless H c update.1 update.2).bind fun c => ih c

theorem applyLayerUpdates_returns (c : Context B φ) : (c.applyLayerUpdates H).Returns :=
  redrawLayers_returns faultless H _ _

/-! ### Frames -/

theorem drawOnCanvas_returns (c : Context B φ) (canvas : B.Canvas) (viewport : Viewport)
    (damage : PixelBox) (list : DisplayList) :
    (c.drawOnCanvas H canvas viewport damage list).Returns := by
  refine (faultless.beginFrame _ _).bind fun begun => ?_
  obtain ⟨e | _ | frame, canvas⟩ := begun
  · exact (note_returns H _ _ _).bind fun _ => returns_pure _
  · exact returns_pure _
  · refine (drawItems_returns faultless H _ _ _ _ _ frame).bind fun frame => ?_
    refine (faultless.endFrame _ _).bind fun ended => ?_
    obtain ⟨e | ⟨⟩, canvas⟩ := ended
    · exact (note_returns H _ _ _).bind fun _ => returns_pure _
    · exact returns_pure _

theorem drawFrame_returns (c : Context B φ) (list : DisplayList) (damage : Damage) :
    (c.drawFrame H list damage).Returns := by
  unfold drawFrame
  split
  · exact returns_pure _
  · split
    · exact (note_returns H _ _ _).bind fun _ => returns_pure _
    · split
      · exact (note_returns H _ _ _).bind fun _ => returns_pure _
      · refine returns_get.bind fun d => ?_
        simp only
        split
        · exact returns_pure _
        · exact drawOnCanvas_returns faultless H c _ _ _ list

theorem draw_returns (c : Context B φ) (list : DisplayList) (damage : Damage) :
    (c.draw H list damage).Returns :=
  (applyLayerUpdates_returns faultless H _).bind fun c =>
    (drawFrame_returns faultless H c list damage).bind fun _ => returns_pure _

/-! ### Other commands -/

theorem bind_returns (c : Context B φ) (surface : Option σ) : (c.bind H surface).Returns := by
  unfold bind
  split
  · exact returns_pure _
  · exact (faultless.unbindSurface _).bind fun _ => returns_pure _
  · refine (faultless.bindSurface _ _ _).bind fun bound => ?_
    obtain ⟨e | ⟨⟩, canvas⟩ := bound
    · exact (note_returns H _ _ _).bind fun _ => returns_pure _
    · exact returns_pure _

theorem resize_returns (c : Context B φ) (viewport : Viewport) :
    (c.resize H viewport).Returns := by
  unfold resize
  simp only
  split
  · exact returns_pure _
  · refine (faultless.resize _ _).bind fun resized => ?_
    obtain ⟨e | ⟨⟩, canvas⟩ := resized
    · exact (note_returns H _ _ _).bind fun _ => returns_pure _
    · exact returns_pure _

theorem createLayer_returns (c : Context B φ) (fresh : LayerHandle) (size : Viewport) :
    (c.createLayer H fresh size).Returns := by
  unfold createLayer
  split
  · exact returns_pure _
  · refine (faultless.createLayer size).bind fun made => ?_
    cases made with
    | error e => exact returns_pure _
    | ok layer => exact (note_returns H _ _ _).bind fun _ => returns_pure _

theorem destroyLayers_returns (layers : List (LayerHandle × LayerEntry B.Layer)) :
    (destroyLayers layers).Returns := by
  induction layers with
  | nil => exact returns_pure _
  | cons entry rest ih => exact (faultless.destroyLayer _).bind fun _ => ih

theorem releaseAll_returns (c : Context B φ) : c.releaseAll.Returns := by
  refine (destroyLayers_returns faultless _).bind fun _ => ?_
  split
  · exact returns_pure _
  · exact (faultless.destroyCanvas _).bind fun _ => returns_pure _

theorem destroy_returns (c : Context B φ) (full : Bool) : (c.destroy H full).Returns := by
  have released (c : Context B φ) : (c.release H full).Returns := by
    cases full with
    | false => exact (note_returns H _ _ _).bind fun _ => returns_pure _
    | true =>
      refine (releaseAll_returns faultless c).bind fun _ => ?_
      exact (note_returns H _ _ _).bind fun _ => returns_pure _
  rw [destroy_eq]
  split
  · exact released _
  · exact (faultless.unbindSurface _).bind fun _ => released _

theorem teardown_returns (c : Context B φ) : (c.teardown H).Returns :=
  (releaseAll_returns faultless c).bind fun _ => note_returns H _ _ _

/-- **No command ends in a fault.** -/
theorem execute_returns (c : Context B φ) (fresh : LayerHandle) (command : Command σ φ) :
    (c.execute H fresh command).Returns := by
  cases command with
  | bindSurface s => exact (bind_returns faultless H c _).bind fun _ => returns_pure _
  | updateSurface s => exact (bind_returns faultless H c _).bind fun _ => returns_pure _
  | setup viewport => exact (resize_returns faultless H c _).bind fun _ => returns_pure _
  | draw list record => exact (draw_returns faultless H c _ _).bind fun _ => returns_pure _
  | repeatLastDraw =>
    simp only [execute]
    split
    · exact (draw_returns faultless H c _ _).bind fun _ => returns_pure _
    · exact (note_returns H _ _ _).bind fun _ => returns_pure _
  | destroy full => exact (destroy_returns faultless H c full).bind fun _ => returns_pure _
  | attachFunctor functor =>
    simp only [execute]
    split
    · exact returns_pure _
    · exact (note_returns H _ _ _).bind fun _ => returns_pure _
  | detachFunctor id =>
    simp only [execute]
    split
    · exact returns_pure _
    · exact (note_returns H _ _ _).bind fun _ => returns_pure _
  | createLayer size =>
    exact (createLayer_returns faultless H c fresh size).bind fun _ => returns_pure _
  | pushLayerUpdate layer list =>
    simp only [execute]
    split
    · exact returns_pure _
    · exact (note_returns H _ _ _).bind fun _ => returns_pure _
  | flushLayerUpdates =>
    exact (applyLayerUpdates_returns faultless H c).bind fun _ => returns_pure _
  | copyLayer layer =>
    refine (applyLayerUpdates_returns faultless H c).bind fun c => ?_
    split
    · exact returns_pure _
    · exact (faultless.copyLayer _).bind fun _ => returns_pure _
  | destroyLayer layer =>
    simp only [execute]
    split
    · exact (faultless.destroyLayer _).bind fun _ => returns_pure _
    · exact (note_returns H _ _ _).bind fun _ => returns_pure _
  | flushCaches =>
    simp only [execute]
    split
    · exact returns_pure _
    · exact (faultless.trimCaches _).bind fun _ => returns_pure _
  | setName name => exact (note_returns H _ _ _).bind fun _ => returns_pure _
  | dumpInfo => exact returns_get.bind fun _ => returns_pure _
  | fence => exact returns_pure _

theorem dispatch_returns (c : Context B φ) (fresh : LayerHandle) (command : Command σ φ) :
    (c.dispatch H fresh command).Returns :=
  (note_returns H _ _ _).bind fun _ => execute_returns faultless H c fresh command

end Context

namespace RenderLoop

variable (faultless : B.Faultless) (H : Host B φ τ)

include faultless

theorem teardownAll_returns (contexts : List (ProxyHandle × Context B φ)) :
    (teardownAll H contexts).Returns := by
  induction contexts with
  | nil => exact returns_pure _
  | cons e rest ih =>
    refine (H.note_returns _ _ _).bind fun _ => ?_
    exact (Context.teardown_returns faultless H e.2).bind fun _ => ih

theorem serve_returns (loop : RenderLoop B φ) (envelope : Envelope σ φ τ) :
    (serve H loop envelope).Returns := by
  match envelope with
  | .message h (.create translucent) =>
    refine Returns.bind ((faultless.createCanvas translucent).bind fun made => ?_)
      fun _ => returns_pure _
    cases made with
    | ok canvas => exact (H.note_returns _ _ _).bind fun _ => returns_pure _
    | error e => exact (H.note_returns _ _ _).bind fun _ => returns_pure _
  | .message h (.run command) =>
    refine Returns.bind ?_ fun _ => returns_pure _
    unfold run
    split
    · exact (H.note_returns _ _ _).bind fun _ => returns_pure _
    · exact (Context.dispatch_returns faultless H _ _ command).bind fun _ => returns_pure _
  | .message h .dispose =>
    refine Returns.bind ?_ fun _ => returns_pure _
    unfold dispose
    split
    · exact (H.note_returns _ _ _).bind fun _ => returns_pure _
    · exact (Context.teardown_returns faultless H _).bind fun _ => returns_pure _
  | .task task =>
    refine (returns_lift _).bind fun completion => ?_
    cases completion with
    | finished => exact returns_pure _
    | panicked => exact (H.note_returns _ _ _).bind fun _ => returns_pure _
  | .shutdown =>
    refine Returns.bind ((teardownAll_returns faultless H _).bind fun _ => ?_) fun _ =>
      returns_pure _
    exact H.note_returns _ _ _

/-- **Whatever the thread is sent, it comes to the end of it.** -/
theorem serveAll_returns (turns : List (Turn σ φ τ)) (loop : RenderLoop B φ) :
    (serveAll H turns loop).Returns := by
  induction turns generalizing loop with
  | nil => exact returns_pure _
  | cons turn rest ih =>
    refine (serve_returns faultless H _ turn.envelope).bind fun served => ?_
    cases served with
    | next loop ack => exact (ih loop).bind fun _ => returns_pure _
    | stopped => exact returns_pure _

end RenderLoop

end RenderRelay
