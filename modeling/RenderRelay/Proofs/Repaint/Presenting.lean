import RenderRelay.Backend.Headless
import RenderRelay.Engine.Context
import RenderRelay.Proofs.DeviceOp

/-!
What comes to surfaces. All drawing goes into frames, and no surface is touched by it
(`drawItems_shown`). A frame that ends is `Presented`: its surface shows it, unless the owner is
reading just then.
-/

namespace RenderRelay

/-! ### Views of a device -/

namespace DeviceOp

variable {δ α β γ : Type} {view : δ → γ} {d : δ}

/-- However the operation ends that is begun on `d`, in this view the device is as before. -/
def Preserves (view : δ → γ) (op : DeviceOp δ α) (d : δ) : Prop := view (op.runOn d).2 = view d

theorem Preserves.of_run {op : DeviceOp δ α} (kept : Preserves view op d) {a : α} {d' : δ}
    (run : op.runOn d = (.ok a, d')) : view d' = view d := by
  unfold Preserves at kept
  rwa [run] at kept

theorem preserves_pure (a : α) : Preserves view (pure a) d := rfl

theorem preserves_throw (fault : Fault) : Preserves view (throw fault : DeviceOp δ α) d := rfl

theorem preserves_get : Preserves view (get : DeviceOp δ δ) d := rfl

theorem preserves_modify {f : δ → δ} (same : view (f d) = view d) :
    Preserves view (modify f) d := same

theorem preserves_lift {work : StateM δ α} (same : view (work d).2 = view d) :
    Preserves view (liftM work) d := same

theorem Preserves.bind {op : DeviceOp δ α} {f : α → DeviceOp δ β} (first : Preserves view op d)
    (second : op.Ensures d fun a d' => Preserves view (f a) d') : Preserves view (op >>= f) d := by
  unfold Preserves at first ⊢
  rw [runOn_bind]
  rcases run : op.runOn d with ⟨fault | a, d'⟩
  · rwa [run] at first
  · rw [run] at first
    exact (second a d' run).trans first

end DeviceOp

namespace Headless

open DeviceOp

variable {ω φ τ : Type} {report : LogRecord → ω → ω}
  {invoke : φ → Frame → FunctorInfo → StateM ω (Frame × Completion)}
  {perform : τ → StateM ω Completion} {d : Device ω}

/-! ### Drawing -/

/-- A device but for the canvases that are counted and the world outside. -/
def Device.shown (d : Device ω) : Config × Gallery := (d.config, d.gallery)

theorem note_shown (name : String) (level : Level) (text : String) :
    Preserves Device.shown (Context.note (host report invoke perform) name level text) d :=
  preserves_modify rfl

theorem drawItem_shown (name : String) (registry : Registry Layer φ) (list : ListId)
    (target : Target) (frame : Frame) (item : DrawItem) :
    Preserves Device.shown
      (Context.drawItem (host report invoke perform) name registry list target frame item) d := by
  unfold Context.drawItem
  split
  case h_1 id op =>
    split
    · exact (note_shown ..).bind (.of_forall fun _ _ => preserves_pure _)
    · refine (preserves_pure _).bind (.of_forall fun frame d => ?_)
      refine (preserves_lift rfl).bind (.of_forall fun r d => ?_)
      obtain ⟨frame, finished | panicked⟩ := r
      · exact preserves_pure _
      · exact (note_shown ..).bind (.of_forall fun _ _ => preserves_pure _)
  case h_2 handle dst op =>
    split
    · exact (note_shown ..).bind (.of_forall fun _ _ => preserves_pure _)
    · simp only
      split
      · exact preserves_pure _
      · exact preserves_throw _
  case h_3 => exact preserves_pure _
  case h_4 => exact preserves_pure _

theorem drawItems_shown (name : String) (registry : Registry Layer φ) (list : ListId)
    (target : Target) (items : List DrawItem) (frame : Frame) :
    Preserves Device.shown
      (Context.drawItems (host report invoke perform) name registry list target items frame) d := by
  induction items generalizing frame d with
  | nil => exact preserves_pure _
  | cons item rest ih => exact (drawItem_shown ..).bind (.of_forall fun frame _ => ih frame)

theorem redrawLayers_shown (updates : List (LayerHandle × DisplayList))
    (c : Context (backend report) φ) :
    Preserves Device.shown (Context.redrawLayers (host report invoke perform) updates c) d := by
  induction updates generalizing c d with
  | nil => exact preserves_pure _
  | cons update rest ih =>
    refine Preserves.bind ?_ (.of_forall fun c _ => ih c)
    unfold Context.redrawLayer
    split
    · exact preserves_pure _
    · refine (preserves_pure _).bind (ensures_pure.2 ?_)
      refine (drawItems_shown ..).bind (.of_forall fun frame _ => ?_)
      exact (preserves_pure _).bind (.of_forall fun _ _ => preserves_pure _)

theorem applyLayerUpdates_shown (c : Context (backend report) φ) :
    Preserves Device.shown (c.applyLayerUpdates (host report invoke perform)) d :=
  redrawLayers_shown _ _

/-! ### The end of a frame -/

/-- **A frame comes to a surface.** It is shown there; or it is dropped, if the owner is reading, and
the surface shows what it did. No other surface changes. -/
structure Presented (surface : Surface) (frame : Bitmap) (g g' : Gallery) : Prop where
  shown : g.isRead surface = false →
    g'.look surface = ⟨some frame, (g.look surface).presents + 1, (g.look surface).dropped⟩
  dropped : g.isRead surface = true →
    g'.look surface =
      ⟨(g.look surface).front, (g.look surface).presents, (g.look surface).dropped + 1⟩
  others : ∀ other : Surface, other.number ≠ surface.number → g'.look other = g.look other

theorem presented_present (surface : Surface) (frame : Bitmap) (g : Gallery) :
    Presented surface frame g (g.present surface frame) where
  shown free := by
    rw [Gallery.look_present_self, free]
    rfl
  dropped busy := by
    rw [Gallery.look_present_self, busy]
    rfl
  others other differs := g.look_present_of_ne frame differs

theorem ensures_present {surface : Surface} {frame : Bitmap} {d : Device ω}
    {Q : Bool → Device ω → Prop}
    (h : Q (!d.gallery.isRead surface) (d.presented report surface frame)) :
    (present report surface frame).Ensures d Q := by
  refine ensures_bind.2 (ensures_get.2 ?_)
  exact ensures_bind.2 (ensures_modify.2 (ensures_pure.2 h))

theorem ensures_endFrame {canvas : Canvas} {frame : Frame} {d : Device ω}
    {Q : Except RenderError Unit × Canvas → Device ω → Prop}
    (h : ∀ d', d'.config = d.config → Q (.ok (), { canvas with back := frame.target }) d') :
    (endFrame report canvas frame).Ensures d Q := by
  obtain ⟨translucent, surface, viewport, back⟩ := canvas
  cases surface with
  | none => exact ensures_pure.2 (h d rfl)
  | some surface => exact ensures_bind.2 (ensures_present (ensures_pure.2 (h _ rfl)))

theorem ensures_endFrame_bound {canvas : Canvas} {surface : Surface} {frame : Frame} {d : Device ω}
    {Q : Except RenderError Unit × Canvas → Device ω → Prop} (bound : canvas.surface = some surface)
    (h : Q (.ok (), { canvas with back := frame.target })
      (d.presented report surface frame.target)) :
    (endFrame report canvas frame).Ensures d Q := by
  obtain ⟨translucent, _, viewport, back⟩ := canvas
  subst bound
  exact ensures_bind.2 (ensures_present (ensures_pure.2 h))

end Headless

end RenderRelay
