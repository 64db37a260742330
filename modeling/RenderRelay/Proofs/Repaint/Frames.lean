import RenderRelay.Proofs.Repaint.Presenting
import RenderRelay.Proofs.Repaint.Shade

/-!
One frame on a bound canvas of the headless backend. A frame is drawn into the buffer that the one
before left, if that has the right size, and into a new one otherwise; `ensures_drawOnCanvas` says
which pixels of the buffer that is presented come from where.
-/

namespace RenderRelay

namespace Headless

open DeviceOp

variable {ω φ τ : Type} {report : LogRecord → ω → ω}
  {invoke : φ → Frame → FunctorInfo → StateM ω (Frame × Completion)}
  {perform : τ → StateM ω Completion}

/-! ### Buffers -/

/-- The buffer has a pixel for each pixel of a target of this size, and no others. -/
def HasSize (m : Bitmap) (size : Viewport) : Prop := m.width = size.width ∧ m.height = size.height

theorem HasSize.pixel? {m : Bitmap} {size : Viewport} (fits : HasSize m size) {x y : Nat}
    (hx : x < size.width) (hy : y < size.height) : ∃ p, m.pixel? x y = some p := by
  unfold Bitmap.pixel?
  rw [dif_pos ⟨fits.1 ▸ hx, fits.2 ▸ hy⟩]
  exact ⟨_, rfl⟩

theorem HasSize.pixel?_eq_none {m : Bitmap} {size : Viewport} (fits : HasSize m size) {x y : Nat}
    (beyond : ¬(x < size.width ∧ y < size.height)) : m.pixel? x y = none := by
  apply Bitmap.pixel?_eq_none
  rwa [fits.1, fits.2]

def clearColor (config : Config) (translucent : Bool) : Color :=
  if translucent then .transparent else config.opaqueClear

theorem ensures_checkBudget {what : String} {size : Viewport} {d : Device ω}
    {Q : Except RenderError Unit → Device ω → Prop} (h : ∀ r, Q r d) :
    (checkBudget what size).Ensures d Q := by
  unfold checkBudget
  split
  · simp
  · simp only [ensures_bind, ensures_get]
    split <;> exact ensures_pure.2 (h _)

theorem ensures_newBuffer {size : Viewport} {d : Device ω} {Q : Bitmap → Device ω → Prop}
    (h : ∀ m, HasSize m size → Q m d) : (newBuffer size).Ensures d Q := by
  unfold newBuffer
  split
  · simp
  · exact ensures_pure.2 (h _ ⟨rfl, rfl⟩)

/-- The buffer of a frame has its size; it is the canvas's own if that has the size. -/
theorem ensures_backOfSize {canvas : Canvas} {size : Viewport} {d : Device ω}
    {Q : Except RenderError Bitmap → Device ω → Prop} (failed : ∀ e, Q (.error e) d)
    (h : ∀ m, HasSize m size → (HasSize canvas.back size → m = canvas.back) → Q (.ok m) d) :
    (backOfSize canvas size).Ensures d Q := by
  unfold backOfSize
  split
  case isTrue fits => exact ensures_pure.2 (h _ fits (fun _ => rfl))
  case isFalse unfit =>
    refine ensures_bind.2 (ensures_checkBudget fun r => ?_)
    rcases r with e | ⟨⟩
    · exact ensures_pure.2 (failed e)
    · exact ensures_bind.2 (ensures_newBuffer fun m fits =>
        ensures_pure.2 (h m fits (fun own => absurd own unfit)))

/-- A frame begins only on a bound canvas, with the damage cleared. -/
theorem ensures_beginFrame {canvas : Canvas} {damage : PixelBox} {d : Device ω}
    {Q : Except RenderError (Option Frame) × Canvas → Device ω → Prop}
    (failed : ∀ e, Q (.error e, canvas) d) (none : Q (.ok none, canvas) d)
    (h : ∀ size surface target, canvas.viewport = some size → canvas.surface = some surface →
      HasSize target size → (HasSize canvas.back size → target = canvas.back) →
      Q (.ok (some ⟨target.fill damage (clearColor d.config canvas.translucent), damage⟩),
        { canvas with back := .empty }) d) :
    (beginFrame canvas damage).Ensures d Q := by
  unfold beginFrame
  split
  case h_1 => exact ensures_pure.2 none
  case h_2 size visible =>
    have viewport : canvas.viewport = some size := (Option.filter_eq_some_iff.1 visible).1
    split
    case isTrue => exact ensures_pure.2 none
    case isFalse bound =>
      obtain ⟨surface, surface_eq⟩ : ∃ surface, canvas.surface = some surface := by
        cases hs : canvas.surface with
        | none => simp [hs] at bound
        | some surface => exact ⟨surface, rfl⟩
      refine ensures_bind.2 (ensures_backOfSize (fun e => ?_) fun target fits own => ?_)
      · exact ensures_pure.2 (failed e)
      · simp only [ensures_bind, ensures_get, ensures_pure]
        exact h size surface target viewport surface_eq fits own

/-! ### Bindings -/

theorem ensures_backendNote_bind {α : Type} {text : String} {d : Device ω}
    {next : Unit → DeviceOp (Device ω) α} {Q : α → Device ω → Prop}
    (h : ∀ world, Ensures (next ()) { d with outside := world } Q) :
    Ensures (note report text >>= next) d Q := by
  refine ensures_bind.2 ?_
  unfold note
  exact ensures_modify.2 (h _)

theorem ensures_bindSurface {canvas : Canvas} {surface : Surface} {viewport : Option Viewport}
    {d : Device ω} {Q : Except RenderError Unit × Canvas → Device ω → Prop}
    (failed : ∀ e d', d'.config = d.config → Q (.error e, canvas.cleared) d')
    (bound : ∀ d', d'.config = d.config →
      Q (.ok (), { canvas.cleared with surface := some surface }) d') :
    (bindSurface report canvas surface viewport).Ensures d Q := by
  have passed : Ensures (do
      note report s!"headless surface '{surface.label}' bound"
      pure (.ok (), { canvas.cleared with surface := some surface })) d Q :=
    ensures_backendNote_bind fun world => ensures_pure.2 (bound _ rfl)
  unfold bindSurface
  split
  · exact ensures_pure.2 (failed _ d rfl)
  · cases viewport with
    | none => exact passed
    | some size =>
      refine ensures_bind.2 (ensures_checkBudget fun checked => ?_)
      rcases checked with e | ⟨⟩
      · exact ensures_pure.2 (failed e d rfl)
      · exact passed

theorem ensures_unbindSurface {canvas : Canvas} {d : Device ω} {Q : Canvas → Device ω → Prop}
    (h : ∀ d', d'.config = d.config → Q { canvas with surface := none } d') :
    (unbindSurface report canvas).Ensures d Q := by
  obtain ⟨translucent, surface, viewport, back⟩ := canvas
  cases surface with
  | none => exact ensures_pure.2 (h d rfl)
  | some surface => exact ensures_backendNote_bind fun world => ensures_pure.2 (h _ rfl)

theorem ensures_resize {canvas : Canvas} {viewport : Viewport} {d : Device ω}
    {Q : Except RenderError Unit × Canvas → Device ω → Prop}
    (h : ∀ r, Q (r, canvas.sized viewport) d) : (resize canvas viewport).Ensures d Q := by
  unfold resize
  change Ensures (if canvas.surface.isSome then _ else _) d Q
  split
  · exact ensures_bind.2 (ensures_checkBudget fun r => ensures_pure.2 (h r))
  · exact ensures_pure.2 (h _)

theorem ensures_destroyCanvas {canvas : Canvas} {d : Device ω} {Q : Unit → Device ω → Prop}
    (h : ∀ d', d'.config = d.config → Q () d') : (destroyCanvas report canvas).Ensures d Q := by
  unfold destroyCanvas
  refine ensures_bind.2 (ensures_unbindSurface fun d₁ config => ?_)
  simp only [ensures_bind, ensures_get, ensures_set]
  unfold note
  exact ensures_modify.2 (h _ config)

theorem ensures_createLayer {size : Viewport} {d : Device ω}
    {Q : Except RenderError Layer → Device ω → Prop} (h : ∀ r, Q r d) :
    (createLayer size).Ensures d Q := by
  unfold createLayer
  split
  · exact ensures_pure.2 (h _)
  · refine ensures_bind.2 (ensures_checkBudget fun r => ?_)
    rcases r with e | ⟨⟩
    · exact ensures_pure.2 (h _)
    · exact ensures_bind.2 (ensures_newBuffer fun m _ => ensures_pure.2 (h _))

/-! ### Frames -/

/-- A frame as it was drawn: the pixels it repainted, with what, and how the layers looked then. -/
structure FrameRecord where
  damage : PixelBox
  items : List DrawItem
  layers : LayerHandle → Option Bitmap

/-- What the frame's items, one after the other, make of a cleared pixel. -/
def FrameRecord.pixel (record : FrameRecord) (size : Viewport) (clear : Color) (x y : Nat) :
    Pixel :=
  record.items.foldl (shade size record.layers x y) clear.quantize

/-- A buffer after a frame: the damage holds what the frame makes of it, and the rest what was
there before, if that had the size. -/
structure Painted (before : Bitmap) (size : Viewport) (clear : Color) (record : FrameRecord)
    (back : Bitmap) : Prop where
  fits : HasSize back size
  damaged : ∀ x y, x < size.width → y < size.height → record.damage.contains x y = true →
    back.pixel? x y = some (record.pixel size clear x y)
  kept : HasSize before size → ∀ x y, record.damage.contains x y = false →
    back.pixel? x y = before.pixel? x y

theorem painted_of_changed {before target : Bitmap} {size : Viewport} {clear : Color}
    {damage : PixelBox} {items : List DrawItem} {layers : LayerHandle → Option Bitmap} {f : Frame}
    (fits : HasSize target size) (own : HasSize before size → target = before)
    (changed : Frame.Changed ⟨target.fill damage clear, damage⟩ f fun x y p =>
      items.foldl (shade size layers x y) p) :
    Painted before size clear ⟨damage, items, layers⟩ f.target := by
  have pixel (x y : Nat) : f.target.pixel? x y = (target.pixel? x y).map fun p =>
      if damage.contains x y then items.foldl (shade size layers x y) clear.quantize else p := by
    rw [changed.pixel, Bitmap.pixel?_fill, Option.map_map]
    congr 1
    funext p
    by_cases inside : damage.contains x y <;> simp [inside]
  refine ⟨?_, fun x y hx hy inside => ?_, fun same x y outside => ?_⟩
  · have size_eq := changed.size
    simp only [Frame.size, Bitmap.fill, Bitmap.width_paint, Bitmap.height_paint,
      Viewport.mk.injEq] at size_eq
    exact ⟨size_eq.1.trans fits.1, size_eq.2.trans fits.2⟩
  · obtain ⟨p, there⟩ := fits.pixel? hx hy
    rw [pixel, there]
    simp only [Option.map_some, inside, if_true]
    rfl
  · rw [pixel, own same, outside]
    simp

/-- **What a frame on a canvas does**: it is skipped and nothing has changed, or it is drawn,
presented to the bound surface and kept as the canvas's buffer. -/
theorem ensures_drawOnCanvas {c : Context (backend report) φ} {canvas : Canvas}
    {viewport : Viewport} {damage : PixelBox} {list : DisplayList} {d : Device ω}
    {Q : DrawStatus × Context (backend report) φ → Device ω → Prop}
    (detached : ∀ id, c.registry.functors.get? id = none) (sized : canvas.viewport = some viewport)
    (skipped : ∀ d', d'.config = d.config → Q (.skipped, { c with canvas := some canvas }) d')
    (drawn : ∀ surface back d', d'.config = d.config → canvas.surface = some surface →
      Painted canvas.back viewport (clearColor d.config canvas.translucent)
        ⟨damage, list.items, layerPixels c.registry⟩ back →
      d'.gallery = d.gallery.present surface back →
      Q (.drawn, { c with
        canvas := some { canvas with surface := some surface, back }
        needsFullRedraw := false }) d') :
    (c.drawOnCanvas (host report invoke perform) canvas viewport damage list).Ensures d Q := by
  unfold Context.drawOnCanvas
  refine ensures_bind.2 (ensures_beginFrame (fun e => ?_) ?_ ?_)
  · exact ensures_note_bind fun world => ensures_pure.2 (skipped _ rfl)
  · exact ensures_pure.2 (skipped d rfl)
  · intro size surface target sized' bound fits own
    obtain rfl : viewport = size := Option.some.inj (sized.symm.trans sized')
    have size_eq : Frame.size ⟨target.fill damage (clearColor d.config canvas.translucent),
        damage⟩ = viewport := by
      simp only [Frame.size, Bitmap.fill, Bitmap.width_paint, Bitmap.height_paint, fits.1, fits.2]
    refine ensures_bind.2 fun f d₁ run => ?_
    obtain ⟨changed, config⟩ := drawItems_shades (fun _ _ id _ => detached id) _ _ _ _ _ _ _ run
    have gallery : d₁.gallery = d.gallery := congrArg Prod.snd ((drawItems_shown ..).of_run run)
    rw [size_eq] at changed
    have painted := painted_of_changed fits own changed
    refine ensures_bind.2 (ensures_endFrame_bound bound (ensures_pure.2 ?_))
    simp only [bound]
    apply drawn surface f.target (d₁.presented report surface f.target) config bound painted
    rw [← gallery]
    rfl

end Headless

end RenderRelay
