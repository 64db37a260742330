import RenderRelay.Proofs.Callings.Plans
import RenderRelay.Proofs.Gpu.Scissors
import RenderRelay.Proofs.Repaint.Frames

/-!
Standards for what is drawn, and the operations of the headless backend under them. Standards say
which pixels, colours and callbacks there may be; `Heeds` says that the surroundings of the backend
heed them, and how calls of callbacks show in the world outside. No operation of the backend makes
such a call. Each leaves buffers that meet the standards, and gives a frame the size and the damage
that it was asked for with.
-/

namespace RenderRelay

open DeviceOp

/-- What the engine decides about the call of a callback, apart from the frame: which callback it
is, the list that is drawn, the clip of the item, and the number of frames drawn before. -/
structure Calling (φ : Type) where
  callback : φ
  list : ListId
  clip : Option Rect
  frameIndex : Nat
  deriving DecidableEq

def Bitmap.All (P : Pixel → Prop) (m : Bitmap) : Prop := ∀ x y p, m.pixel? x y = some p → P p

namespace Bitmap.All

variable {P : Pixel → Prop} {m : Bitmap}

theorem ofSize (transparent : P .transparent) (width height : Nat) :
    (Bitmap.ofSize width height).All P := by
  intro x y p there
  rw [pixel?_ofSize] at there
  split at there
  · exact Option.some.inj there ▸ transparent
  · simp at there

theorem fill (all : m.All P) (area : PixelBox) {c : Color} (filled : P c.quantize) :
    (m.fill area c).All P := by
  intro x y p there
  rw [pixel?_fill] at there
  obtain ⟨q, before, rfl⟩ := Option.map_eq_some_iff.1 there
  split
  · exact filled
  · exact all x y q before

theorem pixelAt? (all : m.All P) {x y : Int} {p : Pixel} (there : m.pixelAt? x y = some p) :
    P p := by
  unfold Bitmap.pixelAt? at there
  split at there
  · exact all _ _ p there
  · simp at there

end Bitmap.All

namespace Headless

/-- Which pixels, colours and callbacks there may be. Pixels are made transparent, and then filled
with colours or laid under them. -/
structure Standards (φ : Type) where
  pixel : Pixel → Prop
  color : Color → Prop
  callback : φ → Prop
  transparent : pixel .transparent
  quantize : ∀ c, color c → pixel c.quantize
  overPixel : ∀ c p, color c → pixel p → pixel (c.overPixel p)

namespace Standards

variable {ω φ τ : Type} (S : Standards φ)

def Item (item : DrawItem) : Prop :=
  match item.op with
  | .clear color => S.color color
  | .fill _ color => S.color color
  | .functor _ => True
  | .layer _ _ => True

structure OnCanvas (viewport : Option Viewport) (canvas : Canvas) : Prop where
  viewport : canvas.viewport = viewport
  back : canvas.back.All S.pixel

structure OnLayer (size : Viewport) (layer : Layer) : Prop where
  nonempty : size.isEmpty = false
  size : HasSize layer.pixels size
  pixels : layer.pixels.All S.pixel

/-- A frame of this size and damage. -/
structure OnFrame (size : Viewport) (damage : PixelBox) (f : Frame) : Prop where
  inside : damage.Within size
  size : f.size = size
  damage : f.damage = damage
  pixels : f.target.All S.pixel

/-- A device after these calls: they show in its world, and what its surfaces show meets the
standards. -/
structure OnDevice (world : List (Calling φ) → ω → Prop) (called : List (Calling φ))
    (d : Device ω) : Prop where
  world : world called d.outside
  clear : S.color d.config.opaqueClear
  shown : ∀ s front, (d.gallery.look s).front = some front → front.All S.pixel

/-- Reports and tasks call nothing. A callback that is told the size and the damage of its frame
leaves it with them, and its call shows. -/
structure Heeds (report : LogRecord → ω → ω)
    (invoke : φ → Frame → FunctorInfo → StateM ω (Frame × Completion))
    (perform : τ → StateM ω Completion) (world : List (Calling φ) → ω → Prop) : Prop where
  reports : ∀ called record w, world called w → world called (report record w)
  performs : ∀ called task w, world called w → world called (perform task w).2
  invokes : ∀ called callback list size damage clip index f w, S.callback callback →
    S.OnFrame size damage f → world called w →
      S.OnFrame size damage (invoke callback f ⟨list, size, damage, clip, index⟩ w).1.1 ∧
        world (called ++ [⟨callback, list, clip, index⟩])
          (invoke callback f ⟨list, size, damage, clip, index⟩ w).2

variable {S}

/-! ### Frames -/

theorem OnFrame.changed {size : Viewport} {damage : PixelBox} {f f' : Frame}
    {change : Nat → Nat → Pixel → Pixel} (frame : S.OnFrame size damage f)
    (changed : f.Changed f' change) (keeps : ∀ x y p, S.pixel p → S.pixel (change x y p)) :
    S.OnFrame size damage f' where
  inside := frame.inside
  size := changed.size.trans frame.size
  damage := changed.damage.trans frame.damage
  pixels := by
    intro x y p there
    rw [changed.pixel] at there
    obtain ⟨q, before, rfl⟩ := Option.map_eq_some_iff.1 there
    split
    · exact keeps x y q (frame.pixels x y q before)
    · exact frame.pixels x y q before

theorem OnFrame.drawOp {size : Viewport} {damage : PixelBox} {f : Frame}
    (frame : S.OnFrame size damage f) {item : DrawItem} (allowed : S.Item item) :
    S.OnFrame size damage (f.drawOp item) := by
  obtain ⟨op, clip⟩ := item
  cases op with
  | clear color =>
    refine frame.changed (f.drawOp_clear color clip) fun x y p holds => ?_
    split
    · exact S.quantize color allowed
    · exact holds
  | fill rect color =>
    refine frame.changed (f.drawOp_fill rect color clip) fun x y p holds => ?_
    split
    · split
      · exact S.quantize color allowed
      · exact S.overPixel color p allowed holds
    · exact holds
  | functor id => exact frame
  | layer handle dst => exact frame

theorem OnFrame.drawLayer {size extent : Viewport} {damage : PixelBox} {f f' : Frame}
    {layer : Layer} {dst : Rect} {clip : Option Rect} (frame : S.OnFrame size damage f)
    (made : S.OnLayer extent layer) (drawn : f.drawLayer layer dst clip = .ok f') :
    S.OnFrame size damage f' := by
  refine frame.changed (Frame.drawLayer_changed drawn) fun x y p holds => ?_
  split
  · cases there : layer.pixels.pixelAt? (x - (Frame.layerCorner dst).1)
        (y - (Frame.layerCorner dst).2) with
    | none => exact holds
    | some q => exact made.pixels.pixelAt? there
  · exact holds

theorem pixel_transparent (S : Standards φ) : S.pixel Color.transparent.quantize := by
  have same : Color.transparent.quantize = .transparent := by decide +kernel
  exact same ▸ S.transparent

/-- The frame of a layer is damaged everywhere, and the layer keeps no pixel meanwhile. -/
theorem OnLayer.beginLayerFrame {size : Viewport} {layer : Layer} (made : S.OnLayer size layer) :
    S.OnFrame size (.ofSize size.width size.height) (beginLayerFrame layer).1 where
  inside := by
    have full := made.nonempty
    simp only [Viewport.isEmpty, Bool.or_eq_false_iff, decide_eq_false_iff_not] at full
    exact ⟨by simp only [PixelBox.ofSize]; omega, Nat.le_refl _,
      by simp only [PixelBox.ofSize]; omega, Nat.le_refl _⟩
  size := by
    obtain ⟨width, height⟩ := made.size
    simp only [Headless.beginLayerFrame, Frame.size, Bitmap.fill, Bitmap.width_paint,
      Bitmap.height_paint, width, height]
  damage := by
    obtain ⟨width, height⟩ := made.size
    simp only [Headless.beginLayerFrame, Bitmap.bounds, width, height]
  pixels := made.pixels.fill _ S.pixel_transparent

theorem OnFrame.layer {size : Viewport} {damage : PixelBox} {f : Frame}
    (frame : S.OnFrame size damage f) (nonempty : size.isEmpty = false) :
    S.OnLayer size ⟨f.target⟩ :=
  ⟨nonempty, ⟨congrArg Viewport.width frame.size, congrArg Viewport.height frame.size⟩,
    frame.pixels⟩

theorem all_empty (S : Standards φ) : Bitmap.empty.All S.pixel := .ofSize S.transparent 0 0

/-! ### Operations -/

section Operations

variable {report : LogRecord → ω → ω}
  {invoke : φ → Frame → FunctorInfo → StateM ω (Frame × Completion)}
  {perform : τ → StateM ω Completion} {world : List (Calling φ) → ω → Prop}

theorem OnDevice.inWorld {called called' : List (Calling φ)} {d : Device ω} {w : ω}
    (kept : S.OnDevice world called d) (shows : world called' w) :
    S.OnDevice world called' { d with outside := w } :=
  ⟨shows, kept.clear, kept.shown⟩

theorem get_bind_quiet {α : Type} {f : Device ω → DeviceOp (Device ω) α} {P : α → Prop}
    (second : ∀ d, S.color d.config.opaqueClear → Quiet (S.OnDevice world) (f d) P) :
    Quiet (S.OnDevice world) (get >>= f) P :=
  fun called d kept => settles_bind.2 (settles_get.2 (second d kept.clear called d kept))

theorem checkBudget_quiet (what : String) (size : Viewport) :
    Quiet (S.OnDevice world) (checkBudget what size) fun _ => True := by
  unfold checkBudget
  split
  · exact .throw _
  · refine get_bind_quiet fun d _ => ?_
    simp only
    split <;> exact .pure trivial

theorem newBuffer_quiet (size : Viewport) :
    Quiet (S.OnDevice world) (newBuffer size) fun m => HasSize m size ∧ m.All S.pixel := by
  unfold newBuffer
  split
  · exact .throw _
  · exact .pure ⟨⟨rfl, rfl⟩, .ofSize S.transparent _ _⟩

theorem backOfSize_quiet {canvas : Canvas} (back : canvas.back.All S.pixel) (size : Viewport) :
    Quiet (S.OnDevice world) (backOfSize canvas size) fun r =>
      ∀ m, r = .ok m → HasSize m size ∧ m.All S.pixel := by
  unfold backOfSize
  split
  case isTrue fits =>
    refine .pure ?_
    rintro m ⟨⟩
    exact ⟨fits, back⟩
  case isFalse =>
    refine (checkBudget_quiet _ size).bind fun checked _ => ?_
    rcases checked with e | ⟨⟩
    · exact .pure nofun
    · refine (newBuffer_quiet size).bind fun m made => .pure ?_
      rintro _ ⟨⟩
      exact made

theorem beginFrame_quiet {canvas : Canvas} {size : Viewport} {damage : PixelBox}
    (on : S.OnCanvas (some size) canvas) (inside : damage.Within size) :
    Quiet (S.OnDevice world) (beginFrame canvas damage) fun r =>
      (∀ f, r.1 = .ok (some f) → S.OnFrame size damage f) ∧ S.OnCanvas (some size) r.2 := by
  unfold beginFrame
  split
  case h_1 => exact .pure ⟨nofun, on⟩
  case h_2 size' visible =>
    obtain rfl : size = size' :=
      Option.some.inj (on.viewport.symm.trans (Option.filter_eq_some_iff.1 visible).1)
    split
    · exact .pure ⟨nofun, on⟩
    · refine (backOfSize_quiet on.back size).bind fun r made => ?_
      rcases r with e | target
      · exact .pure ⟨nofun, on⟩
      · obtain ⟨fits, all⟩ := made target rfl
        refine get_bind_quiet fun d clear => .pure ⟨?_, on.viewport, S.all_empty⟩
        rintro f ⟨⟩
        refine ⟨inside, ?_, rfl, all.fill _ ?_⟩
        · simp only [Frame.size, Bitmap.fill, Bitmap.width_paint, Bitmap.height_paint, fits.1,
            fits.2]
        · split
          · exact S.pixel_transparent
          · exact S.quantize _ clear

theorem createLayer_quiet (size : Viewport) :
    Quiet (S.OnDevice world) (createLayer size) fun r =>
      ∀ layer, r = .ok layer → S.OnLayer size layer := by
  unfold createLayer
  split
  · exact .pure nofun
  case isFalse full =>
    refine (checkBudget_quiet _ size).bind fun checked _ => ?_
    rcases checked with e | ⟨⟩
    · exact .pure nofun
    · refine (newBuffer_quiet size).bind fun m made => .pure ?_
      rintro layer ⟨⟩
      exact ⟨Bool.eq_false_iff.2 full, made.1, made.2⟩

theorem drawLayer_quiet {size extent : Viewport} {damage : PixelBox} {f : Frame} {layer : Layer}
    (frame : S.OnFrame size damage f) (made : S.OnLayer extent layer) (dst : Rect)
    (clip : Option Rect) :
    Quiet (S.OnDevice world) ((backend report).drawLayer f layer dst clip)
      (S.OnFrame size damage) := by
  simp only
  cases drawn : f.drawLayer layer dst clip with
  | ok f' => exact .pure (frame.drawLayer made drawn)
  | error fault => exact .throw fault

theorem copyLayer_quiet {size : Viewport} {layer : Layer} (made : S.OnLayer size layer) :
    Quiet (S.OnDevice world) (copyLayer layer) fun r => ∀ m, r = .ok m → m.All S.pixel := by
  unfold copyLayer
  refine get_bind_quiet fun d _ => ?_
  split
  · refine .pure ?_
    rintro m ⟨⟩
    exact made.pixels
  · exact .pure nofun

theorem OnCanvas.trimCaches {canvas : Canvas} {viewport : Option Viewport}
    (on : S.OnCanvas viewport canvas) : S.OnCanvas viewport (trimCaches canvas) := by
  unfold Headless.trimCaches
  split
  · exact ⟨on.viewport, S.all_empty⟩
  · exact on

variable (heeds : S.Heeds report invoke perform world)

include heeds

theorem Heeds.backendNote_quiet (text : String) :
    Quiet (S.OnDevice world) (Headless.note report text) fun _ => True :=
  .modify fun called d kept => kept.inWorld (heeds.reports called _ d.outside kept.world)

theorem Heeds.hostNote_quiet (level : Level) (reporter : Reporter) (text : String) :
    Quiet (S.OnDevice world) ((host report invoke perform).note level reporter text)
      fun _ => True :=
  .modify fun called d kept => kept.inWorld (heeds.reports called _ d.outside kept.world)

theorem Heeds.note_quiet (name : String) (level : Level) (text : String) :
    Quiet (S.OnDevice world) (Context.note (host report invoke perform) name level text)
      fun _ => True :=
  heeds.hostNote_quiet level .context _

theorem Heeds.presented {called : List (Calling φ)} {d : Device ω}
    (kept : S.OnDevice world called d) (surface : Surface) {frame : Bitmap}
    (pixels : frame.All S.pixel) :
    S.OnDevice world called (d.presented report surface frame) where
  world := by
    unfold Device.presented
    simp only
    split
    · exact heeds.reports called _ d.outside kept.world
    · exact kept.world
  clear := kept.clear
  shown s front shown := by
    rcases Gallery.front_present shown with rfl | before
    · exact pixels
    · exact kept.shown s front before

theorem Heeds.endFrame_quiet {canvas : Canvas} {viewport : Option Viewport} {size : Viewport}
    {damage : PixelBox} {f : Frame} (on : S.OnCanvas viewport canvas)
    (frame : S.OnFrame size damage f) :
    Quiet (S.OnDevice world) (endFrame report canvas f) fun r => S.OnCanvas viewport r.2 := by
  obtain ⟨translucent, surface, viewport', back⟩ := canvas
  have kept := on.viewport
  have ended : Quiet (S.OnDevice world)
      (pure (.ok (), ⟨translucent, surface, viewport', f.target⟩)) fun r =>
        S.OnCanvas viewport (r : Except RenderError Unit × Canvas).2 :=
    .pure ⟨kept, frame.pixels⟩
  cases surface with
  | none => exact ended
  | some surface =>
    have presented : Quiet (S.OnDevice world) (present report surface f.target) fun _ => True := by
      refine get_bind_quiet fun d _ => ?_
      exact (Quiet.modify fun called d' kept' =>
        heeds.presented kept' surface frame.pixels).bind fun _ _ => .pure trivial
    exact presented.bind fun _ _ => ended

theorem Heeds.createCanvas_quiet (translucent : Bool) :
    Quiet (S.OnDevice world) (createCanvas report translucent) fun r =>
      ∀ canvas, r = .ok canvas → S.OnCanvas none canvas := by
  intro called d kept
  unfold createCanvas
  refine settles_bind.2 (settles_get.2 ?_)
  split
  · exact settles_pure.2 ⟨nofun, kept⟩
  · refine settles_bind.2 (settles_set.2 ?_)
    refine Quiet.bind (heeds.backendNote_quiet _) (fun _ _ => .pure ?_) called _
      ⟨kept.world, kept.clear, kept.shown⟩
    rintro canvas ⟨⟩
    exact ⟨rfl, S.all_empty⟩

theorem Heeds.bindSurface_quiet {canvas : Canvas} {viewport : Option Viewport}
    (on : S.OnCanvas viewport canvas) (surface : Surface) (size : Option Viewport) :
    Quiet (S.OnDevice world) (bindSurface report canvas surface size) fun r =>
      S.OnCanvas viewport r.2 := by
  have cleared : S.OnCanvas viewport canvas.cleared := ⟨on.viewport, S.all_empty⟩
  have bound : Quiet (S.OnDevice world) (do
      Headless.note report s!"headless surface '{surface.label}' bound"
      pure ((.ok () : Except RenderError Unit),
        { canvas.cleared with surface := some surface })) fun r => S.OnCanvas viewport r.2 :=
    (heeds.backendNote_quiet _).bind fun _ _ => .pure ⟨cleared.viewport, cleared.back⟩
  unfold bindSurface
  split
  · exact .pure cleared
  · cases size with
    | none => exact bound
    | some size =>
      refine (checkBudget_quiet _ size).bind fun checked _ => ?_
      rcases checked with e | ⟨⟩
      · exact .pure cleared
      · exact bound

theorem Heeds.unbindSurface_quiet {canvas : Canvas} {viewport : Option Viewport}
    (on : S.OnCanvas viewport canvas) :
    Quiet (S.OnDevice world) (unbindSurface report canvas) (S.OnCanvas viewport) := by
  unfold unbindSurface
  split
  · exact .pure on
  · exact (heeds.backendNote_quiet _).bind fun _ _ => .pure ⟨on.viewport, on.back⟩

theorem Heeds.destroyCanvas_quiet {canvas : Canvas} {viewport : Option Viewport}
    (on : S.OnCanvas viewport canvas) :
    Quiet (S.OnDevice world) (destroyCanvas report canvas) fun _ => True := by
  intro called d kept
  unfold destroyCanvas
  refine settles_bind.2 ((heeds.unbindSurface_quiet on called d kept).mono
    (fun _ same => same) fun _ d₁ unbound => ?_)
  refine settles_bind.2 (settles_get.2 (settles_bind.2 (settles_set.2 ?_)))
  exact heeds.backendNote_quiet _ called _ ⟨unbound.2.world, unbound.2.clear, unbound.2.shown⟩

omit heeds

theorem resize_quiet {canvas : Canvas} {viewport : Option Viewport}
    (on : S.OnCanvas viewport canvas) (size : Viewport) :
    Quiet (S.OnDevice world) (resize canvas size) fun r => S.OnCanvas (some size) r.2 := by
  have sized : S.OnCanvas (some size) (canvas.sized size) := ⟨rfl, on.back⟩
  unfold resize
  simp only
  split
  · exact (checkBudget_quiet _ size).bind fun _ _ => .pure sized
  · exact .pure sized

end Operations

end Standards

end Headless

end RenderRelay
