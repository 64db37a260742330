import RenderRelay.Backend.Headless
import RenderRelay.Engine.Context
import RenderRelay.Proofs.DeviceOp

/-!
What drawing does to one pixel. `shade` is the meaning of an item at a single place: it knows the
size of the target and the pixels of the layers, and nothing of areas. `drawItems_shades` says that
drawing a list changes every pixel of the damage by the list's items in order, and no other pixel.
-/

namespace RenderRelay

/-! ### Areas -/

namespace PixelBox

/-- A pixel lies in what is left of an area inside a box when it lies in both. -/
theorem any_contains_bind_intersect (area : Option PixelBox) (box : PixelBox) (x y : Nat) :
    (area.bind (·.intersect box)).any (·.contains x y) =
      (area.any (·.contains x y) && box.contains x y) := by
  cases area with
  | none => rfl
  | some area => exact any_contains_intersect area box x y

end PixelBox

namespace Bitmap

theorem bounds_contains {m : Bitmap} {x y : Nat} :
    m.bounds.contains x y = true ↔ x < m.width ∧ y < m.height := by
  simp only [bounds, PixelBox.ofSize, PixelBox.contains, Nat.zero_le, decide_true, Bool.true_and,
    Bool.and_true, Bool.and_eq_true]
  exact Iff.and decide_eq_true_iff decide_eq_true_iff

theorem pixel?_eq_none {m : Bitmap} {x y : Nat} (h : ¬(x < m.width ∧ y < m.height)) :
    m.pixel? x y = none := by
  rw [pixel?, dif_neg h]

theorem size_blit {m source m' : Bitmap} {left top : Int} {area : PixelBox}
    (copied : m.blit source left top area = .ok m') :
    m'.width = m.width ∧ m'.height = m.height := by
  unfold blit at copied
  split at copied
  · obtain rfl := Except.ok.inj copied
    exact ⟨rfl, rfl⟩
  · split at copied
    · simp at copied
    · obtain rfl := Except.ok.inj copied
      simp

/-- Copying changes the pixels of the area that the source has a pixel for. -/
theorem pixel?_blit {m source m' : Bitmap} {left top : Int} {area : PixelBox}
    (copied : m.blit source left top area = .ok m') (x y : Nat) :
    m'.pixel? x y = (m.pixel? x y).map fun p =>
      if area.contains x y then (source.pixelAt? (x - left) (y - top)).getD p else p := by
  by_cases inside : x < m.width ∧ y < m.height
  · have common := PixelBox.any_contains_intersect area m.bounds x y
    rw [bounds_contains.2 inside, Bool.and_true] at common
    unfold blit at copied
    cases reached : area.intersect m.bounds with
    | none =>
      rw [reached] at copied common
      obtain rfl : m = m' := Except.ok.inj copied
      simp [← common]
    | some box =>
      rw [reached] at copied common
      simp only at copied
      split at copied
      · simp at copied
      · obtain rfl := Except.ok.inj copied
        rw [pixel?_paint, ← common]
        rfl
  · obtain ⟨width, height⟩ := size_blit copied
    rw [pixel?_eq_none inside, pixel?_eq_none (by rwa [width, height])]
    rfl

end Bitmap

namespace Headless

/-! ### One pixel -/

/-- The rectangle covers the pixel of a target of this size. -/
def covers (size : Viewport) (rect : Rect) (x y : Nat) : Bool :=
  (rect.coverage size.width size.height).any (·.contains x y)

def clipCovers (size : Viewport) (clip : Option Rect) (x y : Nat) : Bool :=
  match clip with
  | none => true
  | some rect => covers size rect x y

/-- What an item makes of one pixel of a target of this size, with these layers. -/
def shade (size : Viewport) (layers : LayerHandle → Option Bitmap) (x y : Nat) (p : Pixel)
    (item : DrawItem) : Pixel :=
  if clipCovers size item.clip x y then
    match item.op with
    | .clear color => color.quantize
    | .fill rect color =>
      if covers size rect x y then
        if color.isOpaque then color.quantize else color.overPixel p
      else p
    | .functor _ => p
    | .layer handle dst =>
      match layers handle with
      | none => p
      | some pixels =>
        if covers size dst x y then
          (pixels.pixelAt? (x - (Frame.layerCorner dst).1) (y - (Frame.layerCorner dst).2)).getD p
        else p
  else p

def layerPixels {φ : Type} (registry : Registry Layer φ) (handle : LayerHandle) : Option Bitmap :=
  (registry.layers.get? handle).map (·.layer.pixels)

/-! ### Frames -/

namespace Frame

def size (f : Frame) : Viewport := ⟨f.target.width, f.target.height⟩

/-- A frame after each pixel of its damage was changed by a function, and no other pixel. -/
structure Changed (f f' : Frame) (change : Nat → Nat → Pixel → Pixel) : Prop where
  damage : f'.damage = f.damage
  size : f'.size = f.size
  pixel : ∀ x y, f'.target.pixel? x y =
    (f.target.pixel? x y).map fun p => if f.damage.contains x y then change x y p else p

theorem Changed.refl (f : Frame) : f.Changed f fun _ _ p => p :=
  ⟨rfl, rfl, fun x y => by simp⟩

theorem Changed.trans {f f' f'' : Frame} {change change' : Nat → Nat → Pixel → Pixel}
    (first : f.Changed f' change) (second : f'.Changed f'' change') :
    f.Changed f'' fun x y p => change' x y (change x y p) := by
  refine ⟨second.damage.trans first.damage, second.size.trans first.size, fun x y => ?_⟩
  rw [second.pixel, first.pixel, first.damage, Option.map_map]
  congr 1
  funext p
  by_cases inside : f.damage.contains x y <;> simp [inside]

theorem Changed.congr {f f' : Frame} {change change' : Nat → Nat → Pixel → Pixel}
    (changed : f.Changed f' change) (same : ∀ x y p, change' x y p = change x y p) :
    f.Changed f' change' := by
  have equal : change' = change := by
    funext x y p
    exact same x y p
  rwa [equal]

theorem any_contains_clipArea (f : Frame) (clip : Option Rect) (x y : Nat) :
    (f.clipArea clip).any (·.contains x y) =
      (clipCovers f.size clip x y && f.damage.contains x y) := by
  cases clip with
  | none => simp [clipArea, clipCovers]
  | some rect => exact PixelBox.any_contains_bind_intersect ..

theorem any_contains_fillArea (f : Frame) (rect : Rect) (clip : Option Rect) (x y : Nat) :
    (f.fillArea rect clip).any (·.contains x y) =
      (covers f.size rect x y && (clipCovers f.size clip x y && f.damage.contains x y)) := by
  rw [← any_contains_clipArea]
  unfold fillArea
  cases f.clipArea clip with
  | none => simp
  | some area => exact PixelBox.any_contains_bind_intersect ..

theorem Changed.of_area {f f' : Frame} {area : Option PixelBox} {part : Nat → Nat → Bool}
    {change : Nat → Nat → Pixel → Pixel} (damage : f'.damage = f.damage) (size : f'.size = f.size)
    (inside : ∀ x y, area.any (·.contains x y) = (part x y && f.damage.contains x y))
    (pixel : ∀ x y, f'.target.pixel? x y = (f.target.pixel? x y).map fun p =>
      if area.any (·.contains x y) then change x y p else p) :
    f.Changed f' fun x y p => if part x y then change x y p else p := by
  refine ⟨damage, size, fun x y => ?_⟩
  rw [pixel, inside]
  congr 1
  funext p
  by_cases damaged : f.damage.contains x y <;> by_cases touched : part x y <;>
    simp [damaged, touched]

/-- A frame that is painted in an area, if there is one. -/
theorem Changed.of_paint {f f' : Frame} {area : Option PixelBox} {part : Nat → Nat → Bool}
    {change : Nat → Nat → Pixel → Pixel}
    (inside : ∀ x y, area.any (·.contains x y) = (part x y && f.damage.contains x y))
    (spared : area = none → f' = f)
    (painted : ∀ box, area = some box → f' = { f with target := f.target.paint box change }) :
    f.Changed f' fun x y p => if part x y then change x y p else p := by
  cases area with
  | none =>
    rw [spared rfl]
    exact .of_area rfl rfl inside (fun x y => by simp)
  | some box =>
    rw [painted box rfl]
    refine .of_area rfl ?_ inside (fun x y => Bitmap.pixel?_paint ..)
    simp only [Frame.size, Bitmap.width_paint, Bitmap.height_paint]

theorem drawOp_clear (f : Frame) (color : Color) (clip : Option Rect) :
    f.Changed (f.drawOp ⟨.clear color, clip⟩) fun x y p =>
      if clipCovers f.size clip x y then color.quantize else p := by
  refine .of_paint (f.any_contains_clipArea clip) (fun none => ?_) (fun box some => ?_)
  · simp only [drawOp, none]
  · simp only [drawOp, some, Bitmap.fill]

theorem blend_eq_paint (m : Bitmap) (area : PixelBox) (color : Color) :
    m.blend area color = m.paint area fun _ _ p =>
      if color.isOpaque then color.quantize else color.overPixel p := by
  cases opaque' : color.isOpaque
  · simpa [opaque'] using m.blend_of_not_opaque opaque' area
  · simp [Bitmap.blend, Bitmap.fill, opaque']

theorem drawOp_fill (f : Frame) (rect : Rect) (color : Color) (clip : Option Rect) :
    f.Changed (f.drawOp ⟨.fill rect color, clip⟩) fun x y p =>
      if covers f.size rect x y && clipCovers f.size clip x y then
        if color.isOpaque then color.quantize else color.overPixel p
      else p := by
  have inside (x y : Nat) : (f.fillArea rect clip).any (·.contains x y) =
      ((covers f.size rect x y && clipCovers f.size clip x y) && f.damage.contains x y) := by
    rw [any_contains_fillArea, Bool.and_assoc]
  refine .of_paint inside (fun none => ?_) (fun box some => ?_)
  · simp only [drawOp, none]
  · simp only [drawOp, some, blend_eq_paint]

theorem drawLayer_changed {f f' : Frame} {layer : Layer} {dst : Rect} {clip : Option Rect}
    (drawn : f.drawLayer layer dst clip = .ok f') :
    f.Changed f' fun x y p =>
      if covers f.size dst x y && clipCovers f.size clip x y then
        (layer.pixels.pixelAt? (x - (layerCorner dst).1) (y - (layerCorner dst).2)).getD p
      else p := by
  have inside (x y : Nat) : (f.fillArea dst clip).any (·.contains x y) =
      ((covers f.size dst x y && clipCovers f.size clip x y) && f.damage.contains x y) := by
    rw [any_contains_fillArea, Bool.and_assoc]
  unfold drawLayer at drawn
  cases reached : f.fillArea dst clip with
  | none =>
    rw [reached] at drawn inside
    obtain rfl : f = f' := Except.ok.inj drawn
    exact .of_area rfl rfl inside (fun x y => by simp)
  | some area =>
    rw [reached] at drawn inside
    cases copied : f.target.blit layer.pixels (layerCorner dst).1 (layerCorner dst).2 area with
    | error fault => simp [copied, bind, Except.bind] at drawn
    | ok target =>
      obtain rfl : { f with target } = f' := by
        simpa [copied, bind, Except.bind, pure, Except.pure] using drawn
      obtain ⟨width, height⟩ := Bitmap.size_blit copied
      refine .of_area rfl ?_ inside (fun x y => Bitmap.pixel?_blit copied x y)
      simp only [size, width, height]

end Frame

/-! ### Lists -/

section Lists

open DeviceOp

variable {ω φ τ : Type} {report : LogRecord → ω → ω}
  {invoke : φ → Frame → FunctorInfo → StateM ω (Frame × Completion)}
  {perform : τ → StateM ω Completion}

theorem ensures_note_bind {α : Type} {name : String} {level : Level} {text : String} {d : Device ω}
    {next : Unit → DeviceOp (Device ω) α} {Q : α → Device ω → Prop}
    (h : ∀ world, Ensures (next ()) { d with outside := world } Q) :
    Ensures (Context.note (host report invoke perform) name level text >>= next) d Q := by
  refine ensures_bind.2 ?_
  rw [Context.ensures_note]
  exact h _

/-- **An item changes every pixel of the damage as `shade` says.** -/
theorem drawItem_shades {registry : Registry Layer φ} {item : DrawItem}
    (plain : ∀ id, item.op = .functor id → registry.functors.get? id = none) (name : String)
    (list : ListId) (target : Target) (f : Frame) (d : Device ω) :
    (Context.drawItem (host report invoke perform) name registry list target f item).Ensures d
      fun f' d' =>
        (f.Changed f' fun x y p => shade f.size (layerPixels registry) x y p item) ∧
          d'.config = d.config := by
  obtain ⟨op, clip⟩ := item
  cases op with
  | clear color =>
    refine ensures_pure.2 ⟨f.drawOp_clear color clip, rfl⟩
  | fill rect color =>
    refine ensures_pure.2 ⟨(f.drawOp_fill rect color clip).congr fun x y p => ?_, rfl⟩
    by_cases clipped : clipCovers f.size clip x y <;> simp [shade, clipped]
  | functor id =>
    have unseen := plain id rfl
    unfold Context.drawItem
    simp only [unseen]
    refine ensures_note_bind fun world => ensures_pure.2 ⟨?_, rfl⟩
    refine (Frame.Changed.refl f).congr fun x y p => ?_
    simp [shade]
  | layer handle dst =>
    unfold Context.drawItem
    cases entry : registry.layers.get? handle with
    | none =>
      simp only [entry]
      refine ensures_note_bind fun world => ensures_pure.2 ⟨?_, rfl⟩
      refine (Frame.Changed.refl f).congr fun x y p => ?_
      simp [shade, layerPixels, entry]
    | some layer =>
      simp only [entry]
      cases drawn : f.drawLayer layer.layer dst clip with
      | error fault => exact ensures_throw.2 trivial
      | ok f' =>
        refine ensures_pure.2 ⟨(Frame.drawLayer_changed drawn).congr fun x y p => ?_, rfl⟩
        by_cases clipped : clipCovers f.size clip x y <;>
          simp [shade, layerPixels, entry, clipped]

/-- **A list changes every pixel of the damage by its items in order.** -/
theorem drawItems_shades {registry : Registry Layer φ} {items : List DrawItem}
    (plain : ∀ item ∈ items, ∀ id, item.op = .functor id → registry.functors.get? id = none)
    (name : String) (list : ListId) (target : Target) (f : Frame) (d : Device ω) :
    (Context.drawItems (host report invoke perform) name registry list target items f).Ensures d
      fun f' d' =>
        (f.Changed f' fun x y p => items.foldl (shade f.size (layerPixels registry) x y) p) ∧
          d'.config = d.config := by
  induction items generalizing f d with
  | nil => exact ensures_pure.2 ⟨.refl f, rfl⟩
  | cons item rest ih =>
    refine ensures_bind.2 ((drawItem_shades (plain item (.head _)) name list target f d).mono ?_)
    rintro f₁ d₁ ⟨first, config₁⟩
    refine (ih (fun item later => plain item (.tail _ later)) f₁ d₁).mono ?_
    rintro f₂ d₂ ⟨second, config₂⟩
    rw [first.size] at second
    exact ⟨first.trans second, config₂.trans config₁⟩

end Lists

end Headless

end RenderRelay
