import RenderRelay.Proofs.Faultless
import RenderRelay.Proofs.Recovery.Loose
import RenderRelay.Proofs.Rounding
import RenderRelay.Proofs.Turns

/-!
Where layers are put. A layer's corner comes to the rounded corner of its rectangle, and what the
rectangle, the clip and the damage leave of it is copied, pixel by pixel. Distances from the corner
are told in sixty-four bits with a sign, and a rectangle may begin so far to the left or above that
one of a pixel that it covers is not to be told; then there is no end to the drawing of it, and in
no other case (`layer_placed_iff`).
-/

namespace RenderRelay

open DeviceOp

/-! ### Corners -/

namespace Rect

def corner (r : Rect) : Int × Int := (r.normalized.x.whole, r.normalized.y.whole)

end Rect

namespace Headless

variable {ω φ τ : Type} {report : LogRecord → ω → ω}
  {invoke : φ → Frame → FunctorInfo → StateM ω (Frame × Completion)}
  {perform : τ → StateM ω Completion}

/-! ### One layer -/

/-- An item with this rectangle and clip may change the pixel. -/
structure Reaches (size : Viewport) (damage : PixelBox) (dst : Rect) (clip : Option Rect)
    (x y : Nat) : Prop where
  covered : covers size dst x y = true
  clipped : clipCovers size clip x y = true
  damaged : damage.contains x y = true

/-- The distance of the pixel from the layer's corner is not to be told: that of the rows, or that
of the columns in a row of the layer. -/
def TooFar (pixels : Bitmap) (dst : Rect) (x y : Nat) : Prop :=
  Bitmap.offsetLimit ≤ y - dst.corner.2 ∨
    y - dst.corner.2 < pixels.height ∧ Bitmap.offsetLimit ≤ x - dst.corner.1

/-- **A layer in its place**: every pixel that is reached and that the layer has a pixel for is that
one, and every other is as it was. -/
structure Placed (f : Frame) (pixels : Bitmap) (dst : Rect) (clip : Option Rect) (f' : Frame) :
    Prop where
  damage : f'.damage = f.damage
  size : f'.size = f.size
  copied : ∀ x y p, Reaches f.size f.damage dst clip x y →
    pixels.pixelAt? (x - dst.corner.1) (y - dst.corner.2) = some p →
      f'.target.pixel? x y = some p
  kept : ∀ x y, ¬(Reaches f.size f.damage dst clip x y ∧
      (pixels.pixelAt? (x - dst.corner.1) (y - dst.corner.2)).isSome) →
    f'.target.pixel? x y = f.target.pixel? x y

/-- What a rectangle covers lies right of its corner and below it, and inside the target. -/
theorem covers_bounds {size : Viewport} {rect : Rect} {x y : Nat}
    (covered : covers size rect x y = true) :
    (rect.corner.1 ≤ x ∧ x < Rect.coordinateLimit ∧ x < size.width) ∧
      rect.corner.2 ≤ y ∧ y < Rect.coordinateLimit ∧ y < size.height := by
  unfold covers Rect.coverage at covered
  split at covered
  · rw [PixelBox.any_contains_nonempty?] at covered
    simp only [PixelBox.contains, Rect.snap_eq, Bool.and_eq_true, decide_eq_true_eq] at covered
    simp only [Rect.corner]
    omega
  · simp at covered

/-- From a corner that is not very far off, no pixel of a target is too far. -/
theorem not_tooFar {size : Viewport} {pixels : Bitmap} {dst : Rect} {x y : Nat}
    (left : -0x4000000000000000 ≤ dst.corner.1) (top : -0x4000000000000000 ≤ dst.corner.2)
    (covered : covers size dst x y = true) : ¬TooFar pixels dst x y := by
  have bounds := covers_bounds covered
  simp only [Rect.coordinateLimit] at bounds
  simp only [TooFar, Bitmap.offsetLimit]
  omega

theorem layerCorner_eq (dst : Rect) :
    Frame.layerCorner dst =
      (max (-0x8000000000000000) (min 0x7fffffffffffffff dst.corner.1),
        max (-0x8000000000000000) (min 0x7fffffffffffffff dst.corner.2)) := by
  unfold Frame.layerCorner Rect.corner
  simp only [Single.toIntWithin_round (by decide : (-0x8000000000000000 : Int) ≤ 0)
    (by decide : (0 : Int) ≤ 0x7fffffffffffffff)]

/-- The corner that is cut off tells the same pixels as too far. -/
theorem strays_iff {size : Viewport} {pixels : Bitmap} {dst : Rect} {x y : Nat}
    (covered : covers size dst x y = true) :
    pixels.Strays (Frame.layerCorner dst).1 (Frame.layerCorner dst).2 x y ↔
      TooFar pixels dst x y := by
  have bounds := covers_bounds covered
  simp only [Rect.coordinateLimit] at bounds
  rw [layerCorner_eq]
  simp only [Bitmap.Strays, TooFar, Bitmap.offsetLimit]
  omega

theorem pixelAt?_eq_none {pixels : Bitmap} {x y : Int} (beyond : (pixels.height : Int) ≤ y) :
    pixels.pixelAt? x y = none := by
  unfold Bitmap.pixelAt?
  split
  · apply Bitmap.pixel?_eq_none
    omega
  · rfl

/-- Where no distance is too far, the corner that is cut off tells the same pixels of the layer. -/
theorem pixelAt?_layerCorner {size : Viewport} {pixels : Bitmap} {dst : Rect} {x y : Nat}
    (covered : covers size dst x y = true) (near : ¬TooFar pixels dst x y) :
    pixels.pixelAt? (x - (Frame.layerCorner dst).1) (y - (Frame.layerCorner dst).2) =
      pixels.pixelAt? (x - dst.corner.1) (y - dst.corner.2) := by
  have bounds := covers_bounds covered
  simp only [Rect.coordinateLimit] at bounds
  simp only [TooFar, Bitmap.offsetLimit] at near
  have row : (Frame.layerCorner dst).2 = dst.corner.2 := by
    rw [layerCorner_eq]
    simp only
    omega
  rw [row]
  by_cases inside : y - dst.corner.2 < (pixels.height : Int)
  · have column : (Frame.layerCorner dst).1 = dst.corner.1 := by
      rw [layerCorner_eq]
      simp only
      omega
    rw [column]
  · rw [pixelAt?_eq_none (by omega), pixelAt?_eq_none (by omega)]

theorem drawLayer_returns_iff {f : Frame} {layer : Layer} {dst : Rect} {clip : Option Rect} :
    (∃ f', f.drawLayer layer dst clip = .ok f') ↔
      ∀ x y, Reaches f.size f.damage dst clip x y → ¬TooFar layer.pixels dst x y := by
  rw [Frame.drawLayer_isOk_iff]
  constructor
  · intro near x y reaches
    have bounds := covers_bounds reaches.covered
    have inside : f.target.bounds.contains x y = true :=
      Bitmap.bounds_contains.2 ⟨bounds.1.2.2, bounds.2.2.2⟩
    rw [← strays_iff reaches.covered]
    exact near x y reaches.covered reaches.clipped reaches.damaged inside
  · intro near x y covered clipped damaged _
    rw [strays_iff covered]
    exact near x y ⟨covered, clipped, damaged⟩

section Drawn

variable {f f' : Frame} {layer : Layer} {dst : Rect} {clip : Option Rect} {x y : Nat}

/-- A pixel that is reached becomes the layer's, if there is one. -/
theorem drawLayer_reached (drawn : f.drawLayer layer dst clip = .ok f')
    (reaches : Reaches f.size f.damage dst clip x y) :
    f'.target.pixel? x y = (f.target.pixel? x y).map fun p =>
      (layer.pixels.pixelAt? (x - (Frame.layerCorner dst).1)
        (y - (Frame.layerCorner dst).2)).getD p := by
  rw [(Frame.drawLayer_changed drawn).pixel]
  simp only [reaches.covered, reaches.clipped, reaches.damaged, Bool.and_self, if_true]

theorem drawLayer_unreached (drawn : f.drawLayer layer dst clip = .ok f')
    (misses : ¬Reaches f.size f.damage dst clip x y) :
    f'.target.pixel? x y = f.target.pixel? x y := by
  rw [(Frame.drawLayer_changed drawn).pixel]
  by_cases damaged : f.damage.contains x y = true
  · have out : (covers f.size dst x y && clipCovers f.size clip x y) = false := by
      rw [Bool.eq_false_iff, ne_eq, Bool.and_eq_true]
      exact fun both => misses ⟨both.1, both.2, damaged⟩
    simp [out]
  · simp [damaged]

theorem Reaches.pixel? (reaches : Reaches f.size f.damage dst clip x y) :
    ∃ p, f.target.pixel? x y = some p := by
  have bounds := covers_bounds reaches.covered
  rw [Bitmap.pixel?, dif_pos ⟨bounds.1.2.2, bounds.2.2.2⟩]
  exact ⟨_, rfl⟩

theorem drawLayer_placed (drawn : f.drawLayer layer dst clip = .ok f') :
    Placed f layer.pixels dst clip f' := by
  have near := drawLayer_returns_iff.1 ⟨f', drawn⟩
  have changed := Frame.drawLayer_changed drawn
  have pixel {x y : Nat} (reaches : Reaches f.size f.damage dst clip x y) :
      f'.target.pixel? x y = (f.target.pixel? x y).map fun p =>
        (layer.pixels.pixelAt? (x - dst.corner.1) (y - dst.corner.2)).getD p := by
    rw [drawLayer_reached drawn reaches, pixelAt?_layerCorner reaches.covered (near x y reaches)]
  refine ⟨changed.damage, changed.size, fun x y p reaches there => ?_, fun x y spared => ?_⟩
  · obtain ⟨before, inside⟩ := reaches.pixel?
    rw [pixel reaches, there, inside]
    rfl
  · by_cases reaches : Reaches f.size f.damage dst clip x y
    · have none : layer.pixels.pixelAt? (x - dst.corner.1) (y - dst.corner.2) = none := by
        rw [← Option.not_isSome_iff_eq_none]
        exact fun some => spared ⟨reaches, some⟩
      rw [pixel reaches, none]
      simp
    · exact drawLayer_unreached drawn reaches

end Drawn

/-! ### Lists -/

/-- The callback leaves a frame its size and its damage. -/
def KeepsFrame (invoke : φ → Frame → FunctorInfo → StateM ω (Frame × Completion)) (callback : φ) :
    Prop :=
  ∀ frame info world, (invoke callback frame info world).1.1.size = frame.size ∧
    (invoke callback frame info world).1.1.damage = frame.damage

/-- The item copies no layer of which a pixel that it reaches is too far. -/
def Near (layers : LayerHandle → Option Bitmap) (size : Viewport) (damage : PixelBox)
    (item : DrawItem) : Prop :=
  ∀ handle dst pixels, item.op = .layer handle dst → layers handle = some pixels →
    ∀ x y, Reaches size damage dst item.clip x y → ¬TooFar pixels dst x y

theorem Near.of_op {layers : LayerHandle → Option Bitmap} {size : Viewport} {damage : PixelBox}
    {item : DrawItem} (other : ∀ handle dst, item.op ≠ .layer handle dst) :
    Near layers size damage item :=
  fun handle dst _ op => absurd op (other handle dst)

section Lists

variable {registry : Registry Layer φ} {f : Frame} {d : Device ω}

theorem drawItem_keeps {item : DrawItem}
    (keeps : ∀ id callback, item.op = .functor id → registry.functors.get? id = some callback →
      KeepsFrame invoke callback) (name : String) (list : ListId) (target : Target) :
    (Context.drawItem (host report invoke perform) name registry list target f item).Ensures d
      fun f' _ => f'.size = f.size ∧ f'.damage = f.damage := by
  obtain ⟨op, clip⟩ := item
  cases op with
  | clear color =>
    have changed := f.drawOp_clear color clip
    exact ensures_pure.2 ⟨changed.size, changed.damage⟩
  | fill rect color =>
    have changed := f.drawOp_fill rect color clip
    exact ensures_pure.2 ⟨changed.size, changed.damage⟩
  | functor id =>
    unfold Context.drawItem
    cases attached : registry.functors.get? id with
    | none =>
      simp only [attached]
      exact ensures_note_bind fun world => ensures_pure.2 ⟨rfl, rfl⟩
    | some callback =>
      have kept := keeps id callback rfl attached
      simp only [attached]
      refine ensures_bind.2 (ensures_pure.2 (ensures_bind.2 (ensures_lift.2 ?_)))
      have same := kept f ⟨list, target.viewport, target.damage, clip, target.frameIndex⟩ d.outside
      split
      · exact ensures_pure.2 same
      · exact ensures_note_bind fun world => ensures_pure.2 same
  | layer handle dst =>
    unfold Context.drawItem
    cases entry : registry.layers.get? handle with
    | none =>
      simp only [entry]
      exact ensures_note_bind fun world => ensures_pure.2 ⟨rfl, rfl⟩
    | some layer =>
      simp only [entry]
      cases drawn : f.drawLayer layer.layer dst clip with
      | error fault => exact ensures_throw.2 trivial
      | ok f' =>
        have placed := drawLayer_placed drawn
        exact ensures_pure.2 ⟨placed.size, placed.damage⟩

theorem drawItem_returns_iff {item : DrawItem} (name : String) (list : ListId) (target : Target) :
    (∃ f' d', (Context.drawItem (host report invoke perform) name registry list target f item).runOn
      d = (.ok f', d')) ↔ Near (layerPixels registry) f.size f.damage item := by
  obtain ⟨op, clip⟩ := item
  cases op with
  | clear color => exact iff_of_true ⟨_, _, rfl⟩ (.of_op (by simp))
  | fill rect color => exact iff_of_true ⟨_, _, rfl⟩ (.of_op (by simp))
  | functor id =>
    refine iff_of_true ?_ (.of_op (by simp))
    have returns : (Context.drawItem (host report invoke perform) name registry list target f
        ⟨.functor id, clip⟩).Returns := by
      unfold Context.drawItem
      simp only
      split
      · exact (Context.note_returns _ _ _ _).bind fun _ => returns_pure _
      · refine (returns_pure _).bind fun frame => (returns_lift _).bind fun invoked => ?_
        obtain ⟨frame, finished | panicked⟩ := invoked
        · exact returns_pure _
        · exact (Context.note_returns _ _ _ _).bind fun _ => returns_pure _
    exact returns d
  | layer handle dst =>
    unfold Context.drawItem
    cases entry : registry.layers.get? handle with
    | none =>
      refine iff_of_true ?_ ?_
      · simp only [entry]
        exact ⟨_, _, rfl⟩
      · intro handle' dst' pixels op there
        cases op
        simp [layerPixels, entry] at there
    | some layer =>
      simp only [entry]
      have near_iff : Near (layerPixels registry) f.size f.damage ⟨.layer handle dst, clip⟩ ↔
          ∀ x y, Reaches f.size f.damage dst clip x y → ¬TooFar layer.layer.pixels dst x y := by
        constructor
        · intro near
          exact near handle dst layer.layer.pixels rfl (by simp [layerPixels, entry])
        · intro near handle' dst' pixels op there
          cases op
          obtain rfl : layer.layer.pixels = pixels := by simpa [layerPixels, entry] using there
          exact near
      rw [near_iff, ← drawLayer_returns_iff]
      cases drawn : f.drawLayer layer.layer dst clip with
      | error fault => exact iff_of_false (by simp) (by simp)
      | ok f' => exact iff_of_true ⟨_, _, rfl⟩ ⟨f', rfl⟩

/-- **A list is drawn to its end just if none of its items is too far.** -/
theorem drawItems_returns_iff {items : List DrawItem}
    (keeps : ∀ item ∈ items, ∀ id callback, item.op = .functor id →
      registry.functors.get? id = some callback → KeepsFrame invoke callback)
    (name : String) (list : ListId) (target : Target) :
    (∃ f' d', (Context.drawItems (host report invoke perform) name registry list target items f
      ).runOn d = (.ok f', d')) ↔
        ∀ item ∈ items, Near (layerPixels registry) f.size f.damage item := by
  induction items generalizing f d with
  | nil => exact iff_of_true ⟨_, _, rfl⟩ (List.forall_mem_nil _)
  | cons item rest ih =>
    have first : (∃ f' d', (Context.drawItem (host report invoke perform) name registry list target
        f item).runOn d = (.ok f', d')) ↔ _ := drawItem_returns_iff name list target
    have later : ∀ item ∈ rest, ∀ id callback, item.op = .functor id →
        registry.functors.get? id = some callback → KeepsFrame invoke callback :=
      fun item mem => keeps item (.tail _ mem)
    rw [List.forall_mem_cons, ← first]
    simp only [Context.drawItems]
    rw [runOn_bind]
    cases run : (Context.drawItem (host report invoke perform) name registry list target f
        item).runOn d with
    | mk ended d₁ =>
      cases ended with
      | error fault => simp
      | ok f₁ =>
        obtain ⟨size, damage⟩ := drawItem_keeps (keeps item (.head _)) name list target _ _ run
        have rest_iff := ih later (f := f₁) (d := d₁)
        rw [size, damage] at rest_iff
        simp only [rest_iff]
        simp

end Lists

/-- **Layers are placed exactly, as far as their distance can be told.** A layer is drawn to its
end, and is in its place then, just if no pixel that is reached is too far from where its corner
comes to. So a list, whatever its callbacks draw into the frame, is drawn to its end just if that
holds of all its layers. -/
theorem layer_placed_iff (f : Frame) :
    (∀ (layer : Layer) (dst : Rect) (clip : Option Rect),
      (∃ f', f.drawLayer layer dst clip = .ok f' ∧ Placed f layer.pixels dst clip f') ↔
        ∀ x y, Reaches f.size f.damage dst clip x y → ¬TooFar layer.pixels dst x y) ∧
    ∀ {ω φ τ : Type} (report : LogRecord → ω → ω)
      (invoke : φ → Frame → FunctorInfo → StateM ω (Frame × Completion))
      (perform : τ → StateM ω Completion) (registry : Registry Layer φ) (list : DisplayList),
      (∀ id ∈ list.functors, ∀ callback, registry.functors.get? id = some callback →
        KeepsFrame invoke callback) →
      ∀ (name : String) (target : Target) (d : Device ω),
        (∃ f' d', (Context.drawItems (host report invoke perform) name registry list.id target
          list.items f).runOn d = (.ok f', d')) ↔
            ∀ item ∈ list.items, Near (layerPixels registry) f.size f.damage item := by
  constructor
  · intro layer dst clip
    rw [← drawLayer_returns_iff]
    constructor
    · rintro ⟨f', drawn, -⟩
      exact ⟨f', drawn⟩
    · rintro ⟨f', drawn⟩
      exact ⟨f', drawn, drawLayer_placed drawn⟩
  · intro ω φ τ report invoke perform registry list keeps name target d
    apply drawItems_returns_iff
    intro item mem id callback op
    exact keeps id (DisplayList.mem_functors mem op) callback

def redLayer : Layer := ⟨(Bitmap.ofSize 1 1).fill (.ofSize 1 1) (.ofBytes 255 0 0 255)⟩

/-- A callback, and the red layer on the right pixel of two. -/
theorem layer_placed_iff_right :
    let registry : Registry Layer Unit :=
      ⟨Table.empty.insert ⟨1⟩ (), Table.empty.insert ⟨1⟩ ⟨redLayer, ⟨1, 1⟩⟩, [], none⟩
    let list : DisplayList := ⟨⟨1⟩, [⟨.functor ⟨1⟩, none⟩, ⟨.layer ⟨1⟩ ⟨1, 0, 1, 1⟩, none⟩]⟩
    let f : Frame := ⟨.ofSize 2 1, .ofSize 2 1⟩
    (∀ id ∈ list.functors, ∀ callback, registry.functors.get? id = some callback →
      KeepsFrame (fun _ frame _ => (pure (frame, .finished) : StateM Unit _)) callback) ∧
    (∃ f', f.drawLayer redLayer ⟨1, 0, 1, 1⟩ none = .ok f' ∧
      Placed f redLayer.pixels ⟨1, 0, 1, 1⟩ none f') ∧
    ∃ f' d', (Context.drawItems idleHost "" registry list.id ⟨⟨2, 1⟩, .ofSize 2 1, 0⟩ list.items
      f).runOn (.start .standard ()) = (.ok f', d') := by
  intro registry list f
  have corner : Rect.corner ⟨1, 0, 1, 1⟩ = (1, 0) := by decide +kernel
  have near (x y : Nat) (reaches : Reaches f.size f.damage ⟨1, 0, 1, 1⟩ none x y) :
      ¬TooFar redLayer.pixels ⟨1, 0, 1, 1⟩ x y :=
    not_tooFar (by simp [corner]) (by simp [corner]) reaches.covered
  have keeps : ∀ id ∈ list.functors, ∀ callback, registry.functors.get? id = some callback →
      KeepsFrame (fun _ frame _ => (pure (frame, .finished) : StateM Unit _)) callback :=
    fun _ _ _ _ _ _ _ => ⟨rfl, rfl⟩
  refine ⟨keeps, ((layer_placed_iff f).1 redLayer ⟨1, 0, 1, 1⟩ none).2 near, ?_⟩
  refine ((layer_placed_iff f).2 _ _ _ registry list keeps "" _ _).2 fun item mem => ?_
  simp only [list, List.mem_cons, List.not_mem_nil, or_false] at mem
  rcases mem with rfl | rfl
  · exact .of_op (by simp)
  · intro handle dst pixels op there
    cases op
    obtain rfl : redLayer.pixels = pixels := Option.some.inj there
    exact near

/-- A rectangle of one row that begins far to the left of every target and ends as far to the
right. -/
def farLeft : Rect := ⟨.ofBits 0xf149f2ca, 0, .ofBits 0x71c9f2ca, 1⟩

def drawFarLeft : List (Turn Surface Unit Unit) :=
  [.message ⟨1⟩ (.create false), .message ⟨1⟩ (.run (.bindSurface ⟨0, "window", false⟩)),
    .message ⟨1⟩ (.run (.setup ⟨1, 1⟩)), .message ⟨1⟩ (.run (.createLayer ⟨1, 1⟩)),
    .message ⟨1⟩ (.run (.pushLayerUpdate ⟨1⟩ ⟨⟨1⟩, [⟨.clear (.ofBytes 255 0 0 255), none⟩]⟩)),
    .message ⟨1⟩ (.run (.draw ⟨⟨2⟩, [⟨.layer ⟨1⟩ farLeft, none⟩]⟩ Damage.whole.encode))].map
      (⟨0, ·⟩)

/-- The layer has no pixel for the only one that is covered, which should be left alone. Instead the
thread is lost. -/
theorem far_left_layer_is_fatal :
    (∀ p ∈ redLayer.pixels.pixels, p.a = 255) ∧ covers ⟨1, 1⟩ farLeft 0 0 = true ∧
    (Frame.drawLayer ⟨.ofSize 1 1, .ofSize 1 1⟩ redLayer farLeft none).map Frame.target =
      .error .subtractOverflow ∧
    (RenderLoop.serveAll idleHost drawFarLeft (.start ⟨1⟩)).Ends (.start .standard ()) (fun _ => ())
      (.error .subtractOverflow) := by
  unfold Ends
  decide +kernel

end Headless

end RenderRelay
