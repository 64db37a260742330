import RenderRelay.Proofs.Layers.Placement
import RenderRelay.Proofs.Repaint.Scoped

/-!
Layers over what is below them. A fill lays its colour over each pixel; a layer is to be composited
in the same way, and is copied instead. The two agree where a pixel laid over the one below is
itself: on opaque pixels of a layer always, on transparent ones only where there was nothing
(`layer_composited_iff`).
-/

namespace RenderRelay

open DeviceOp

/-! ### Pixels over pixels -/

namespace Color

theorem quantizeChannel_unitOfByte (v : UInt8) : quantizeChannel (unitOfByte v) = v := by
  have all : ∀ i : Fin 256, quantizeChannel (unitOfByte (.ofFin i)) = .ofFin i := by
    decide +kernel
  exact all v.toFin

theorem quantizeChannel_overChannel_zero (v : UInt8) :
    quantizeChannel (overChannel (unitOfByte 0) (unitOfByte 0) (unitOfByte v)) = v := by
  have all : ∀ i : Fin 256, quantizeChannel (overChannel (unitOfByte 0) (unitOfByte 0)
      (unitOfByte (.ofFin i))) = .ofFin i := by
    decide +kernel
  exact all v.toFin

theorem one_le_unitOfByte {v : UInt8} : Single.le 1 (unitOfByte v) = true ↔ v = 255 := by
  have all : ∀ i : Fin 256, Single.le 1 (unitOfByte (.ofFin i)) = true ↔ UInt8.ofFin i = 255 := by
    decide +kernel
  exact all v.toFin

/-- A stored pixel is the one of the colour that it stands for. -/
theorem quantize_ofPixel (p : Pixel) : (ofPixel p).quantize = p := by
  simp only [quantize, ofPixel, quantizeChannel_unitOfByte]

end Color

namespace Pixel

/-- One pixel laid over another, as a fill lays the colour that it stands for. -/
def laidOver (q p : Pixel) : Pixel :=
  if (Color.ofPixel q).isOpaque then (Color.ofPixel q).quantize else (Color.ofPixel q).overPixel p

theorem laidOver_of_opaque {q : Pixel} (opaque' : q.a = 255) (p : Pixel) : q.laidOver p = q := by
  have covers : (Color.ofPixel q).isOpaque = true := Color.one_le_unitOfByte.2 opaque'
  rw [laidOver, if_pos covers, Color.quantize_ofPixel]

theorem transparent_laidOver (p : Pixel) : transparent.laidOver p = p := by
  have clear : (Color.ofPixel transparent).isOpaque = false := by decide
  rw [laidOver, if_neg (by simp [clear])]
  simp only [transparent, Color.overPixel, Color.laidOver, Color.ofPixel, Color.quantize,
    Color.quantizeChannel_overChannel_zero]

end Pixel

/-- What is found at a place is a pixel of the buffer. -/
theorem Bitmap.mem_of_pixelAt? {m : Bitmap} {x y : Int} {p : Pixel}
    (found : m.pixelAt? x y = some p) : p ∈ m.pixels := by
  unfold pixelAt? pixel? at found
  split at found
  · split at found
    · obtain rfl := Option.some.inj found
      exact Array.getElem_mem _
    · simp at found
  · simp at found

namespace Headless

variable {ω φ τ : Type} {report : LogRecord → ω → ω}
  {invoke : φ → Frame → FunctorInfo → StateM ω (Frame × Completion)}
  {perform : τ → StateM ω Completion}

/-! ### Layers over frames -/

/-- The pixel is reached, and the layer has this one for it. -/
def Lands (size : Viewport) (damage : PixelBox) (pixels : Bitmap) (dst : Rect) (clip : Option Rect)
    (x y : Nat) (q : Pixel) : Prop :=
  Reaches size damage dst clip x y ∧
    pixels.pixelAt? (x - (Frame.layerCorner dst).1) (y - (Frame.layerCorner dst).2) = some q

/-- **A layer over a frame**: each of its pixels is laid over the one that was there, and every
other is as it was. -/
structure Composited (f : Frame) (pixels : Bitmap) (dst : Rect) (clip : Option Rect) (f' : Frame) :
    Prop where
  laid : ∀ x y q p, Lands f.size f.damage pixels dst clip x y q → f.target.pixel? x y = some p →
    f'.target.pixel? x y = some (q.laidOver p)
  kept : ∀ x y, (∀ q, ¬Lands f.size f.damage pixels dst clip x y q) →
    f'.target.pixel? x y = f.target.pixel? x y

def Blank (pixels : Bitmap) : Prop := ∀ p ∈ pixels.pixels, p = .transparent

theorem Blank.pixelAt? {pixels : Bitmap} {x y : Int} {q : Pixel} (blank : Blank pixels)
    (found : pixels.pixelAt? x y = some q) : q = .transparent :=
  blank q (Bitmap.mem_of_pixelAt? found)

/-- What is reached and not landed on, the layer has no pixel for. -/
theorem Reaches.pixelAt?_eq_none {size : Viewport} {damage : PixelBox} {pixels : Bitmap}
    {dst : Rect} {clip : Option Rect} {x y : Nat} (reaches : Reaches size damage dst clip x y)
    (misses : ∀ q, ¬Lands size damage pixels dst clip x y q) :
    pixels.pixelAt? (x - (Frame.layerCorner dst).1) (y - (Frame.layerCorner dst).2) = none := by
  rw [Option.eq_none_iff_forall_ne_some]
  intro q found
  exact misses q ⟨reaches, found⟩

section Frames

variable {f f' : Frame} {layer : Layer} {dst : Rect} {clip : Option Rect} {x y : Nat}

theorem drawLayer_copies (drawn : f.drawLayer layer dst clip = .ok f') {q : Pixel}
    (lands : Lands f.size f.damage layer.pixels dst clip x y q) :
    f'.target.pixel? x y = some q := by
  obtain ⟨reaches, found⟩ := lands
  obtain ⟨p, there⟩ := reaches.pixel?
  rw [drawLayer_reached drawn reaches, there, found]
  rfl

theorem drawLayer_spares (drawn : f.drawLayer layer dst clip = .ok f')
    (misses : ∀ q, ¬Lands f.size f.damage layer.pixels dst clip x y q) :
    f'.target.pixel? x y = f.target.pixel? x y := by
  by_cases reaches : Reaches f.size f.damage dst clip x y
  · rw [drawLayer_reached drawn reaches, reaches.pixelAt?_eq_none misses]
    simp
  · exact drawLayer_unreached drawn reaches

theorem drawLayer_composited_iff (drawn : f.drawLayer layer dst clip = .ok f') :
    Composited f layer.pixels dst clip f' ↔
      ∀ x y q p, Lands f.size f.damage layer.pixels dst clip x y q →
        f.target.pixel? x y = some p → q.laidOver p = q := by
  constructor
  · intro composited x y q p lands there
    have laid := composited.laid x y q p lands there
    rw [drawLayer_copies drawn lands] at laid
    exact (Option.some.inj laid).symm
  · intro same
    refine ⟨fun x y q p lands there => ?_, fun x y misses => drawLayer_spares drawn misses⟩
    rw [drawLayer_copies drawn lands, same x y q p lands there]

/-- A layer that nothing was drawn into is not seen just where there was nothing to see. -/
theorem drawLayer_blank_iff (drawn : f.drawLayer layer dst clip = .ok f')
    (blank : Blank layer.pixels) :
    f'.target = f.target ↔ ∀ x y q, Lands f.size f.damage layer.pixels dst clip x y q →
      f.target.pixel? x y = some .transparent := by
  constructor
  · intro same x y q lands
    rw [← same, drawLayer_copies drawn lands, blank.pixelAt? lands.2]
  · intro nothing
    refine Bitmap.ext_pixel (Frame.drawLayer_changed drawn).size fun x y => ?_
    by_cases lands : ∃ q, Lands f.size f.damage layer.pixels dst clip x y q
    · obtain ⟨q, lands⟩ := lands
      rw [drawLayer_copies drawn lands, nothing x y q lands, blank.pixelAt? lands.2]
    · exact drawLayer_spares drawn fun q lands' => lands ⟨q, lands'⟩

end Frames

/-! ### Lists with one item more -/

section Lists

variable {registry : Registry Layer φ} {clear : Color} {size : Viewport} {before : Bitmap}
  {damage : PixelBox} {handle : LayerHandle} {pixels : Bitmap} {dst : Rect} {clip : Option Rect}

/-- A layer that nothing was drawn into makes every pixel that it lands on transparent. -/
theorem shade_blank (there : layerPixels registry handle = some pixels) (blank : Blank pixels)
    {x y : Nat} {q : Pixel} (lands : Lands size damage pixels dst clip x y q) (p : Pixel) :
    shade size (layerPixels registry) x y p ⟨.layer handle dst, clip⟩ = .transparent := by
  obtain ⟨reaches, found⟩ := lands
  simp [shade, reaches.clipped, reaches.covered, there, found, blank.pixelAt? found]

theorem shade_spares (there : layerPixels registry handle = some pixels) {x y : Nat}
    (damaged : damage.contains x y = true)
    (misses : ∀ q, ¬Lands size damage pixels dst clip x y q) (p : Pixel) :
    shade size (layerPixels registry) x y p ⟨.layer handle dst, clip⟩ = p := by
  unfold shade
  split
  case isFalse => rfl
  case isTrue clipped =>
    simp only [there]
    split
    case isFalse => rfl
    case isTrue covered =>
      have reaches : Reaches size damage dst clip x y := ⟨covered, clipped, damaged⟩
      rw [reaches.pixelAt?_eq_none misses, Option.getD_none]

/-- **A blank layer more in a list** is not seen just if the items after it make the same of a
transparent pixel as of what the items before it left there. -/
theorem blank_layer_unseen_iff {id id' : ListId} {first rest : List DrawItem} {f f' : Frame}
    (plain : Plain registry ⟨id, first ++ rest⟩) (fits : HasSize before size)
    (there : layerPixels registry handle = some pixels) (blank : Blank pixels)
    (drawn : Rasterizes (host report invoke perform) registry ⟨id, first ++ rest⟩ clear before
      damage f)
    (drawn' : Rasterizes (host report invoke perform) registry
      ⟨id', first ++ ⟨.layer handle dst, clip⟩ :: rest⟩ clear before damage f') :
    f'.target = f.target ↔ ∀ x y q, Lands size damage pixels dst clip x y q →
      rest.foldl (shade size (layerPixels registry) x y) .transparent =
        (first ++ rest).foldl (shade size (layerPixels registry) x y) clear.quantize := by
  have plain' : Plain registry ⟨id', first ++ ⟨.layer handle dst, clip⟩ :: rest⟩ := by
    intro other named
    apply plain other
    simpa [DisplayList.functors] using named
  have painted := drawn.painted plain fits
  have painted' := drawn'.painted plain' fits
  constructor
  · intro same x y q lands
    have bounds := covers_bounds lands.1.covered
    have pixel := painted.damaged x y bounds.1.2.2 bounds.2.2.2 lands.1.damaged
    have pixel' := painted'.damaged x y bounds.1.2.2 bounds.2.2.2 lands.1.damaged
    rw [same, pixel] at pixel'
    simp only [FrameRecord.pixel, List.foldl_append, List.foldl_cons, Option.some.injEq,
      shade_blank there blank lands] at pixel' ⊢
    exact pixel'.symm
  · intro agree
    have extent : f'.target.extent = f.target.extent := by
      rw [Bitmap.extent, Bitmap.extent, painted'.fits.1, painted'.fits.2, painted.fits.1,
        painted.fits.2]
    refine Bitmap.ext_pixel extent fun x y => ?_
    by_cases damaged : damage.contains x y = true
    · by_cases within : x < size.width ∧ y < size.height
      · rw [painted.damaged x y within.1 within.2 damaged,
          painted'.damaged x y within.1 within.2 damaged]
        by_cases lands : ∃ q, Lands size damage pixels dst clip x y q
        · obtain ⟨q, lands⟩ := lands
          have same := agree x y q lands
          simp only [FrameRecord.pixel, List.foldl_append, List.foldl_cons, Option.some.injEq,
            shade_blank there blank lands] at same ⊢
          exact same
        · have misses : ∀ q, ¬Lands size damage pixels dst clip x y q :=
            fun q lands' => lands ⟨q, lands'⟩
          simp only [FrameRecord.pixel, List.foldl_append, List.foldl_cons,
            shade_spares there damaged misses]
      · rw [painted.fits.pixel?_eq_none within, painted'.fits.pixel?_eq_none within]
    · have outside : damage.contains x y = false := Bool.eq_false_iff.2 damaged
      rw [painted.kept fits x y outside, painted'.kept fits x y outside]

end Lists

/-- What copying a layer has of compositing it. An opaque pixel covers what is below it, and a
transparent one leaves it. A layer is composited just if each of its pixels, laid over the one that
it lands on, is itself; one that nothing was drawn into leaves a frame alone just if there was
nothing where it lands, and is not seen in a list just if the rest of the list makes the same of
what it leaves as of what was there. -/
structure CopiesLayers (report : LogRecord → ω → ω)
    (invoke : φ → Frame → FunctorInfo → StateM ω (Frame × Completion))
    (perform : τ → StateM ω Completion) : Prop where
  pixels : ∀ q p : Pixel, (q.a = 255 → q.laidOver p = q) ∧ Pixel.transparent.laidOver p = p
  layers : ∀ {f f' : Frame} {layer : Layer} {dst : Rect} {clip : Option Rect},
    f.drawLayer layer dst clip = .ok f' →
      (Composited f layer.pixels dst clip f' ↔
        ∀ x y q p, Lands f.size f.damage layer.pixels dst clip x y q →
          f.target.pixel? x y = some p → q.laidOver p = q)
  blank : ∀ {f f' : Frame} {layer : Layer} {dst : Rect} {clip : Option Rect},
    f.drawLayer layer dst clip = .ok f' → Blank layer.pixels →
      (f'.target = f.target ↔ ∀ x y q, Lands f.size f.damage layer.pixels dst clip x y q →
        f.target.pixel? x y = some .transparent)
  lists : ∀ {registry : Registry Layer φ} {clear : Color} {size : Viewport} {before : Bitmap}
    {damage : PixelBox} {handle : LayerHandle} {pixels : Bitmap} {dst : Rect} {clip : Option Rect}
    {id id' : ListId} {first rest : List DrawItem} {f f' : Frame},
    Plain registry ⟨id, first ++ rest⟩ → HasSize before size →
    layerPixels registry handle = some pixels → Blank pixels →
    Rasterizes (host report invoke perform) registry ⟨id, first ++ rest⟩ clear before damage f →
    Rasterizes (host report invoke perform) registry
      ⟨id', first ++ ⟨.layer handle dst, clip⟩ :: rest⟩ clear before damage f' →
    (f'.target = f.target ↔ ∀ x y q, Lands size damage pixels dst clip x y q →
      rest.foldl (shade size (layerPixels registry) x y) .transparent =
        (first ++ rest).foldl (shade size (layerPixels registry) x y) clear.quantize)

/-- **Layers are copied, and composited just where that comes to the same.** -/
theorem layer_composited_iff (report : LogRecord → ω → ω)
    (invoke : φ → Frame → FunctorInfo → StateM ω (Frame × Completion))
    (perform : τ → StateM ω Completion) : CopiesLayers report invoke perform where
  pixels _ p := ⟨fun opaque' => Pixel.laidOver_of_opaque opaque' p, Pixel.transparent_laidOver p⟩
  layers drawn := drawLayer_composited_iff drawn
  blank drawn nothing := drawLayer_blank_iff drawn nothing
  lists plain fits there blank drawn drawn' :=
    blank_layer_unseen_iff plain fits there blank drawn drawn'

/-- A registry with a layer of one pixel that nothing was drawn into. -/
def oneBlank : Registry Layer Unit := Registry.empty.insertLayer ⟨1⟩ ⟨⟨.ofSize 1 1⟩, ⟨1, 1⟩⟩

/-- An opaque layer is composited, and a blank one is not seen under a cover. -/
theorem layer_composited_iff_opaque :
    (∃ f', Frame.drawLayer ⟨.ofSize 1 1, .ofSize 1 1⟩ redLayer ⟨0, 0, 1, 1⟩ none = .ok f' ∧
      Composited ⟨.ofSize 1 1, .ofSize 1 1⟩ redLayer.pixels ⟨0, 0, 1, 1⟩ none f') ∧
    ∃ f f',
      Rasterizes idleHost oneBlank ⟨⟨1⟩, [⟨.fill ⟨0, 0, 1, 1⟩ .black, none⟩]⟩ .white (.ofSize 1 1)
        (.ofSize 1 1) f ∧
      Rasterizes idleHost oneBlank
        ⟨⟨2⟩, [⟨.layer ⟨1⟩ ⟨0, 0, 1, 1⟩, none⟩, ⟨.fill ⟨0, 0, 1, 1⟩ .black, none⟩]⟩ .white
        (.ofSize 1 1) (.ofSize 1 1) f' ∧
      f'.target = f.target := by
  have corner : Rect.corner ⟨0, 0, 1, 1⟩ = (0, 0) := by decide +kernel
  have copies := layer_composited_iff (fun _ (_ : Unit) => ())
    (fun (_ : Unit) frame _ => pure (frame, .finished)) fun (_ : Unit) => pure .finished
  constructor
  · have red : ∀ p ∈ redLayer.pixels.pixels, p.a = 255 := by decide +kernel
    obtain ⟨f', drawn⟩ : ∃ f', Frame.drawLayer ⟨.ofSize 1 1, .ofSize 1 1⟩ redLayer ⟨0, 0, 1, 1⟩ none
        = .ok f' := by
      refine drawLayer_returns_iff.2 fun x y reaches => ?_
      exact not_tooFar (by simp [corner]) (by simp [corner]) reaches.covered
    refine ⟨f', drawn, (copies.layers drawn).2 fun x y q p lands _ => ?_⟩
    exact Pixel.laidOver_of_opaque (red q (Bitmap.mem_of_pixelAt? lands.2)) p
  · obtain ⟨f, drawn⟩ : ∃ f, Rasterizes idleHost oneBlank
        ⟨⟨1⟩, [⟨.fill ⟨0, 0, 1, 1⟩ .black, none⟩]⟩ .white (.ofSize 1 1) (.ofSize 1 1) f :=
      Rasterizes.of_ends "" ⟨⟨1, 1⟩, .ofSize 1 1, 0⟩ (.start .standard ())
        (by unfold Ends; decide +kernel)
    obtain ⟨f', drawn'⟩ : ∃ f', Rasterizes idleHost oneBlank
        ⟨⟨2⟩, [⟨.layer ⟨1⟩ ⟨0, 0, 1, 1⟩, none⟩, ⟨.fill ⟨0, 0, 1, 1⟩ .black, none⟩]⟩ .white
        (.ofSize 1 1) (.ofSize 1 1) f' :=
      Rasterizes.of_ends "" ⟨⟨1, 1⟩, .ofSize 1 1, 0⟩ (.start .standard ())
        (by unfold Ends; decide +kernel)
    have plain : Plain oneBlank ⟨⟨1⟩, [] ++ [⟨.fill ⟨0, 0, 1, 1⟩ .black, none⟩]⟩ := by
      intro id _
      rfl
    have blank : Blank (Bitmap.ofSize 1 1) := by
      unfold Blank
      decide
    have size : HasSize (Bitmap.ofSize 1 1) ⟨1, 1⟩ := ⟨rfl, rfl⟩
    refine ⟨f, f', drawn, drawn', (copies.lists plain size rfl blank drawn drawn').2 ?_⟩
    intro x y q lands
    -- there is only one place
    have bounds := covers_bounds lands.1.covered
    obtain rfl : x = 0 := Nat.lt_one_iff.1 bounds.1.2.2
    obtain rfl : y = 0 := Nat.lt_one_iff.1 bounds.2.2.2
    decide +kernel

/-- A thread clears a window of one pixel to white and draws items over it. -/
def drawOverWhite (items : List DrawItem) : List (Turn Surface Unit Unit) :=
  [.message ⟨1⟩ (.create false), .message ⟨1⟩ (.run (.bindSurface ⟨0, "window", false⟩)),
    .message ⟨1⟩ (.run (.setup ⟨1, 1⟩)), .message ⟨1⟩ (.run (.createLayer ⟨1, 1⟩)),
    .message ⟨1⟩ (.run (.draw ⟨⟨1⟩, ⟨.clear .white, none⟩ :: items⟩ Damage.whole.encode))].map
      (⟨0, ·⟩)

def shownOverWhite (items : List DrawItem) : Option Pixel :=
  let (_, d) := (RenderLoop.serveAll idleHost (drawOverWhite items) (.start ⟨1⟩)).runOn
    (.start .standard ())
  (d.gallery.look ⟨0, "window", false⟩).front.bind (·.pixel? 0 0)

/-- A layer that was never recorded makes a hole in a window that is white. -/
theorem blank_layer_is_seen :
    Pixel.transparent.laidOver Color.white.quantize = Color.white.quantize ∧
    shownOverWhite [] = some Color.white.quantize ∧
    shownOverWhite [⟨.layer ⟨1⟩ ⟨0, 0, 1, 1⟩, none⟩] = some .transparent ∧
    Color.white.quantize ≠ Pixel.transparent := by
  decide +kernel

end Headless

end RenderRelay
