import RenderRelay.Color
import RenderRelay.Geometry.Viewport

/-!
Pixel buffers. Every operation that changes pixels is a `paint`: a function of place and old pixel,
applied to the pixels of an area that lie inside the buffer.
-/

namespace RenderRelay

/-! ### Blending by table -/

/-- What laying a colour over a byte gives, for each channel and each byte. -/
structure BlendTable where
  r : Vector UInt8 256
  g : Vector UInt8 256
  b : Vector UInt8 256
  a : Vector UInt8 256

namespace BlendTable

/-- The bytes of one channel after a component was laid over them. -/
def channel (alpha top : Single) : Vector UInt8 256 :=
  .ofFn fun i => Color.quantizeChannel (Color.overChannel alpha top (Color.unitOfByte (.ofFin i)))

def ofColor (c : Color) : BlendTable :=
  ⟨channel c.a c.r, channel c.a c.g, channel c.a c.b, channel c.a c.a⟩

def look (t : Vector UInt8 256) (v : UInt8) : UInt8 := t[v.toFin]

def apply (t : BlendTable) (p : Pixel) : Pixel :=
  ⟨look t.r p.r, look t.g p.g, look t.b p.b, look t.a p.a⟩

theorem look_channel (alpha top : Single) (v : UInt8) :
    look (channel alpha top) v
      = Color.quantizeChannel (Color.overChannel alpha top (Color.unitOfByte v)) := by
  simp only [look, channel, Fin.getElem_fin, Vector.getElem_ofFn, Fin.eta]
  rfl

theorem apply_ofColor (c : Color) : (ofColor c).apply = c.overPixel := by
  funext p
  simp [apply, ofColor, look_channel, Color.overPixel, Color.laidOver, Color.ofPixel,
    Color.quantize]

end BlendTable

/-! ### Bitmaps -/

/-- A buffer of pixels, row after row. -/
structure Bitmap where
  width : Nat
  height : Nat
  pixels : Array Pixel
  size_eq : pixels.size = width * height
  deriving DecidableEq

namespace Bitmap

def ofSize (width height : Nat) : Bitmap :=
  ⟨width, height, .replicate (width * height) .transparent, by simp⟩

def empty : Bitmap := ofSize 0 0

instance : Inhabited Bitmap := ⟨empty⟩

def bounds (m : Bitmap) : PixelBox := .ofSize m.width m.height

theorem index_lt {m : Bitmap} {x y : Nat} (hx : x < m.width) (hy : y < m.height) :
    y * m.width + x < m.pixels.size := by
  rw [m.size_eq, Nat.mul_comm m.width]
  calc y * m.width + x < y * m.width + m.width := Nat.add_lt_add_left hx _
    _ = (y + 1) * m.width := (Nat.succ_mul y _).symm
    _ ≤ m.height * m.width := Nat.mul_le_mul_right _ hy

/-- The pixel at a place; none outside the buffer. -/
def pixel? (m : Bitmap) (x y : Nat) : Option Pixel :=
  if h : x < m.width ∧ y < m.height then
    have := index_lt h.1 h.2
    some m.pixels[y * m.width + x]
  else none

theorem pixel?_ofSize (width height x y : Nat) :
    (ofSize width height).pixel? x y
      = if x < width ∧ y < height then some .transparent else none := by
  simp [pixel?, ofSize]

/-! ### Painting -/

def paintRow (f : Nat → Pixel → Pixel) (start : Nat) : Nat → Array Pixel → Array Pixel
  | 0, pixels => pixels
  | columns + 1, pixels =>
    paintRow f start columns (pixels.modify (start + columns) (f columns))

/-- Changes `rows` rows of an area, `stride` pixels apart. -/
def paintRows (f : Nat → Nat → Pixel → Pixel) (stride : Nat) (area : PixelBox) :
    Nat → Array Pixel → Array Pixel
  | 0, pixels => pixels
  | rows + 1, pixels =>
    paintRows f stride area rows <|
      paintRow (fun i => f (area.x0 + i) (area.y0 + rows)) ((area.y0 + rows) * stride + area.x0)
        area.width pixels

theorem size_paintRow (f : Nat → Pixel → Pixel) (start columns : Nat) (pixels : Array Pixel) :
    (paintRow f start columns pixels).size = pixels.size := by
  induction columns generalizing pixels with
  | zero => rfl
  | succ n ih => simp [paintRow, ih]

theorem size_paintRows (f : Nat → Nat → Pixel → Pixel) (stride : Nat) (area : PixelBox)
    (rows : Nat) (pixels : Array Pixel) :
    (paintRows f stride area rows pixels).size = pixels.size := by
  induction rows generalizing pixels with
  | zero => rfl
  | succ n ih => simp [paintRows, ih, size_paintRow]

/-- Changes every pixel of the buffer that lies in `area`, as a function of its place and of what
it was. -/
def paint (m : Bitmap) (area : PixelBox) (f : Nat → Nat → Pixel → Pixel) : Bitmap :=
  match m with
  | ⟨width, height, pixels, size_eq⟩ =>
    match area.intersect (.ofSize width height) with
    | none => ⟨width, height, pixels, size_eq⟩
    | some inside =>
      ⟨width, height, paintRows f width inside inside.height pixels, by
        rw [size_paintRows, size_eq]⟩

theorem getElem?_paintRow (f : Nat → Pixel → Pixel) (start columns i : Nat)
    (pixels : Array Pixel) :
    (paintRow f start columns pixels)[i]?
      = pixels[i]?.map fun p => if start ≤ i ∧ i < start + columns then f (i - start) p else p := by
  induction columns generalizing pixels with
  | zero => simp [paintRow, show ¬(start ≤ i ∧ i < start) by omega]
  | succ n ih =>
    rw [paintRow, ih, Array.getElem?_modify]
    by_cases hi : start + n = i
    · subst hi
      rw [if_pos rfl, Option.map_map]
      congr 1
      funext p
      simp
    · rw [if_neg hi]
      congr 1
      funext p
      simp only [show (start ≤ i ∧ i < start + n) ↔ start ≤ i ∧ i < start + (n + 1) by omega]

/-- An index lies in a stretch of one row when its row is that one and its column in the stretch. -/
theorem index_mem_row {stride x right : Nat} (y row left : Nat) (hx : x < stride)
    (hr : right ≤ stride) :
    (row * stride + left ≤ y * stride + x ∧ y * stride + x < row * stride + left + (right - left))
      ↔ y = row ∧ left ≤ x ∧ x < right := by
  rcases Nat.lt_trichotomy y row with h | rfl | h
  · have := Nat.mul_le_mul_right stride (Nat.succ_le_of_lt h)
    rw [Nat.succ_mul] at this
    omega
  · omega
  · have := Nat.mul_le_mul_right stride (Nat.succ_le_of_lt h)
    rw [Nat.succ_mul] at this
    omega

theorem getElem?_paintRows (f : Nat → Nat → Pixel → Pixel) {stride : Nat} {area : PixelBox}
    (rows : Nat) {x : Nat} (y : Nat) (hx : x < stride) (ha : area.x1 ≤ stride)
    (pixels : Array Pixel) :
    (paintRows f stride area rows pixels)[y * stride + x]?
      = pixels[y * stride + x]?.map fun p =>
        if (area.x0 ≤ x ∧ x < area.x1) ∧ area.y0 ≤ y ∧ y < area.y0 + rows then f x y p else p := by
  induction rows generalizing pixels with
  | zero => simp [paintRows, show ¬(area.y0 ≤ y ∧ y < area.y0) by omega]
  | succ n ih =>
    rw [paintRows, ih, getElem?_paintRow, Option.map_map]
    congr 1
    funext p
    have hrow := index_mem_row y (area.y0 + n) area.x0 hx ha
    simp only [Function.comp_apply, PixelBox.width, hrow]
    by_cases hcol : area.x0 ≤ x ∧ x < area.x1
    · by_cases hy : y = area.y0 + n
      · subst hy
        have shift : (area.y0 + n) * stride + x - ((area.y0 + n) * stride + area.x0)
            = x - area.x0 := by omega
        simp [hcol, shift]
      · simp only [hcol, hy, true_and, false_and, if_false,
          show (area.y0 ≤ y ∧ y < area.y0 + n) ↔ area.y0 ≤ y ∧ y < area.y0 + (n + 1) by omega]
    · simp [hcol]

@[simp] theorem width_paint (m : Bitmap) (area : PixelBox) (f : Nat → Nat → Pixel → Pixel) :
    (m.paint area f).width = m.width := by
  unfold paint
  split
  split <;> rfl

@[simp] theorem height_paint (m : Bitmap) (area : PixelBox) (f : Nat → Nat → Pixel → Pixel) :
    (m.paint area f).height = m.height := by
  unfold paint
  split
  split <;> rfl

theorem pixel?_eq_getElem? (m : Bitmap) {x y : Nat} (hx : x < m.width) (hy : y < m.height) :
    m.pixel? x y = m.pixels[y * m.width + x]? := by
  rw [pixel?, dif_pos ⟨hx, hy⟩, Array.getElem?_eq_getElem (index_lt hx hy)]

theorem pixel?_paint (m : Bitmap) (area : PixelBox) (f : Nat → Nat → Pixel → Pixel) (x y : Nat) :
    (m.paint area f).pixel? x y
      = (m.pixel? x y).map fun p => if area.contains x y then f x y p else p := by
  by_cases hxy : x < m.width ∧ y < m.height
  · obtain ⟨hx, hy⟩ := hxy
    rw [pixel?_eq_getElem? _ (by simpa using hx) (by simpa using hy), pixel?_eq_getElem? m hx hy,
      width_paint]
    have hmem := PixelBox.any_contains_intersect area (.ofSize m.width m.height) x y
    have hin : (PixelBox.ofSize m.width m.height).contains x y = true := by
      simp [PixelBox.ofSize, PixelBox.contains, hx, hy]
    rw [hin, Bool.and_true] at hmem
    rw [← hmem]
    unfold paint
    cases hi : area.intersect (.ofSize m.width m.height) with
    | none => simp [hi]
    | some inside =>
      have hright : inside.x1 ≤ m.width := by
        rw [← (PixelBox.nonempty?_eq_some.1 hi).1]
        exact Nat.min_le_right ..
      simp only [hi, Option.any_some]
      rw [getElem?_paintRows f inside.height y hx hright]
      congr 1
      funext p
      simp only [PixelBox.contains, Bool.and_eq_true, decide_eq_true_eq, PixelBox.height,
        show ((inside.x0 ≤ x ∧ x < inside.x1) ∧ inside.y0 ≤ y ∧
            y < inside.y0 + (inside.y1 - inside.y0)) ↔
          ((inside.x0 ≤ x ∧ x < inside.x1) ∧ inside.y0 ≤ y) ∧ y < inside.y1 by omega]
  · rw [pixel?, dif_neg (by simpa using hxy), pixel?, dif_neg hxy]
    rfl

def fill (m : Bitmap) (area : PixelBox) (c : Color) : Bitmap :=
  let p := c.quantize
  m.paint area fun _ _ _ => p

theorem pixel?_fill (m : Bitmap) (area : PixelBox) (c : Color) (x y : Nat) :
    (m.fill area c).pixel? x y
      = (m.pixel? x y).map fun p => if area.contains x y then c.quantize else p :=
  pixel?_paint m area _ x y

/-- From this many pixels on a table is cheaper than blending each pixel by itself. -/
def tableThreshold : Nat := 600

/-- Lays a colour over the pixels of an area. -/
def blend (m : Bitmap) (area : PixelBox) (c : Color) : Bitmap :=
  if c.isOpaque then m.fill area c
  else if min (area.width * area.height) m.pixels.size < tableThreshold then
    m.paint area fun _ _ => c.overPixel
  else
    let table := BlendTable.ofColor c
    m.paint area fun _ _ => table.apply

theorem blend_of_not_opaque {c : Color} (h : c.isOpaque = false) (m : Bitmap) (area : PixelBox) :
    m.blend area c = m.paint area fun _ _ => c.overPixel := by
  simp [blend, h, BlendTable.apply_ofColor]

/-! ### Copying -/

/-- The pixel at a place with a sign; none outside the buffer. -/
def pixelAt? (m : Bitmap) (x y : Int) : Option Pixel :=
  if 0 ≤ x ∧ 0 ≤ y then m.pixel? x.toNat y.toNat else none

/-- The first distance that is too large for a source coordinate. -/
def offsetLimit : Int := 0x8000000000000000

/-- Whether copying into `area` reaches a pixel whose distance from the source's corner is too
large. The rows are looked at first, and the columns only of rows that the source has. -/
def copyOverflows (source : Bitmap) (left top : Int) (area : PixelBox) : Bool :=
  offsetLimit ≤ area.y1 - 1 - top ||
    (max (area.y0 : Int) top < min (area.y1 : Int) (top + source.height) &&
      offsetLimit ≤ area.x1 - 1 - left)

/-- Copies `source`, its corner at `(left, top)`, into the pixels of an area. -/
def blit (m source : Bitmap) (left top : Int) (area : PixelBox) : Except Fault Bitmap :=
  match area.intersect m.bounds with
  | none => .ok m
  | some inside =>
    if copyOverflows source left top inside then .error .subtractOverflow
    else .ok <| m.paint inside fun x y p => (source.pixelAt? (x - left) (y - top)).getD p

end Bitmap

end RenderRelay
