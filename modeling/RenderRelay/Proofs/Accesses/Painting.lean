import RenderRelay.Proofs.Accesses.RawBitmap
import RenderRelay.Proofs.Gpu.Scissors
import RenderRelay.Proofs.Recovery.Loose

/-!
Operations in memory are those on bitmaps. At each pixel of an area a loop has painted those before
it (`Painted`), each index is that of a pixel that is there, and so filling and blending come to no
fault and leave the memory of the painted bitmap (`raw_fill`, `raw_blend`). Copying ends in no fault
but that of a distance too large for a source coordinate (`raw_blit`).
-/

namespace RenderRelay

namespace Bitmap

/-- Neither side is longer than an integer of thirty-two bits. -/
structure Addressable (m : Bitmap) : Prop where
  width : m.width ≤ 0xffffffff
  height : m.height ≤ 0xffffffff

theorem size_lt_addressLimit {width height : Nat} (wide : width ≤ 0xffffffff)
    (high : height ≤ 0xffffffff) : width * height < Viewport.addressLimit :=
  calc
    width * height ≤ 0xffffffff * 0xffffffff := Nat.mul_le_mul wide high
    _ < Viewport.addressLimit := by decide

theorem paint_of_none {m : Bitmap} {area : PixelBox} (apart : area.intersect m.bounds = none)
    (f : Nat → Nat → Pixel → Pixel) : m.paint area f = m := by
  obtain ⟨width, height, pixels, size_eq⟩ := m
  have apart' : area.intersect (.ofSize width height) = none := apart
  unfold paint
  simp only [apart']

variable {m : Bitmap} {area inside : PixelBox} {x y : Nat}

theorem within_of_intersect (met : area.intersect m.bounds = some inside) :
    inside.Within m.extent :=
  .of_nonempty? met (Nat.min_le_right ..) (Nat.min_le_right ..)

theorem contains_of_intersect (met : area.intersect m.bounds = some inside) (left : x < m.width)
    (above : y < m.height) : inside.contains x y = area.contains x y := by
  have common := PixelBox.any_contains_intersect area m.bounds x y
  rwa [met, Option.any_some, Bitmap.bounds_contains.2 ⟨left, above⟩, Bool.and_true] at common

end Bitmap

namespace RawBitmap

open Bitmap (index_lt)

variable {m source : Bitmap} {f : Nat → Nat → Pixel → Pixel} {part part' : Nat → Nat → Bool}
  {r : RawBitmap} {x y : Nat}

/-! ### Painting in memory -/

/-- The memory of a bitmap of which a part was painted. -/
structure Painted (m : Bitmap) (f : Nat → Nat → Pixel → Pixel) (part : Nat → Nat → Bool)
    (r : RawBitmap) : Prop where
  width : r.width = m.width
  height : r.height = m.height
  size : r.pixels.size = m.width * m.height
  pixel : ∀ x y, x < m.width → y < m.height → r.pixels[y * m.width + x]? =
    m.pixels[y * m.width + x]?.map fun p => if part x y then f x y p else p

namespace Painted

theorem start (m : Bitmap) (f : Nat → Nat → Pixel → Pixel)
    (none : ∀ x y, x < m.width → y < m.height → part x y = false) : Painted m f part m.raw := by
  refine ⟨rfl, rfl, m.size_eq, fun x y left above => ?_⟩
  simp only [none x y left above, Bool.false_eq_true, if_false, Option.map_id']
  rfl

theorem unpainted (m : Bitmap) : Painted m (fun _ _ p => p) (fun _ _ => false) m.raw :=
  start m _ fun _ _ _ _ => rfl

theorem skip (painted : Painted m f part r)
    (same : ∀ x y p, x < m.width → y < m.height → part' x y ≠ part x y → f x y p = p) :
    Painted m f part' r := by
  refine ⟨painted.width, painted.height, painted.size, fun x y left above => ?_⟩
  rw [painted.pixel x y left above]
  congr 1
  funext p
  by_cases equal : part' x y = part x y
  · rw [equal]
  · have alone := same x y p left above equal
    simp only [alone, ite_self]

theorem congr (painted : Painted m f part r) (same : ∀ x y, part' x y = part x y) :
    Painted m f part' r :=
  painted.skip fun x y _ _ _ other => absurd (same x y) other

/-- What was painted in an area is what painting the area gives. -/
theorem eq_raw {area : PixelBox} (painted : Painted m f part r)
    (all : ∀ x y, x < m.width → y < m.height → part x y = area.contains x y) :
    r = (m.paint area f).raw := by
  obtain ⟨width, height, pixels⟩ := r
  obtain ⟨rfl, rfl, size, pixel⟩ := painted
  have same : Bitmap.mk m.width m.height pixels size = m.paint area f := by
    refine Bitmap.ext_pixel ?_ fun x y => ?_
    · exact (m.extent_paint area f).symm
    · by_cases inside : x < m.width ∧ y < m.height
      · obtain ⟨left, above⟩ := inside
        have there : (Bitmap.mk m.width m.height pixels size).pixel? x y =
            pixels[y * m.width + x]? := Bitmap.pixel?_eq_getElem? _ left above
        rw [Bitmap.pixel?_paint, there, Bitmap.pixel?_eq_getElem? m left above,
          ← all x y left above]
        exact pixel x y left above
      · have outside : (Bitmap.mk m.width m.height pixels size).pixel? x y = none :=
          Bitmap.pixel?_eq_none inside
        rw [outside, Bitmap.pixel?_eq_none (by simpa using inside)]
  rw [← same]
  rfl

/-! ### Accesses -/

theorem index_eq (addressable : m.Addressable) (painted : Painted m f part r)
    (left : x < m.width) (above : y < m.height) : r.index x y = .ok (y * m.width + x) := by
  have inside := index_lt left above
  have limit := Bitmap.size_lt_addressLimit addressable.width addressable.height
  rw [m.size_eq] at inside
  have start : product y r.width = .ok (y * m.width) := by
    rw [product, painted.width, if_pos (by omega)]
  have place : sum (y * m.width) x = .ok (y * m.width + x) := by
    rw [sum, if_pos (by omega)]
  rw [index, start]
  exact place

/-- A pixel is there, and it is the bitmap's own where nothing was painted yet. -/
theorem read_eq (painted : Painted m f part r) (left : x < m.width) (above : y < m.height)
    (yet : part x y = false) :
    ∃ p, m.pixel? x y = some p ∧ r.read (y * m.width + x) = .ok p := by
  have inside := index_lt left above
  refine ⟨m.pixels[y * m.width + x], ?_, ?_⟩
  · rw [Bitmap.pixel?_eq_getElem? m left above, Array.getElem?_eq_getElem inside]
  · have there := painted.pixel x y left above
    rw [Array.getElem?_eq_getElem inside, Option.map_some, yet, if_neg Bool.false_ne_true] at there
    rw [read, there]

theorem write_eq {q : Pixel} (painted : Painted m f part r) (left : x < m.width)
    (above : y < m.height) (right : ∀ p, m.pixel? x y = some p → f x y p = q) :
    ∃ r', r.write (y * m.width + x) q = .ok r' ∧
      Painted m f (fun u v => part u v || (u = x && v = y)) r' := by
  have inside := index_lt left above
  have inside' : y * m.width + x < r.pixels.size := by
    rw [painted.size, ← m.size_eq]
    exact inside
  refine ⟨_, if_pos inside', painted.width, painted.height, ?_, fun u v left' above' => ?_⟩
  · rw [Array.size_setIfInBounds]
    exact painted.size
  · rw [Array.getElem?_setIfInBounds]
    have place := Bitmap.index_mem_row v y x left' (Nat.succ_le_of_lt left)
    by_cases here : y * m.width + x = v * m.width + u
    · obtain ⟨rfl, -, -⟩ := place.1 (by omega)
      obtain rfl : u = x := by omega
      have old := right m.pixels[v * m.width + u] (by
        rw [Bitmap.pixel?_eq_getElem? m left above, Array.getElem?_eq_getElem inside])
      rw [if_pos rfl, if_pos inside', Array.getElem?_eq_getElem inside]
      simp [old]
    · have other : (decide (u = x) && decide (v = y)) = false := by
        rw [Bool.eq_false_iff]
        intro both
        simp only [Bool.and_eq_true, decide_eq_true_eq] at both
        exact here (by rw [both.1, both.2])
      rw [if_neg here, other, Bool.or_false]
      exact painted.pixel u v left' above'

end Painted

/-! ### Progress -/

/-- The pixels of an area that come before a place, row by row. -/
def before (area : PixelBox) (x y u v : Nat) : Bool :=
  area.contains u v && (v < y || (v = y && u < x))

variable {area : PixelBox}

theorem before_start (u v : Nat) : before area area.x0 area.y0 u v = false := by
  rw [Bool.eq_false_iff]
  simp only [before, PixelBox.contains, ne_eq, Bool.and_eq_true, Bool.or_eq_true,
    decide_eq_true_eq]
  omega

theorem before_self (x y : Nat) : before area x y x y = false := by
  simp [before]

theorem before_succ (here : area.contains x y = true) (u v : Nat) :
    before area (x + 1) y u v = (before area x y u v || (u = x && v = y)) := by
  rw [Bool.eq_iff_iff]
  simp only [before, PixelBox.contains, Bool.and_eq_true, Bool.or_eq_true,
    decide_eq_true_eq] at here ⊢
  omega

theorem before_row (y u v : Nat) :
    before area area.x0 (y + 1) u v = before area area.x1 y u v := by
  rw [Bool.eq_iff_iff]
  simp only [before, PixelBox.contains, Bool.and_eq_true, Bool.or_eq_true, decide_eq_true_eq]
  omega

theorem before_row_succ (y u v : Nat) : before area area.x0 (y + 1) u v =
    (before area area.x0 y u v || decide (v = y ∧ area.contains u v = true)) := by
  rw [Bool.eq_iff_iff]
  simp only [before, PixelBox.contains, Bool.and_eq_true, Bool.or_eq_true, decide_eq_true_eq]
  omega

theorem before_end (u v : Nat) : before area area.x0 area.y1 u v = area.contains u v := by
  rw [Bool.eq_iff_iff]
  simp only [before, PixelBox.contains, Bool.and_eq_true, Bool.or_eq_true, decide_eq_true_eq]
  omega

namespace Painted

theorem put {q : Pixel} (painted : Painted m f (before area x y) r) (within : area.Within m.extent)
    (here : area.contains x y = true) (right : ∀ p, m.pixel? x y = some p → f x y p = q) :
    Yields False (Painted m f (before area (x + 1) y)) (r.write (y * m.width + x) q) := by
  obtain ⟨left, above⟩ := within.inside here
  obtain ⟨r', written, painted'⟩ := painted.write_eq left above right
  rw [written]
  exact .of_ok (painted'.congr (before_succ here))

theorem pass (painted : Painted m f (before area x y) r) (here : area.contains x y = true)
    (same : ∀ p, f x y p = p) : Painted m f (before area (x + 1) y) r := by
  refine painted.skip fun u v p _ _ more => ?_
  obtain ⟨rfl, rfl⟩ : u = x ∧ v = y := by
    by_contra other
    refine more ?_
    rw [before_succ here]
    simp [other]
  exact same p

theorem passRow (painted : Painted m f (before area area.x0 y) r) (same : ∀ x p, f x y p = p) :
    Painted m f (before area area.x0 (y + 1)) r := by
  refine painted.skip fun u v p _ _ more => ?_
  obtain rfl : v = y := by
    by_contra other
    refine more ?_
    rw [before_row_succ]
    simp [other]
  exact same u p

end Painted

theorem columns_yield {step : RawBitmap → Nat → Except Fault RawBitmap} {stop : Nat → Prop}
    (within : area.Within m.extent) (below : area.y0 ≤ y) (above : y < area.y1)
    (painted : Painted m f (before area area.x0 y) r)
    (pixel : ∀ x r, area.contains x y = true → Painted m f (before area x y) r →
      Yields (stop x) (Painted m f (before area (x + 1) y)) (step r x)) :
    Yields (∃ x, (area.x0 ≤ x ∧ x < area.x1) ∧ stop x)
      (Painted m f (before area area.x0 (y + 1))) (area.columns.foldlM step r) := by
  have last : area.x0 + area.width = area.x1 := Nat.add_sub_of_le (Nat.le_of_lt within.columns)
  have run := Yields.foldlM (P := fun x => Painted m f (before area x y)) (n := area.width)
    painted fun x r le lt =>
      pixel x r (by simp [PixelBox.contains, below, above, le, last ▸ lt])
  rw [last] at run
  exact run.imp Iff.rfl fun r painted => painted.congr (before_row y)

theorem rows_yield {step : RawBitmap → Nat → Except Fault RawBitmap} {stop : Nat → Prop}
    (within : area.Within m.extent)
    (row : ∀ y r, area.y0 ≤ y → y < area.y1 → Painted m f (before area area.x0 y) r →
      Yields (stop y) (Painted m f (before area area.x0 (y + 1))) (step r y)) :
    Yields (∃ y, (area.y0 ≤ y ∧ y < area.y1) ∧ stop y)
      (Painted m f area.contains) (area.rows.foldlM step m.raw) := by
  have last : area.y0 + area.height = area.y1 := Nat.add_sub_of_le (Nat.le_of_lt within.rows)
  have run := Yields.foldlM (P := fun y => Painted m f (before area area.x0 y))
    (n := area.height) (.start m f fun u v _ _ => before_start u v)
    fun y r le lt => row y r le (last ▸ lt)
  rw [last] at run
  exact run.imp Iff.rfl fun r painted => painted.congr fun u v => (before_end u v).symm

/-! ### Filling and blending -/

/-- Work that paints the part of an area that lies in the bitmap paints the area. -/
theorem onPart_eq {work : PixelBox → Except Fault RawBitmap}
    (paints : ∀ inside, inside.Within m.extent →
      Yields False (Painted m f inside.contains) (work inside)) :
    m.raw.onPart area work = .ok (m.paint area f).raw := by
  have bounds : m.raw.bounds = m.bounds := rfl
  unfold onPart
  rw [bounds]
  cases met : area.intersect m.bounds with
  | none =>
    rw [Bitmap.paint_of_none met]
    rfl
  | some inside =>
    obtain ⟨r, run, painted⟩ := (paints inside (Bitmap.within_of_intersect met)).ok
    have whole := painted.eq_raw fun _ _ left above => Bitmap.contains_of_intersect met left above
    rw [whole] at run
    exact run

theorem fillRow_yields {p : Pixel} (addressable : m.Addressable) (within : area.Within m.extent)
    (below : area.y0 ≤ y) (above : y < area.y1)
    (painted : Painted m (fun _ _ _ => p) (before area area.x0 y) r) :
    Yields False (Painted m (fun _ _ _ => p) (before area area.x0 (y + 1)))
      (fillRow area p r y) := by
  have columns := within.columns
  have right : area.x1 ≤ m.width := within.right
  have inside : y < m.height := Nat.lt_of_lt_of_le above within.bottom
  have size := painted.size
  have limit := Bitmap.size_lt_addressLimit addressable.width addressable.height
  have last := index_lt (x := area.x1 - 1) (by omega) inside
  rw [m.size_eq] at last
  have begins := painted.index_eq addressable (x := area.x0) (by omega) inside
  have ends : sum (y * m.width + area.x0) area.width = .ok (y * m.width + area.x1) := by
    rw [sum, PixelBox.width, show y * m.width + area.x0 + (area.x1 - area.x0) =
      y * m.width + area.x1 by omega, if_pos (by omega)]
  refine .bind begins (.bind ends ?_)
  rw [writeSlice, if_pos (by omega)]
  refine .of_ok ⟨painted.width, painted.height, ?_, fun u v left' above' => ?_⟩
  · rw [Bitmap.size_paintRow]
    exact size
  · have row := Bitmap.index_mem_row v y area.x0 left' right
    have count : y * m.width + area.x1 - (y * m.width + area.x0) = area.x1 - area.x0 := by omega
    rw [Bitmap.getElem?_paintRow, painted.pixel u v left' above', Option.map_map, count]
    congr 1
    funext q
    have here : (v = y ∧ area.contains u v = true) ↔ v = y ∧ area.x0 ≤ u ∧ u < area.x1 := by
      simp only [PixelBox.contains, Bool.and_eq_true, decide_eq_true_eq]
      omega
    simp only [Function.comp_apply, row, before_row_succ, here]
    by_cases painting : v = y ∧ area.x0 ≤ u ∧ u < area.x1 <;> simp [painting]

/-- **Filling comes to no fault**, and does what filling the bitmap does. -/
theorem raw_fill (addressable : m.Addressable) (area : PixelBox) (c : Color) :
    m.raw.fill area c = .ok (m.fill area c).raw := by
  refine onPart_eq fun inside within => ?_
  exact .never <| rows_yield within fun y r below above painted =>
    fillRow_yields addressable within below above painted

theorem blendPixel_yields (addressable : m.Addressable) (c : Color)
    (within : area.Within m.extent) (here : area.contains x y = true)
    (painted : Painted m (fun _ _ => c.overPixel) (before area x y) r) :
    Yields False (Painted m (fun _ _ => c.overPixel) (before area (x + 1) y))
      (blendPixel c y r x) := by
  obtain ⟨left, above⟩ := within.inside here
  obtain ⟨p, old, found⟩ := painted.read_eq left above (before_self x y)
  refine .bind (painted.index_eq addressable left above) (.bind found ?_)
  exact painted.put within here fun q there => by rw [Option.some.inj (there.symm.trans old)]

/-- **Blending comes to no fault**, and does what blending into the bitmap does. -/
theorem raw_blend (addressable : m.Addressable) (area : PixelBox) (c : Color) :
    m.raw.blend area c = .ok (m.blend area c).raw := by
  unfold blend
  cases shows : c.isOpaque with
  | true =>
    rw [if_pos rfl, raw_fill addressable, Bitmap.blend, if_pos shows]
  | false =>
    rw [if_neg Bool.false_ne_true, Bitmap.blend_of_not_opaque shows]
    refine onPart_eq fun inside within => ?_
    refine .never <| rows_yield within fun y r below above painted => ?_
    exact .never <| columns_yield within below above painted fun x r here painted =>
      blendPixel_yields addressable c within here painted

/-! ### Copying -/

/-- What copying a source with its corner at a place makes of a pixel. -/
def copied (source : Bitmap) (left top : Int) (x y : Nat) (p : Pixel) : Pixel :=
  (source.pixelAt? (x - left) (y - top)).getD p

variable {left top : Int}

theorem copied_outside (p : Pixel) (outside : ¬((left ≤ x ∧ x < left + source.width) ∧
    top ≤ y ∧ y < top + source.height)) : copied source left top x y p = p := by
  unfold copied Bitmap.pixelAt?
  split
  case isTrue positive =>
    rw [Bitmap.pixel?_eq_none (by omega)]
    rfl
  case isFalse => rfl

theorem copied_inside (p : Pixel) {u v : Nat} {q : Pixel} (column : (x : Int) - left = u)
    (row : (y : Int) - top = v) (there : source.pixel? u v = some q) :
    copied source left top x y p = q := by
  rw [copied, column, row, Bitmap.pixelAt?, if_pos (by omega), Int.toNat_natCast, Int.toNat_natCast,
    there]
  rfl

theorem copyPixel_yields (addressable : m.Addressable) (addressable' : source.Addressable)
    (within : area.Within m.extent) (row : top ≤ y ∧ y < top + source.height)
    (here : area.contains x y = true)
    (painted : Painted m (copied source left top) (before area x y) r) :
    Yields (Bitmap.offsetLimit ≤ x - left)
      (Painted m (copied source left top) (before area (x + 1) y))
      (copyPixel source.raw left (y - top) y r x) := by
  by_cases far : Bitmap.offsetLimit ≤ x - left
  · rw [copyPixel, distance, if_pos far]
    exact .stopped far
  · refine .bind (if_neg far) ?_
    split
    case isTrue outside =>
      have outside : (x : Int) - left < 0 ∨ source.width ≤ (x : Int) - left := outside
      exact .done far (painted.pass here fun p => copied_outside p (by omega))
    case isFalse inside =>
      have inside : ¬((x : Int) - left < 0 ∨ source.width ≤ (x : Int) - left) := inside
      obtain ⟨u, column⟩ := Int.eq_ofNat_of_zero_le (a := x - left) (by omega)
      obtain ⟨v, row'⟩ := Int.eq_ofNat_of_zero_le (a := y - top) (by omega)
      rw [column, row', Int.toNat_natCast, Int.toNat_natCast]
      have left' : u < source.width := by omega
      have above' : v < source.height := by omega
      obtain ⟨left, above⟩ := within.inside here
      obtain ⟨q, there, found⟩ := (Painted.unpainted source).read_eq left' above' rfl
      refine .bind (painted.index_eq addressable left above) <|
        .bind ((Painted.unpainted source).index_eq addressable' left' above') <| .bind found ?_
      have put := painted.put within here fun p _ => copied_inside p column row' there
      exact put.imp (by simp; omega) fun _ => id

theorem copyRow_yields (left top : Int) (addressable : m.Addressable)
    (addressable' : source.Addressable) (within : area.Within m.extent) (below : area.y0 ≤ y)
    (above : y < area.y1) (painted : Painted m (copied source left top) (before area area.x0 y) r) :
    Yields (∃ x, (area.x0 ≤ x ∧ x < area.x1) ∧ source.Strays left top x y)
      (Painted m (copied source left top) (before area area.x0 (y + 1)))
      (copyRow source.raw left top area r y) := by
  by_cases far : Bitmap.offsetLimit ≤ y - top
  · rw [copyRow, distance, if_pos far]
    exact .stopped ⟨area.x0, ⟨Nat.le_refl _, within.columns⟩, .inl far⟩
  · refine .bind (if_neg far) ?_
    split
    case isTrue outside =>
      have outside : (y : Int) - top < 0 ∨ source.height ≤ (y : Int) - top := outside
      refine .done ?_ (painted.passRow fun x p => copied_outside p (by omega))
      rintro ⟨x, -, far' | ⟨row, -⟩⟩
      · exact far far'
      · omega
    case isFalse inside =>
      have inside : ¬((y : Int) - top < 0 ∨ source.height ≤ (y : Int) - top) := inside
      have row : top ≤ y ∧ y < top + source.height := by omega
      have run := columns_yield within below above painted fun x r here painted =>
        copyPixel_yields addressable addressable' within row here painted
      exact run.imp (by simp [Bitmap.Strays, far, row]) fun _ => id

/-- **Copying comes to no fault but that of a distance that is too large**, and does what copying
into the bitmap does. -/
theorem raw_blit (addressable : m.Addressable) (addressable' : source.Addressable)
    (left top : Int) (area : PixelBox) :
    m.raw.blit source.raw left top area = (m.blit source left top area).map Bitmap.raw := by
  have bounds : m.raw.bounds = m.bounds := rfl
  unfold blit onPart Bitmap.blit
  rw [bounds]
  cases met : area.intersect m.bounds with
  | none => rfl
  | some inside =>
    have within := Bitmap.within_of_intersect met
    have strays : source.copyOverflows left top inside = true ↔ _ :=
      Bitmap.copyOverflows_iff within.isEmpty
    have run := rows_yield within fun y r below above painted =>
      copyRow_yields left top addressable addressable' within below above painted
    dsimp only
    generalize inside.rows.foldlM (copyRow source.raw left top inside) m.raw = result at run
    cases run with
    | stopped had =>
      obtain ⟨y, rows, x, columns, far⟩ := had
      rw [if_pos (strays.2 ⟨x, y, by simp [PixelBox.contains, rows, columns], far⟩)]
      rfl
    | done free painted =>
      rw [if_neg, painted.eq_raw fun _ _ _ _ => rfl]
      · rfl
      · intro strayed
        obtain ⟨x, y, reached, far⟩ := strays.1 strayed
        simp only [PixelBox.contains, Bool.and_eq_true, decide_eq_true_eq] at reached
        exact free ⟨y, by omega, x, by omega, far⟩

/-! ### Making and looking -/

theorem ofSize_eq {width height : Nat} (wide : width ≤ 0xffffffff) (high : height ≤ 0xffffffff) :
    ofSize width height = .ok (Bitmap.ofSize width height).raw := by
  rw [ofSize, product, if_pos (Bitmap.size_lt_addressLimit wide high)]
  rfl

/-- **Looking at a pixel comes to no fault**, inside and outside. -/
theorem raw_pixel (addressable : m.Addressable) (x y : Nat) :
    m.raw.pixel x y = .ok (m.pixel? x y) := by
  unfold pixel
  split
  case isTrue inside =>
    have inside : x < m.width ∧ y < m.height := inside
    obtain ⟨p, there, found⟩ := (Painted.unpainted m).read_eq inside.1 inside.2 rfl
    rw [(Painted.unpainted m).index_eq addressable inside.1 inside.2, there]
    change (m.raw.read _ >>= _) = _
    rw [found]
    rfl
  case isFalse outside =>
    rw [Bitmap.pixel?_eq_none outside]
    rfl

end RawBitmap

end RenderRelay
