import RenderRelay.Fault

/-!
Sizes of rendering targets and axis-parallel boxes of whole pixels.
-/

namespace RenderRelay

/-- The size of a rendering target, in pixels. -/
structure Viewport where
  width : Nat
  height : Nat
  deriving DecidableEq, Inhabited

namespace Viewport

def isEmpty (v : Viewport) : Bool := v.width = 0 || v.height = 0

/-- The first byte count that does not fit the address space. -/
def addressLimit : Nat := 0x10000000000000000

/-- The bytes of a buffer of this size, four to a pixel. Multiplying past the address space is a
fault. -/
def bufferBytes (v : Viewport) : Except Fault Nat :=
  if v.width * v.height * 4 < addressLimit then .ok (v.width * v.height * 4)
  else .error .multiplyOverflow

end Viewport

/-- The pixels `(x, y)` with `x0 ≤ x < x1` and `y0 ≤ y < y1`. -/
structure PixelBox where
  x0 : Nat
  y0 : Nat
  x1 : Nat
  y1 : Nat
  deriving DecidableEq, Inhabited

namespace PixelBox

def ofSize (width height : Nat) : PixelBox := ⟨0, 0, width, height⟩

def isEmpty (b : PixelBox) : Bool := b.x1 ≤ b.x0 || b.y1 ≤ b.y0

def width (b : PixelBox) : Nat := b.x1 - b.x0

def height (b : PixelBox) : Nat := b.y1 - b.y0

def contains (b : PixelBox) (x y : Nat) : Bool :=
  b.x0 ≤ x && x < b.x1 && b.y0 ≤ y && y < b.y1

def nonempty? (b : PixelBox) : Option PixelBox := if b.isEmpty then none else some b

/-- The pixels of both boxes, if there are any. -/
def intersect (a b : PixelBox) : Option PixelBox :=
  nonempty? ⟨max a.x0 b.x0, max a.y0 b.y0, min a.x1 b.x1, min a.y1 b.y1⟩

theorem nonempty?_eq_some {a b : PixelBox} :
    a.nonempty? = some b ↔ a = b ∧ a.isEmpty = false := by
  unfold nonempty?
  cases a.isEmpty <;> simp

/-- A box that is kept contains what it contained, and one that is dropped contained nothing. -/
theorem any_contains_nonempty? (b : PixelBox) (x y : Nat) :
    b.nonempty?.any (·.contains x y) = b.contains x y := by
  unfold nonempty?
  split
  · simp_all only [isEmpty, contains, Bool.or_eq_true, decide_eq_true_eq, Option.any_none,
      Bool.false_eq, Bool.and_eq_false_iff, decide_eq_false_iff_not]
    omega
  · rfl

/-- A pixel lies in the common part of two boxes when it lies in both. -/
theorem any_contains_intersect (a b : PixelBox) (x y : Nat) :
    (a.intersect b).any (·.contains x y) = (a.contains x y && b.contains x y) := by
  rw [intersect, any_contains_nonempty?, Bool.eq_iff_iff]
  simp only [contains, Bool.and_eq_true, decide_eq_true_eq]
  omega

end PixelBox

end RenderRelay
