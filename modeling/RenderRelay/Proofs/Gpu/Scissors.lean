import RenderRelay.Gpu.Scissor
import RenderRelay.Proofs.Repaint.Shade
import RenderRelay.Proofs.Rounding

/-!
Clipping on both sides. A scissor box and the area that a frame's clip leaves are made of the same
coverage, so under a clip they are the same pixels. Without a clip the frame keeps its whole damage,
as counts of pixels, while the scissor box goes by the viewport as a rectangle: its sides are
numbers of twenty-four bits, and a side that is rounded down to one loses the pixels beyond
(`scissor_eq_clipArea_iff`).
-/

namespace RenderRelay

/-! ### Boxes within a size -/

namespace PixelBox

/-- A box inside a target, with a column and a row. -/
structure Within (size : Viewport) (b : PixelBox) : Prop where
  columns : b.x0 < b.x1
  right : b.x1 ≤ size.width
  rows : b.y0 < b.y1
  bottom : b.y1 ≤ size.height

theorem Within.isEmpty {size : Viewport} {b : PixelBox} (within : b.Within size) :
    b.isEmpty = false := by
  have columns := within.columns
  have rows := within.rows
  simp only [PixelBox.isEmpty, Bool.or_eq_false_iff, decide_eq_false_iff_not]
  omega

/-- A box that is kept lies inside a target that it does not stick out of. -/
theorem Within.of_nonempty? {size : Viewport} {b box : PixelBox} (kept : b.nonempty? = some box)
    (right : b.x1 ≤ size.width) (bottom : b.y1 ≤ size.height) : box.Within size := by
  obtain ⟨rfl, full⟩ := nonempty?_eq_some.1 kept
  simp only [PixelBox.isEmpty, Bool.or_eq_false_iff, decide_eq_false_iff_not, Nat.not_le] at full
  exact ⟨full.1, right, full.2, bottom⟩

/-- A box inside a target is what it has in common with all pixels of the target. -/
theorem Within.intersect_ofSize {size : Viewport} {b : PixelBox} (within : b.Within size) :
    b.intersect (.ofSize size.width size.height) = some b := by
  rw [intersect, ofSize]
  simp only [Nat.max_zero, Nat.min_eq_left within.right, Nat.min_eq_left within.bottom]
  exact nonempty?_eq_some.2 ⟨rfl, within.isEmpty⟩

/-- A pixel of a box inside a target is one of the target. -/
theorem Within.inside {size : Viewport} {b : PixelBox} (within : b.Within size) {x y : Nat}
    (here : b.contains x y = true) : x < size.width ∧ y < size.height := by
  simp only [contains, Bool.and_eq_true, decide_eq_true_eq] at here
  exact ⟨Nat.lt_of_lt_of_le here.1.1.2 within.right, Nat.lt_of_lt_of_le here.2 within.bottom⟩

end PixelBox

namespace Rect

theorem coverage_within {r : Rect} {size : Viewport} {box : PixelBox}
    (covered : r.coverage size.width size.height = some box) : box.Within size := by
  unfold coverage at covered
  split at covered
  · exact .of_nonempty? covered (snap_le ..) (snap_le ..)
  · cases covered

end Rect

namespace Gpu

open Headless (Frame)

/-! ### Without a clip -/

theorem snap_viewportRect {n : Nat} (bounded : n ≤ 0xffffffff) :
    Rect.snap n (0 + .ofNat n) = min (roundQuotient n 1) n := by
  rw [Rect.snap_congr (Single.value_zero_add Single.value_zero _),
    Rect.snap_ofNat bounded bounded]

theorem normalized_viewportRect {v : Viewport} (width : v.width ≤ 0xffffffff)
    (height : v.height ≤ 0xffffffff) : (viewportRect v).normalized = viewportRect v := by
  have natural {n : Nat} (bounded : n ≤ 0xffffffff) : (Single.ofNat n).lt 0 = false := by
    have atLeast : ¬((roundQuotient n 1 * Single.oneUnits : Nat) : Int) < 0 :=
      Int.not_lt.2 (Int.natCast_nonneg _)
    rw [Bool.eq_false_iff]
    exact fun less =>
      atLeast ((Single.lt_iff (Single.value_ofNat bounded) Single.value_zero).1 less)
  exact Rect.normalized_of_not_lt (natural width) (natural height)

theorem isFinite_viewportRect {v : Viewport} (width : v.width ≤ 0xffffffff)
    (height : v.height ≤ 0xffffffff) : (viewportRect v).isFinite = true := by
  have finite {n : Nat} (bounded : n ≤ 0xffffffff) : (Single.ofNat n).isFinite = true :=
    Single.isFinite_iff.2 ⟨_, Single.value_ofNat bounded, Single.rounded_lt_overflowUnits bounded⟩
  have zero : (0 : Single).isFinite = true := finite (by decide)
  simp only [Rect.isFinite, viewportRect, zero, finite width, finite height, Bool.and_self]

theorem roundQuotient_pos {n : Nat} (positive : 0 < n) : 0 < roundQuotient n 1 :=
  calc
    0 < roundQuotient 1 1 := by decide
    _ ≤ roundQuotient n 1 := roundQuotient_mono positive

/-- **Without a clip the box ends where the sides are rounded to**, inside the viewport. -/
theorem scissor_none {v : Viewport} (some : v.isEmpty = false) (width : v.width ≤ 0xffffffff)
    (height : v.height ≤ 0xffffffff) :
    scissor none v = .some ⟨0, 0, min (roundQuotient v.width 1) v.width,
      min (roundQuotient v.height 1) v.height⟩ := by
  have origin (limit : Nat) : Rect.snap limit 0 = 0 := by
    rw [Rect.snap_eq, show (0 : Single).whole = 0 by decide]
    omega
  simp only [Viewport.isEmpty, Bool.or_eq_false_iff, decide_eq_false_iff_not] at some
  have columns := roundQuotient_pos (Nat.pos_of_ne_zero some.1)
  have rows := roundQuotient_pos (Nat.pos_of_ne_zero some.2)
  rw [scissor, Option.getD_none, Rect.coverage, if_pos (isFinite_viewportRect width height)]
  simp only [normalized_viewportRect width height]
  refine PixelBox.nonempty?_eq_some.2 ⟨?_, ?_⟩
  · simp only [viewportRect, Rect.right, Rect.bottom, origin, snap_viewportRect width,
      snap_viewportRect height]
  · simp only [viewportRect, Rect.right, Rect.bottom, origin, snap_viewportRect width,
      snap_viewportRect height, PixelBox.isEmpty, Bool.or_eq_false_iff, decide_eq_false_iff_not]
    omega

/-- Every box that is given to a pass lies in its viewport and has a column and a row. -/
theorem scissor_within {clip : Option Rect} {v : Viewport} {box : PixelBox}
    (drawn : scissor clip v = some box) : box.Within v :=
  Rect.coverage_within drawn

/-! ### Scissor boxes and clip areas -/

/-- Under a clip, a frame that is all damaged changes the pixels of the scissor box. -/
theorem scissor_some {f : Frame} (whole : f.damage = f.target.bounds) (clip : Rect) :
    scissor (some clip) f.size = f.clipArea (some clip) := by
  change clip.coverage f.size.width f.size.height =
    (clip.coverage f.size.width f.size.height).bind (·.intersect f.damage)
  cases covered : clip.coverage f.size.width f.size.height with
  | none => rfl
  | some box =>
    rw [Option.bind_some, whole]
    exact (Rect.coverage_within covered).intersect_ofSize.symm

/-- **The scissor box is the clip's area, unless there is no clip and a side is rounded down.** A
box is there whenever an area is; it lies in the viewport, and without a clip it ends where the
rounded sides end, if not before. -/
theorem scissor_eq_clipArea_iff (f : Frame) (clip : Option Rect)
    (whole : f.damage = f.target.bounds) (some : f.size.isEmpty = false)
    (width : f.size.width ≤ 0xffffffff) (height : f.size.height ≤ 0xffffffff) :
    (scissor clip f.size = f.clipArea clip ↔
      (clip = none → f.size.width ≤ roundQuotient f.size.width 1 ∧
        f.size.height ≤ roundQuotient f.size.height 1)) ∧
    (scissor clip f.size).isSome = (f.clipArea clip).isSome ∧
    (∀ box, scissor clip f.size = .some box → box.Within f.size) ∧
    (clip = none → scissor clip f.size =
      .some ⟨0, 0, min (roundQuotient f.size.width 1) f.size.width,
        min (roundQuotient f.size.height 1) f.size.height⟩) := by
  cases clip with
  | some rect =>
    have same := scissor_some whole rect
    exact ⟨by simp [same], congrArg Option.isSome same, fun _ => scissor_within, by simp⟩
  | none =>
    have box := scissor_none some width height
    have area : f.clipArea none = .some ⟨0, 0, f.size.width, f.size.height⟩ :=
      congrArg Option.some whole
    refine ⟨?_, ?_, fun _ => scissor_within, fun _ => box⟩
    · rw [box, area]
      simp only [Option.some.injEq, PixelBox.mk.injEq, true_and, forall_const]
      omega
    · rw [box, area]
      rfl

def oneRow (columns : Nat) : Frame := ⟨.ofSize columns 1, .ofSize columns 1⟩

theorem scissor_oneRow_three : scissor none (oneRow 3).size = (oneRow 3).clipArea none :=
  (scissor_eq_clipArea_iff (oneRow 3) none rfl (by decide) (by decide) (by decide)).1.2
    fun _ => by decide

/-- The first side that is rounded down. -/
theorem scissor_oneRow_succ_two_pow :
    scissor none (oneRow 0x1000001).size = some ⟨0, 0, 0x1000000, 1⟩ ∧
      (oneRow 0x1000001).clipArea none = some ⟨0, 0, 0x1000001, 1⟩ :=
  ⟨by decide +kernel, rfl⟩

theorem scissor_eq_clipArea_of_le {f : Frame} (clip : Option Rect)
    (whole : f.damage = f.target.bounds) (some : f.size.isEmpty = false)
    (width : f.size.width ≤ 0x1000000) (height : f.size.height ≤ 0x1000000) :
    scissor clip f.size = f.clipArea clip := by
  cases clip with
  | some rect => exact scissor_some whole rect
  | none =>
    rw [scissor_none some (by omega) (by omega), roundQuotient_of_le width,
      roundQuotient_of_le height, Nat.min_self, Nat.min_self]
    exact congrArg Option.some whole.symm

end Gpu

end RenderRelay
