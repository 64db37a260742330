import Mathlib.Algebra.Order.Ring.Int
import RenderRelay.Proofs.Recording.Nesting
import RenderRelay.Proofs.Repaint.Shade
import RenderRelay.Proofs.Rounding

/-!
Whether clips shrink. A clip that is opened inside another one is kept as a corner and extents, and
its far edges are made of them again by sums that are rounded, so that an edge can come to lie
beyond where both rectangles end; and a far edge that is undefined or infinite does not count in the
common part at all, though a rectangle with one covers no pixel. `nested_clips_shrink_iff` says just
when that does no harm, and that then, at any depth, no operation changes a pixel outside an open
clip. It never does where all edges are whole numbers.
-/

namespace RenderRelay

namespace Single

theorem neg_not_negative {a : Single} (negative : a.lt 0 = true) : (-a).lt 0 = false := by
  rw [lt, value_zero] at negative
  rw [lt, value_neg, value_zero]
  cases place : a.value with
  | none => rfl
  | some u =>
    simp only [place, decide_eq_true_eq, Option.map_some, decide_eq_false_iff_not] at negative ⊢
    omega

end Single

/-! ### Coverage -/

namespace Rect

theorem normalizedSide_normalizedSide (start extent : Single) :
    normalizedSide (normalizedSide start extent).1 (normalizedSide start extent).2 =
      normalizedSide start extent := by
  by_cases negative : extent.lt 0
  · simp only [normalizedSide, negative, if_true, Single.neg_not_negative negative,
      Bool.false_eq_true, if_false]
  · simp only [normalizedSide, negative, Bool.false_eq_true, if_false]

theorem normalized_normalized (r : Rect) : r.normalized.normalized = r.normalized := by
  simp only [normalized, normalizedSide_normalizedSide]

theorem normalized_eq_self {r : Rect} (extended : r.isEmpty = false) : r.normalized = r := by
  have notNegative {extent : Single} (positive : extent.le 0 = false) : extent.lt 0 = false := by
    rw [Bool.eq_false_iff] at positive ⊢
    exact fun less => positive (Single.le_of_lt less)
  rw [isEmpty, Bool.or_eq_false_iff] at extended
  exact normalized_of_not_lt (notNegative extended.1) (notNegative extended.2)

theorem isFinite_normalizedSide {start extent : Single} (bounded :
    ((normalizedSide start extent).1.isFinite && (normalizedSide start extent).2.isFinite) = true) :
    (start.isFinite && extent.isFinite) = true := by
  unfold normalizedSide at bounded
  split at bounded
  · rw [Single.isFinite_neg, Bool.and_eq_true] at bounded
    rw [Bool.and_eq_true]
    exact ⟨Single.isFinite_of_add bounded.2 bounded.1, bounded.2⟩
  · exact bounded

theorem isFinite_of_normalized {r : Rect} (bounded : r.normalized.isFinite = true) :
    r.isFinite = true := by
  have horizontal := @isFinite_normalizedSide r.x r.width
  have vertical := @isFinite_normalizedSide r.y r.height
  simp only [isFinite, normalized, Bool.and_eq_true] at bounded horizontal vertical ⊢
  exact ⟨⟨⟨(horizontal ⟨bounded.1.1.1, bounded.1.2⟩).1, (vertical ⟨bounded.1.1.2, bounded.2⟩).1⟩,
    (horizontal ⟨bounded.1.1.1, bounded.1.2⟩).2⟩, (vertical ⟨bounded.1.1.2, bounded.2⟩).2⟩

/-- The far edges of a finite rectangle are numbers, though they may be infinite. -/
theorem isSome_value_far {r : Rect} (bounded : r.isFinite = true) :
    r.normalized.right.value.isSome = true ∧ r.normalized.bottom.value.isSome = true := by
  have side {start extent : Single} (start' : start.isFinite = true)
      (extent' : extent.isFinite = true) :
      ((normalizedSide start extent).1 + (normalizedSide start extent).2).value.isSome = true := by
    have number : start.value.isSome = true := by
      obtain ⟨v, place, -⟩ := Single.isFinite_iff.1 start'
      rw [place]
      rfl
    unfold normalizedSide
    split
    · refine Single.isSome_value_add (Single.isSome_value_add number extent') ?_
      rwa [Single.isFinite_neg]
    · exact Single.isSome_value_add number extent'
  simp only [isFinite, Bool.and_eq_true] at bounded
  exact ⟨side bounded.1.1.1 bounded.1.2, side bounded.1.1.2 bounded.2⟩

end Rect

namespace Headless

theorem covers_iff {size : Viewport} {rect : Rect} {x y : Nat} :
    covers size rect x y = true ↔ rect.isFinite = true ∧
      (Rect.snap size.width rect.normalized.x ≤ x ∧
        x < Rect.snap size.width rect.normalized.right) ∧
      Rect.snap size.height rect.normalized.y ≤ y ∧
      y < Rect.snap size.height rect.normalized.bottom := by
  unfold covers Rect.coverage
  split
  case isTrue bounded =>
    rw [PixelBox.any_contains_nonempty?]
    simp only [PixelBox.contains, Bool.and_eq_true, decide_eq_true_eq, bounded, true_and, and_assoc]
  case isFalse unbounded => simp [unbounded]

theorem inside_of_covers {size : Viewport} {rect : Rect} {x y : Nat}
    (covered : covers size rect x y = true) : x < size.width ∧ y < size.height := by
  obtain ⟨-, ⟨-, right⟩, -, bottom⟩ := covers_iff.1 covered
  exact ⟨Nat.lt_of_lt_of_le right (Rect.snap_le ..), Nat.lt_of_lt_of_le bottom (Rect.snap_le ..)⟩

/-- A rectangle covers its first and its last pixel, if it covers any. -/
theorem covers_corners {size : Viewport} {rect : Rect} {x y : Nat}
    (covered : covers size rect x y = true) :
    covers size rect (Rect.snap size.width rect.normalized.x)
        (Rect.snap size.height rect.normalized.y) = true ∧
      covers size rect (Rect.snap size.width rect.normalized.right - 1)
        (Rect.snap size.height rect.normalized.bottom - 1) = true := by
  obtain ⟨bounded, spans⟩ := covers_iff.1 covered
  exact ⟨covers_iff.2 ⟨bounded, by omega⟩, covers_iff.2 ⟨bounded, by omega⟩⟩

theorem covers_normalized {size : Viewport} {rect : Rect} {x y : Nat}
    (covered : covers size rect.normalized x y = true) : covers size rect x y = true := by
  rw [covers_iff, Rect.normalized_normalized] at covered
  exact covers_iff.2 ⟨Rect.isFinite_of_normalized covered.1, covered.2⟩

theorem not_covers_zero (size : Viewport) (x y : Nat) : covers size .zero x y = false := by
  have empty : Rect.zero.normalized.right = Rect.zero.normalized.x := by decide +kernel
  rw [Bool.eq_false_iff]
  intro covered
  obtain ⟨-, ⟨left, right⟩, -⟩ := covers_iff.1 covered
  rw [empty] at right
  omega

end Headless

namespace Recorder

open Headless (covers clipCovers covers_iff)

/-! ### One clip inside another -/

/-- What a clip leaves of a rectangle has the near edges of both, unless nothing is left. -/
theorem within_cases (around rect : Rect) :
    within around rect = .zero ∨
      (within around rect).normalized = within around rect ∧
        (within around rect).x = around.normalized.x.max rect.normalized.x ∧
        (within around rect).y = around.normalized.y.max rect.normalized.y ∧
        (within around rect).width = around.normalized.right.min rect.normalized.right -
          around.normalized.x.max rect.normalized.x ∧
        (within around rect).height = around.normalized.bottom.min rect.normalized.bottom -
          around.normalized.y.max rect.normalized.y := by
  unfold within Rect.intersect
  simp only
  split
  · exact .inl rfl
  · next extended =>
    exact .inr ⟨Rect.normalized_eq_self (Bool.eq_false_iff.2 extended), rfl, rfl, rfl, rfl⟩

/-- Every pixel of the clip lies in the target, was left by the clip before, and is covered by the
rectangle. -/
def Shrinks (size : Viewport) (before : Option Rect) (rect after : Rect) : Prop :=
  ∀ x y, covers size after x y = true →
    (x < size.width ∧ y < size.height) ∧ clipCovers size before x y = true ∧
      covers size rect x y = true

/-- What a clip leaves of a rectangle covers no pixel, or else both are finite and its far edges are
not snapped beyond the nearer ones of theirs. -/
def Undistorted (size : Viewport) : Option Rect → Rect → Prop
  | none, _ => True
  | some around, rect =>
    (∀ x y, covers size (within around rect) x y = false) ∨
      around.isFinite = true ∧ rect.isFinite = true ∧
        Rect.snap size.width (within around rect).right ≤
          Rect.snap size.width (around.normalized.right.min rect.normalized.right) ∧
        Rect.snap size.height (within around rect).bottom ≤
          Rect.snap size.height (around.normalized.bottom.min rect.normalized.bottom)

theorem shrinks_within_iff (size : Viewport) (around rect : Rect) :
    Shrinks size (some around) rect (within around rect) ↔ Undistorted size (some around) rect := by
  -- the far edges of two finite rectangles
  have far (aroundFinite : around.isFinite = true) (rectFinite : rect.isFinite = true) :
      Rect.snap size.width (around.normalized.right.min rect.normalized.right) =
          min (Rect.snap size.width around.normalized.right)
            (Rect.snap size.width rect.normalized.right) ∧
        Rect.snap size.height (around.normalized.bottom.min rect.normalized.bottom) =
          min (Rect.snap size.height around.normalized.bottom)
            (Rect.snap size.height rect.normalized.bottom) :=
    ⟨Rect.snap_min (Rect.isSome_value_far aroundFinite).1 (Rect.isSome_value_far rectFinite).1 _,
      Rect.snap_min (Rect.isSome_value_far aroundFinite).2 (Rect.isSome_value_far rectFinite).2 _⟩
  rcases within_cases around rect with none | ⟨same, left, top, -⟩
  · have blank (x y : Nat) : covers size (within around rect) x y = false := by
      rw [none]
      exact Headless.not_covers_zero size x y
    exact ⟨fun _ => .inl blank, fun _ x y covered => by simp [blank] at covered⟩
  constructor
  · intro shrinks
    by_cases blank : ∀ x y, covers size (within around rect) x y = false
    · exact .inl blank
    · simp only [not_forall, Bool.not_eq_false] at blank
      obtain ⟨x, y, covered⟩ := blank
      have last := (Headless.covers_corners covered).2
      obtain ⟨-, ⟨-, positiveX⟩, -, positiveY⟩ := covers_iff.1 covered
      obtain ⟨-, kept, inRect⟩ := shrinks _ _ last
      obtain ⟨aroundFinite, ⟨-, right⟩, -, bottom⟩ := covers_iff.1 kept
      obtain ⟨rectFinite, ⟨-, right'⟩, -, bottom'⟩ := covers_iff.1 inRect
      obtain ⟨farX, farY⟩ := far aroundFinite rectFinite
      rw [same] at positiveX positiveY right right' bottom bottom'
      exact .inr ⟨aroundFinite, rectFinite, by omega, by omega⟩
  · rintro (blank | ⟨aroundFinite, rectFinite, right, bottom⟩) x y covered
    · simp [blank] at covered
    · obtain ⟨farX, farY⟩ := far aroundFinite rectFinite
      have inside := Headless.inside_of_covers covered
      obtain ⟨-, ⟨fromX, belowX⟩, fromY, belowY⟩ := covers_iff.1 covered
      rw [same] at fromX belowX fromY belowY
      rw [left, Rect.snap_max] at fromX
      rw [top, Rect.snap_max] at fromY
      refine ⟨inside, covers_iff.2 ⟨aroundFinite, ?_⟩, covers_iff.2 ⟨rectFinite, ?_⟩⟩ <;> omega

theorem shrinks_iff (size : Viewport) (clips : List Rect) (rect : Rect) :
    Shrinks size clips.head? rect (nestedClip clips rect) ↔ Undistorted size clips.head? rect := by
  cases clips with
  | nil =>
    refine ⟨fun _ => trivial, fun _ x y covered => ⟨Headless.inside_of_covers covered, rfl, ?_⟩⟩
    exact Headless.covers_normalized covered
  | cons around clips => exact shrinks_within_iff size around rect

/-! ### Whole numbers -/

/-- A side that starts at one whole number and ends at another, neither of them beyond `2 ^ 23`. -/
structure WholeSide (start extent : Single) (first last : Int) : Prop where
  start : start.value = some (first * Single.oneUnits)
  extent : extent.value = some ((last - first) * Single.oneUnits)
  near : first.natAbs ≤ 0x800000 ∧ last.natAbs ≤ 0x800000

def IsWhole (r : Rect) : Prop :=
  (∃ first last, WholeSide r.x r.width first last) ∧ ∃ first last, WholeSide r.y r.height first last

theorem isMagnitude_whole {k : Int} (near : k.natAbs ≤ 0x1000000) :
    IsMagnitude (k * Single.oneUnits).natAbs := by
  have scaled : (k * Single.oneUnits).natAbs = k.natAbs <<< 149 := by
    rw [Int.natAbs_mul, Int.natAbs_natCast, Single.oneUnits, Nat.shiftLeft_eq, Nat.shiftLeft_eq,
      Nat.one_mul]
  rw [scaled]
  refine ⟨one_shiftLeft_dvd_scaled 149 near, ?_⟩
  calc
    k.natAbs <<< 149 ≤ 0x1000000 <<< 149 := by
      rw [Nat.shiftLeft_eq, Nat.shiftLeft_eq]
      exact Nat.mul_le_mul_right _ near
    _ < overflowUnits := by decide

theorem value_add_whole {a b : Single} {k l : Int} (hk : a.value = some (k * Single.oneUnits))
    (hl : b.value = some (l * Single.oneUnits)) (nearA : k.natAbs ≤ 0x1000000)
    (nearB : l.natAbs ≤ 0x1000000) (nearSum : (k + l).natAbs ≤ 0x1000000) :
    (a + b).value = some ((k + l) * Single.oneUnits) := by
  have finiteA := Single.isFinite_iff.2 ⟨_, hk, (isMagnitude_whole nearA).2⟩
  have finiteB := Single.isFinite_iff.2 ⟨_, hl, (isMagnitude_whole nearB).2⟩
  rw [Single.value_add finiteA finiteB hk hl, ← Int.add_mul,
    Single.nearest_eq_self (isMagnitude_whole nearSum)]

namespace WholeSide

variable {start extent start' extent' : Single} {first last first' last' : Int}

theorem isFinite (side : WholeSide start extent first last) :
    start.isFinite = true ∧ extent.isFinite = true := by
  have near := side.near
  exact ⟨Single.isFinite_iff.2 ⟨_, side.start, (isMagnitude_whole (by omega)).2⟩,
    Single.isFinite_iff.2 ⟨_, side.extent, (isMagnitude_whole (by omega)).2⟩⟩

theorem far (side : WholeSide start extent first last) :
    (start + extent).value = some (last * Single.oneUnits) := by
  have near := side.near
  rw [value_add_whole side.start side.extent (by omega) (by omega) (by omega)]
  congr 2
  omega

theorem normalized (side : WholeSide start extent first last) :
    WholeSide (Rect.normalizedSide start extent).1 (Rect.normalizedSide start extent).2
      (min first last) (max first last) := by
  have positive : (0 : Int) < Single.oneUnits := by decide
  have negative : extent.lt 0 = true ↔ last - first < 0 := by
    rw [Single.lt_iff side.extent Single.value_zero]
    refine ⟨fun less => ?_, fun less => Int.mul_neg_of_neg_of_pos less positive⟩
    exact Int.not_le.1 fun le => Int.not_le.2 less (Int.mul_nonneg le (Int.le_of_lt positive))
  unfold Rect.normalizedSide
  split
  case isTrue less =>
    have backwards := negative.1 less
    rw [Int.min_eq_right (by omega), Int.max_eq_left (by omega)]
    refine ⟨side.far, ?_, side.near.symm⟩
    rw [Single.value_neg, side.extent, Option.map_some, ← Int.neg_mul, Int.neg_sub]
  case isFalse atLeast =>
    have forwards := mt negative.2 atLeast
    rw [Int.min_eq_left (by omega), Int.max_eq_right (by omega)]
    exact side

theorem nearer (side : WholeSide start extent first last)
    (side' : WholeSide start' extent' first' last') :
    (start.max start').value = some (max first first' * Single.oneUnits) := by
  rw [Single.value_max side.start side'.start, max_mul_of_nonneg _ _ (Int.natCast_nonneg _)]

theorem farther (side : WholeSide start extent first last)
    (side' : WholeSide start' extent' first' last') :
    ((start + extent).min (start' + extent')).value = some (min last last' * Single.oneUnits) := by
  rw [Single.value_min side.far side'.far, min_mul_of_nonneg _ _ (Int.natCast_nonneg _)]

theorem common (side : WholeSide start extent first last)
    (side' : WholeSide start' extent' first' last') :
    WholeSide (start.max start') ((start + extent).min (start' + extent') - start.max start')
      (max first first') (min last last') := by
  have near := side.near
  have near' := side'.near
  refine ⟨side.nearer side', ?_, by omega⟩
  have back : (-start.max start').value = some (-max first first' * Single.oneUnits) := by
    rw [Single.value_neg, side.nearer side', Option.map_some, Int.neg_mul]
  change ((start + extent).min (start' + extent') + -start.max start').value = _
  rw [value_add_whole (side.farther side') back (by omega) (by omega) (by omega),
    Int.sub_eq_add_neg]

theorem common_far (side : WholeSide start extent first last)
    (side' : WholeSide start' extent' first' last') :
    (start.max start' + ((start + extent).min (start' + extent') - start.max start')).value =
      ((start + extent).min (start' + extent')).value := by
  rw [(side.common side').far, side.farther side']

end WholeSide

theorem IsWhole.normalized {r : Rect} (whole : IsWhole r) : IsWhole r.normalized := by
  obtain ⟨⟨_, _, horizontal⟩, _, _, vertical⟩ := whole
  exact ⟨⟨_, _, horizontal.normalized⟩, _, _, vertical.normalized⟩

theorem IsWhole.isFinite {r : Rect} (whole : IsWhole r) : r.isFinite = true := by
  obtain ⟨⟨_, _, horizontal⟩, _, _, vertical⟩ := whole
  simp only [Rect.isFinite, horizontal.isFinite, vertical.isFinite, Bool.and_self]

theorem IsWhole.within {around rect : Rect} (whole : IsWhole around) (whole' : IsWhole rect) :
    IsWhole (within around rect) := by
  obtain ⟨⟨_, _, horizontal⟩, _, _, vertical⟩ := whole.normalized
  obtain ⟨⟨_, _, horizontal'⟩, _, _, vertical'⟩ := whole'.normalized
  rcases within_cases around rect with none | ⟨-, left, top, width, height⟩
  · rw [none]
    have nothing : WholeSide 0 0 0 0 := ⟨by decide, by decide, by decide⟩
    exact ⟨⟨0, 0, nothing⟩, 0, 0, nothing⟩
  · unfold IsWhole
    rw [left, top, width, height]
    exact ⟨⟨_, _, horizontal.common horizontal'⟩, _, _, vertical.common vertical'⟩

theorem undistorted_of_whole (size : Viewport) {around rect : Rect} (whole : IsWhole around)
    (whole' : IsWhole rect) : Undistorted size (some around) rect := by
  obtain ⟨⟨_, _, horizontal⟩, _, _, vertical⟩ := whole.normalized
  obtain ⟨⟨_, _, horizontal'⟩, _, _, vertical'⟩ := whole'.normalized
  rcases within_cases around rect with none | ⟨-, left, top, width, height⟩
  · refine .inl fun x y => ?_
    rw [none]
    exact Headless.not_covers_zero size x y
  · have right : (within around rect).right.value =
        (around.normalized.right.min rect.normalized.right).value := by
      rw [Rect.right, left, width]
      exact horizontal.common_far horizontal'
    have bottom : (within around rect).bottom.value =
        (around.normalized.bottom.min rect.normalized.bottom).value := by
      rw [Rect.bottom, top, height]
      exact vertical.common_far vertical'
    exact .inr ⟨whole.isFinite, whole'.isFinite, Nat.le_of_eq (Rect.snap_congr right _),
      Nat.le_of_eq (Rect.snap_congr bottom _)⟩

/-! ### Nested clips -/

/-- What a call makes of the rectangles whose clips are open. -/
def Call.reopen (rects : List Rect) : Call → List Rect
  | mark _ => rects
  | pushClip rect => rects ++ [rect]
  | popClip => rects.dropLast

/-- The rectangles whose clips are open after these calls, the outermost one first. -/
def openRects (calls : List Call) : List Rect := calls.foldl Call.reopen []

theorem clips_of_runAll {calls : List Call} {r r' : Recorder} {rects : List Rect}
    (clips : r.clips = openClips rects) (ran : runAll calls r = (none, r')) :
    r'.clips = openClips (calls.foldl Call.reopen rects) := by
  induction calls generalizing r rects with
  | nil =>
    obtain rfl : r = r' := (Prod.mk.inj ran).2
    exact clips
  | cons call rest ih =>
    rw [List.foldl_cons]
    cases call with
    | mark m =>
      refine ih ?_ ran
      rw [Mark.run_eq]
      exact clips
    | pushClip rect =>
      refine ih ?_ ran
      have innermost : r.clips.head? = effective rects := by rw [clips, head?_openClips]
      rw [Call.reopen, openClips_concat, nestedClip_eq innermost, ← clips]
      rfl
    | popClip =>
      rcases List.eq_nil_or_concat rects with rfl | ⟨outer, rect, rfl⟩
      · have none : r.clips = [] := clips
        simp [runAll, Call.run, popClip, none] at ran
      · rw [List.concat_eq_append] at clips ⊢
        have innermost : (openClips outer).head? = effective outer := head?_openClips outer
        rw [openClips_concat, nestedClip_eq innermost] at clips
        have popped : r.popClip = .ok { r with clips := openClips outer } := by
          simp [popClip, clips]
        simp only [runAll, Call.run, popped] at ran
        rw [Call.reopen, List.dropLast_concat]
        exact ih rfl ran

/-- No clip was distorted when it was opened inside those before it. -/
def AllUndistorted (size : Viewport) (rects : List Rect) : Prop :=
  ∀ enclosing rect rest, rects = enclosing ++ rect :: rest →
    Undistorted size (effective enclosing) rect

/-- A pixel that the innermost clip leaves lies in all open rectangles, and in their clips. -/
theorem covers_of_effective {size : Viewport} {rects : List Rect}
    (undistorted : AllUndistorted size rects) {x y : Nat}
    (left : clipCovers size (effective rects) x y = true) :
    ∀ rect ∈ rects ++ openClips rects, covers size rect x y = true := by
  induction rects using List.reverseRecOn with
  | nil =>
    intro rect among
    simp [openClips, effective] at among
  | append_singleton rects rect ih =>
    have innermost : (openClips rects).head? = effective rects := head?_openClips rects
    have shrinks := (shrinks_iff size (openClips rects) rect).2 (by
      rw [innermost]
      exact undistorted rects rect [] rfl)
    rw [nestedClip_eq innermost] at left
    obtain ⟨-, around, here⟩ := shrinks x y left
    rw [innermost] at around
    have outer := ih (fun enclosing other rest split =>
      undistorted enclosing other (rest ++ [rect]) (by simp [split])) around
    rw [openClips_concat, nestedClip_eq innermost]
    intro other among
    simp only [Option.toList_some, List.mem_append, List.mem_singleton] at among
    rcases among with (earlier | rfl) | rfl | clip
    · exact outer other (List.mem_append_left _ earlier)
    · exact here
    · exact left
    · exact outer other (List.mem_append_right _ clip)

theorem isWhole_effective {rects : List Rect} (whole : ∀ rect ∈ rects, IsWhole rect) :
    ∀ clip ∈ effective rects, IsWhole clip := by
  cases rects with
  | nil => simp [effective]
  | cons outermost inner =>
    intro clip innermost
    obtain rfl : inner.foldl within outermost.normalized = clip := Option.some.inj innermost
    refine List.foldlRecOn inner within (whole _ (.head _)).normalized ?_
    exact fun around kept rect among => kept.within (whole rect (.tail _ among))

theorem allUndistorted_of_whole (size : Viewport) {rects : List Rect}
    (whole : ∀ rect ∈ rects, IsWhole rect) : AllUndistorted size rects := by
  rintro enclosing rect rest rfl
  cases clip : effective enclosing with
  | none => trivial
  | some around =>
    refine undistorted_of_whole size ?_ (whole rect (by simp))
    exact isWhole_effective (fun other among => whole other (by simp [among])) around clip

/-- Drawn on a frame of this size, the item changes no pixel that one of the rectangles does not
cover. A callback may do as it likes, so none is attached. -/
def DrawnWithin (size : Viewport) (rects : List Rect) (item : DrawItem) : Prop :=
  ∀ (ω φ τ : Type) (report : LogRecord → ω → ω)
    (invoke : φ → Headless.Frame → FunctorInfo → StateM ω (Headless.Frame × Completion))
    (perform : τ → StateM ω Completion) (registry : Registry Headless.Layer φ),
    (∀ id, item.op = .functor id → registry.functors.get? id = none) →
    ∀ (name : String) (list : ListId) (target : Target) (f : Headless.Frame)
      (d : Headless.Device ω), f.size = size →
      (Context.drawItem (Headless.host report invoke perform) name registry list target f
        item).Ensures d fun f' _ => ∀ x y, (∃ rect ∈ rects, covers size rect x y = false) →
          f'.target.pixel? x y = f.target.pixel? x y

theorem drawnWithin {size : Viewport} {rects : List Rect} (undistorted : AllUndistorted size rects)
    {item : DrawItem} (clip : item.clip = effective rects) :
    DrawnWithin size (rects ++ openClips rects) item := by
  intro ω φ τ report invoke perform registry plain name list target f d fits
  refine (Headless.drawItem_shades plain name list target f d).mono fun f' d' drawn => ?_
  rintro x y ⟨rect, among, excluded⟩
  have spared : clipCovers f.size item.clip x y = false := by
    rw [fits, clip, Bool.eq_false_iff]
    intro left
    rw [covers_of_effective undistorted left rect among] at excluded
    simp at excluded
  rw [drawn.1.pixel]
  simp only [Headless.shade, spared, Bool.false_eq_true, if_false, ite_self]
  exact Option.map_id'

/-- **Nested clips shrink just where their far edges are kept.** After any calls, a clip that is
opened covers no pixel beyond the clip before it and the rectangle it is opened for if and only if
its far edges are undistorted. Where that was so of all open clips, no operation that is recorded
now changes a pixel that one of their rectangles or one of the clips excludes. It is so of all
rectangles with whole edges. -/
theorem nested_clips_shrink_iff {calls : List Call} {r : Recorder}
    (recorded : runAll calls .empty = (none, r)) (size : Viewport) :
    (∀ rect, Shrinks size r.clips.head? rect (nestedClip r.clips rect) ↔
      Undistorted size r.clips.head? rect) ∧
    (AllUndistorted size (openRects calls) → ∀ (m : Mark) (item : DrawItem),
      (m.run r).items = r.items ++ [item] → DrawnWithin size (openRects calls ++ r.clips) item) ∧
    ((∀ rect ∈ openRects calls, IsWhole rect) → AllUndistorted size (openRects calls)) := by
  refine ⟨shrinks_iff size r.clips, fun undistorted m item added => ?_,
    allUndistorted_of_whole size⟩
  have clips : r.clips = openClips (openRects calls) := clips_of_runAll rfl recorded
  have innermost : item.clip = effective (openRects calls) := by
    rw [Mark.run_eq, List.append_cancel_left_eq] at added
    rw [← head?_openClips, ← clips]
    unfold Mark.items at added
    cases op : m.op? with
    | none => simp [op] at added
    | some op' =>
      rw [op, Option.map_some, Option.toList_some, List.singleton_inj] at added
      rw [← added]
  rw [clips]
  exact drawnWithin undistorted innermost

/-- Two overlapping squares, and a target they do not fill. -/
theorem nested_clips_shrink_iff_squares :
    let calls : List Call := [.pushClip ⟨0, 0, 4, 4⟩, .pushClip ⟨2, 2, 4, 4⟩]
    let r : Recorder := ⟨[], [⟨2, 2, 2, 2⟩, ⟨0, 0, 4, 4⟩]⟩
    runAll calls .empty = (none, r) ∧
    (∀ rect ∈ openRects calls, IsWhole rect) ∧
    AllUndistorted ⟨8, 8⟩ (openRects calls) ∧
    DrawnWithin ⟨8, 8⟩ (openRects calls ++ r.clips) ⟨.clear .white, some ⟨2, 2, 2, 2⟩⟩ ∧
    Shrinks ⟨8, 8⟩ (some ⟨2, 2, 2, 2⟩) ⟨3, 3, 4, 4⟩ ⟨3, 3, 1, 1⟩ := by
  intro calls r
  have recorded : runAll calls .empty = (none, r) := by decide +kernel
  obtain ⟨opened, drawn, whole⟩ := nested_clips_shrink_iff recorded ⟨8, 8⟩
  have outer : WholeSide 0 4 0 4 := ⟨by decide +kernel, by decide +kernel, by decide⟩
  have inner : WholeSide 2 4 2 6 := ⟨by decide +kernel, by decide +kernel, by decide⟩
  have edges : ∀ rect ∈ openRects calls, IsWhole rect := by
    intro rect among
    change rect ∈ [⟨0, 0, 4, 4⟩, ⟨2, 2, 4, 4⟩] at among
    simp only [List.mem_cons, List.not_mem_nil, or_false] at among
    rcases among with rfl | rfl
    · exact ⟨⟨_, _, outer⟩, _, _, outer⟩
    · exact ⟨⟨_, _, inner⟩, _, _, inner⟩
  refine ⟨recorded, edges, whole edges, drawn (whole edges) (.clearTo .white) _ rfl, ?_⟩
  have third : nestedClip r.clips ⟨3, 3, 4, 4⟩ = ⟨3, 3, 1, 1⟩ := by decide +kernel
  rw [← third]
  exact (opened ⟨3, 3, 4, 4⟩).2 (.inr (by decide +kernel))

/-- A rectangle that begins a hair's breadth inside the first column. -/
def hairInside : Rect := ⟨.ofBits 0x34c00000, 0, 10, 1⟩

/-- A rectangle that ends a hair's breadth before the middle of the third column. -/
def hairShort : Rect := ⟨0, 0, .ofBits 0x401fffff, 1⟩

/-- The common part of the two covers the third column, which the second one excludes. -/
theorem hair_clip_grows :
    let r : Recorder := ⟨[], [hairInside]⟩
    runAll [.pushClip hairInside] .empty = (none, r) ∧
    hairInside.isFinite = true ∧ hairShort.isFinite = true ∧
    covers ⟨3, 1⟩ hairShort 2 0 = false ∧
    covers ⟨3, 1⟩ (nestedClip r.clips hairShort) 2 0 = true ∧
    ((Mark.clearTo .white).run (r.pushClip hairShort)).items.map (fun item =>
      (Headless.Frame.drawOp ⟨.ofSize 3 1, .ofSize 3 1⟩ item).target.pixel? 2 0) =
        [some Color.white.quantize] ∧
    (Bitmap.ofSize 3 1).pixel? 2 0 = some .transparent := by
  decide +kernel

end Recorder

end RenderRelay
