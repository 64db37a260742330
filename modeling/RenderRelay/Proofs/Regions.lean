import RenderRelay.Proofs.Gpu.Scissors
import RenderRelay.Proofs.Recovery.Twins
import RenderRelay.Proofs.Repaint.Outcome

/-!
Regions on targets. Edges are moved into the target one by one, and what is left of a region are
just the pixels that it shares with the target (`clipTo_exact`). A region that leaves out no pixel
covers the target; a box is said to cover it when clipping leaves all of it, which no clipping does
where there is nothing to leave, and the box that is made for a target ends where its own edges do
(`covers_exact`).
-/

namespace RenderRelay

namespace PixelBox

/-- A box that has a column and a row holds its first and its last pixel. -/
theorem corners_of_not_isEmpty {b : PixelBox} (full : b.isEmpty = false) :
    b.contains b.x0 b.y0 = true ∧ b.contains (b.x1 - 1) (b.y1 - 1) = true := by
  simp only [isEmpty, Bool.or_eq_false_iff, decide_eq_false_iff_not] at full
  simp only [contains, Bool.and_eq_true, decide_eq_true_eq]
  omega

theorem ofSize_contains {size : Viewport} {x y : Nat} :
    (ofSize size.width size.height).contains x y = true ↔ x < size.width ∧ y < size.height := by
  simp only [ofSize, contains, Nat.zero_le, decide_true, Bool.true_and, Bool.and_true,
    Bool.and_eq_true]
  exact Iff.and decide_eq_true_iff decide_eq_true_iff

/-- Two boxes of the same pixels, of which one has any, are the same. -/
theorem eq_of_contains {a b : PixelBox} (full : a.isEmpty = false)
    (same : ∀ x y, a.contains x y = b.contains x y) : a = b := by
  have full' : b.isEmpty = false := by
    rw [Bool.eq_false_iff]
    intro empty
    have first := (corners_of_not_isEmpty full).1
    rw [same] at first
    simp only [isEmpty, contains, Bool.or_eq_true, Bool.and_eq_true,
      decide_eq_true_eq] at empty first
    omega
  -- each box holds the corners of the other
  have corners := corners_of_not_isEmpty full
  have corners' := corners_of_not_isEmpty full'
  rw [same, same] at corners
  rw [← same, ← same] at corners'
  obtain ⟨x0, y0, x1, y1⟩ := a
  obtain ⟨x0', y0', x1', y1'⟩ := b
  simp only [contains, isEmpty, Bool.and_eq_true, decide_eq_true_eq, Bool.or_eq_false_iff,
    decide_eq_false_iff_not] at corners corners' full full'
  simp only [PixelBox.mk.injEq]
  omega

end PixelBox

namespace Damage

variable {size : Viewport}

/-! ### Clipping -/

theorem nonempty_of_clipTo {d : Damage} {area : PixelBox} (clipped : d.clipTo size = some area) :
    area.isEmpty = false := by
  cases d with
  | whole =>
    obtain ⟨rfl, full⟩ := PixelBox.nonempty?_eq_some.1 clipped
    exact full
  | box b =>
    unfold clipTo at clipped
    simp only at clipped
    split at clipped
    · simp at clipped
    · obtain ⟨rfl, full⟩ := PixelBox.nonempty?_eq_some.1 clipped
      exact full

/-- **What clipping leaves are the pixels that the region shares with the target.** -/
theorem contains_clipTo {d : Damage} {area : PixelBox} (clipped : d.clipTo size = some area)
    (x y : Nat) : area.contains x y =
      ((PixelBox.ofSize size.width size.height).contains x y && d.contains x y) := by
  cases d with
  | whole =>
    rw [← (PixelBox.nonempty?_eq_some.1 clipped).1]
    exact (Bool.and_true _).symm
  | box b =>
    have pixels := any_contains_clipTo b size x y
    rwa [clipped, Option.any_some] at pixels

theorem clipTo_within {d : Damage} {area : PixelBox} (clipped : d.clipTo size = some area) :
    area.Within size := by
  have full := nonempty_of_clipTo clipped
  have last := contains_of_clipTo clipped (PixelBox.corners_of_not_isEmpty full).2
  rw [PixelBox.ofSize_contains] at last
  simp only [PixelBox.isEmpty, Bool.or_eq_false_iff, decide_eq_false_iff_not] at full
  constructor <;> omega

theorem isSome_clipTo {d : Damage} : (d.clipTo size).isSome = true ↔ d.Meets size := by
  rw [← not_iff_not, ← clipTo_eq_none_iff, Bool.not_eq_true, Option.isSome_eq_false_iff,
    Option.isNone_iff_eq_none]

/-- **Clipping is exact.** Something is left of a region just if it shares a pixel with the target;
what is left lies on the target, is not empty and has just the pixels that they share; and more is
left of a region than of every part of it. -/
theorem clipTo_exact (d : Damage) (size : Viewport) :
    ((d.clipTo size).isSome = true ↔ ∃ x y : Nat, (x < size.width ∧ y < size.height) ∧
      d.contains x y = true) ∧
    (∀ area, d.clipTo size = some area → area.isEmpty = false ∧ area.Within size ∧
      ∀ x y, area.contains x y = true ↔ (x < size.width ∧ y < size.height) ∧
        d.contains x y = true) ∧
    ∀ part : Damage, (∀ x y, part.contains x y = true → d.contains x y = true) →
      ∀ area, part.clipTo size = some area → ∃ area', d.clipTo size = some area' ∧
        ∀ x y, area.contains x y = true → area'.contains x y = true := by
  have pixels {e : Damage} {area : PixelBox} (clipped : e.clipTo size = some area) (x y : Nat) :
      area.contains x y = true ↔ (x < size.width ∧ y < size.height) ∧ e.contains x y = true := by
    rw [contains_clipTo clipped, Bool.and_eq_true, PixelBox.ofSize_contains]
  refine ⟨?_, fun area clipped => ?_, fun part less area clipped => ?_⟩
  · rw [isSome_clipTo]
    simp only [Meets, PixelBox.ofSize_contains]
  · exact ⟨nonempty_of_clipTo clipped, clipTo_within clipped, pixels clipped⟩
  · obtain ⟨x, y, inside, there⟩ := isSome_clipTo.1 (Option.isSome_of_eq_some clipped)
    obtain ⟨area', clipped'⟩ := Option.isSome_iff_exists.1
      (isSome_clipTo.2 ⟨x, y, inside, less x y there⟩)
    refine ⟨area', clipped', fun x y kept => ?_⟩
    obtain ⟨inside, there⟩ := (pixels clipped x y).1 kept
    exact (pixels clipped' x y).2 ⟨inside, less x y there⟩

/-- A box that sticks out of a target on the left, and a part of it above the last row. -/
theorem clipTo_exact_sticking_out :
    (box ⟨-3, 1, 2, 9⟩).clipTo ⟨4, 3⟩ = some ⟨0, 1, 2, 3⟩ ∧
    (∀ x y : Nat, (PixelBox.mk 0 1 2 3).contains x y = true ↔ (x < 4 ∧ y < 3) ∧
      (box ⟨-3, 1, 2, 9⟩).contains x y = true) ∧
    ∃ area', (box ⟨-3, 1, 2, 9⟩).clipTo ⟨4, 3⟩ = some area' ∧
      ∀ x y, (PixelBox.mk 0 1 2 2).contains x y = true → area'.contains x y = true := by
  obtain ⟨-, exact, mono⟩ := clipTo_exact (box ⟨-3, 1, 2, 9⟩) ⟨4, 3⟩
  refine ⟨by decide, (exact ⟨0, 1, 2, 3⟩ (by decide)).2.2,
    mono (box ⟨-9, 1, 2, 2⟩) (fun x y there => ?_) ⟨0, 1, 2, 2⟩ (by decide)⟩
  simp only [contains, DamageBox.contains, Bool.and_eq_true, decide_eq_true_eq] at there ⊢
  omega

/-! ### Covering -/

def LeavesNone (d : Damage) (size : Viewport) : Prop :=
  ∀ x y : Nat, x < size.width → y < size.height → d.contains x y = true

/-- A region that leaves out none of a target leaves out none of a smaller one. -/
theorem LeavesNone.mono {d : Damage} {smaller : Viewport} (all : d.LeavesNone size)
    (columns : smaller.width ≤ size.width) (rows : smaller.height ≤ size.height) :
    d.LeavesNone smaller :=
  fun x y left above => all x y (by omega) (by omega)

/-- On a target with pixels, a region covers what it leaves none of. -/
theorem covers_iff {d : Damage} (reads : d = .whole ∨ size.isEmpty = false) :
    d.covers size = true ↔ d.LeavesNone size := by
  obtain rfl | ⟨b, rfl⟩ : d = .whole ∨ ∃ b, d = .box b := by cases d <;> simp
  · exact iff_of_true rfl fun _ _ _ _ => rfl
  have full : size.isEmpty = false := reads.resolve_left (by simp)
  have kept : (box b).covers size = true ↔
      (box b).clipTo size = some (.ofSize size.width size.height) := decide_eq_true_iff
  rw [kept]
  constructor
  · intro clipped x y left above
    have pixel := contains_clipTo clipped x y
    rw [PixelBox.ofSize_contains.2 ⟨left, above⟩, Bool.true_and] at pixel
    exact pixel.symm
  · intro all
    simp only [Viewport.isEmpty, Bool.or_eq_false_iff, decide_eq_false_iff_not] at full
    have corner : 0 < size.width ∧ 0 < size.height := by omega
    obtain ⟨area, clipped⟩ := Option.isSome_iff_exists.1 (isSome_clipTo (d := box b).2
      ⟨0, 0, PixelBox.ofSize_contains.2 corner, all 0 0 corner.1 corner.2⟩)
    rw [clipped]
    congr 1
    refine PixelBox.eq_of_contains (nonempty_of_clipTo clipped) fun x y => ?_
    rw [contains_clipTo clipped, Bool.and_eq_left_iff_imp, PixelBox.ofSize_contains]
    exact fun inside => all x y inside.1 inside.2

/-- The box that is made for a target leaves none of it as long as its edges reach. -/
theorem leavesNone_ofViewport (full : size.isEmpty = false) :
    (box (.ofViewport size)).LeavesNone size ↔
      size.width ≤ DamageBox.edgeLimit ∧ size.height ≤ DamageBox.edgeLimit := by
  simp only [Viewport.isEmpty, Bool.or_eq_false_iff, decide_eq_false_iff_not] at full
  simp only [LeavesNone, contains, DamageBox.contains, Bool.and_eq_true, decide_eq_true_eq]
  simp only [DamageBox.ofViewport]
  constructor
  · intro all
    -- the last pixel of the target
    have last := all (size.width - 1) (size.height - 1) (by omega) (by omega)
    omega
  · intro reach x y left above
    omega

/-- **Covering, by pixels.** On a target with pixels a region covers just the targets that it leaves
no pixel of, and everything covers every target. The box that is made for a target with pixels
covers it just if no side is longer than the largest edge of a box. A region that covers a target
covers every target with pixels that is no larger. -/
theorem covers_exact (d : Damage) (size : Viewport) :
    (d = .whole ∨ size.isEmpty = false → (d.covers size = true ↔ d.LeavesNone size)) ∧
    (size.isEmpty = false → ((box (.ofViewport size)).covers size = true ↔
      size.width ≤ DamageBox.edgeLimit ∧ size.height ≤ DamageBox.edgeLimit)) ∧
    (d.covers size = true → ∀ smaller : Viewport, d = .whole ∨ smaller.isEmpty = false →
      smaller.width ≤ size.width → smaller.height ≤ size.height → d.covers smaller = true) := by
  refine ⟨covers_iff, fun full => ?_, fun covers smaller reads columns rows => ?_⟩
  · rw [covers_iff (.inr full), leavesNone_ofViewport full]
  · have reads' : d = .whole ∨ size.isEmpty = false := by
      refine reads.imp_right fun full => ?_
      simp only [Viewport.isEmpty, Bool.or_eq_false_iff, decide_eq_false_iff_not] at full ⊢
      omega
    rw [covers_iff reads]
    exact ((covers_iff reads').1 covers).mono columns rows

/-- A target of a hundred by fifty pixels. -/
theorem covers_exact_hundred :
    (box ⟨-1, -1, 101, 51⟩).LeavesNone ⟨100, 50⟩ ∧
    (box (.ofViewport ⟨100, 50⟩)).covers ⟨100, 50⟩ = true ∧
    (box ⟨-1, -1, 101, 51⟩).covers ⟨7, 50⟩ = true := by
  obtain ⟨leaves, made, mono⟩ := covers_exact (box ⟨-1, -1, 101, 51⟩) ⟨100, 50⟩
  refine ⟨(leaves (.inr (by decide))).1 (by decide), (made (by decide)).2 (by decide), ?_⟩
  exact mono (by decide) ⟨7, 50⟩ (.inr (by decide)) (by decide) (by decide)

/-- The box that is made for a target with a longer side leaves out its last column, and a box on a
target without pixels, of which it leaves out none, is not said to cover it. -/
theorem ofViewport_misses_last_column :
    ((box (.ofViewport ⟨0x80000000, 1⟩)).covers ⟨0x80000000, 1⟩ = false ∧
      (box (.ofViewport ⟨0x80000000, 1⟩)).contains 0x7fffffff 0 = false) ∧
    (box ⟨-1, -1, 101, 51⟩).covers ⟨0, 0⟩ = false ∧ (box ⟨-1, -1, 101, 51⟩).LeavesNone ⟨0, 0⟩ := by
  refine ⟨by decide, by decide, fun x _ left => ?_⟩
  exact absurd left (Nat.not_lt_zero x)

end Damage

end RenderRelay
