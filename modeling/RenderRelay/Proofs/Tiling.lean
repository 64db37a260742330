import Mathlib.Data.List.Chain
import Mathlib.Logic.Function.Iterate
import RenderRelay.Proofs.Gpu.Batching
import RenderRelay.Proofs.Recording.Shrinking

/-!
Rectangles side by side. An edge that two rectangles share is snapped to one boundary, whatever was
rounded on the way to it, and snapping never turns two edges round; so of the boundaries of a row
none lies before the one on its left, and the columns between the first and the last belong to just
one rectangle each (`countP_covers`). Pieces may vanish between two boundaries, and the last edge may
be infinite. A colour laid over every rectangle of a row is laid over each pixel once.
-/

namespace RenderRelay

namespace Single

theorem le_iff {a b : Single} {u v : Int} (hu : a.value = some u) (hv : b.value = some v) :
    a.le b = true ↔ u ≤ v := by
  simp only [le, hu, hv, decide_eq_true_eq]

/-- What is at least zero is a number that is not negative. -/
theorem nonneg_of_zero_le {a : Single} (le : Single.le 0 a = true) :
    ∃ v, a.value = some v ∧ 0 ≤ v := by
  cases place : a.value with
  | none => simp [Single.le, place] at le
  | some v => exact ⟨v, rfl, (le_iff value_zero place).1 le⟩

theorem not_lt_zero_of_zero_le {a : Single} (le : Single.le 0 a = true) : a.lt 0 = false := by
  obtain ⟨v, place, nonneg⟩ := nonneg_of_zero_le le
  rw [Bool.eq_false_iff, Ne, lt_iff place value_zero]
  omega

end Single

/-! ### Rows -/

namespace Rect

/-- Finite, with extents that are not negative. -/
structure Upright (r : Rect) : Prop where
  finite : r.isFinite = true
  width : Single.le 0 r.width = true
  height : Single.le 0 r.height = true

/-- The second rectangle begins where the first one ends, in the same rows. -/
structure Adjoins (r s : Rect) : Prop where
  edge : (r.right == s.x) = true
  top : (r.y == s.y) = true
  height : (r.height == s.height) = true

/-- Rectangles side by side, from left to right. -/
structure Row (rects : List Rect) : Prop where
  upright : ∀ r ∈ rects, r.Upright
  adjoins : rects.IsChain Adjoins

theorem Row.tail {r : Rect} {rects : List Rect} (row : Row (r :: rects)) : Row rects :=
  ⟨fun s mem => row.upright s (.tail _ mem), row.adjoins.tail⟩

theorem Upright.normalized {r : Rect} (upright : r.Upright) : r.normalized = r :=
  normalized_of_not_lt (Single.not_lt_zero_of_zero_le upright.width)
    (Single.not_lt_zero_of_zero_le upright.height)

theorem Upright.snap_x_le {r : Rect} (upright : r.Upright) (limit : Nat) :
    snap limit r.x ≤ snap limit r.right := by
  have finite := upright.finite
  simp only [isFinite, Bool.and_eq_true] at finite
  obtain ⟨⟨⟨finiteX, -⟩, finiteWidth⟩, -⟩ := finite
  obtain ⟨u, place, -⟩ := Single.isFinite_iff.1 finiteX
  obtain ⟨v, extent, nonneg⟩ := Single.nonneg_of_zero_le upright.width
  obtain ⟨w, far, le⟩ := Single.le_value_add finiteX finiteWidth place extent nonneg
  exact snap_mono place far le limit

theorem Adjoins.snap_edge {r s : Rect} (adjoins : r.Adjoins s) (limit : Nat) :
    snap limit r.right = snap limit s.x :=
  snap_congr (Single.value_of_beq adjoins.edge) limit

theorem Adjoins.snap_y {r s : Rect} (adjoins : r.Adjoins s) (limit : Nat) :
    snap limit r.y = snap limit s.y :=
  snap_congr (Single.value_of_beq adjoins.top) limit

theorem Adjoins.snap_bottom {r s : Rect} (adjoins : r.Adjoins s) (limit : Nat) :
    snap limit r.bottom = snap limit s.bottom :=
  snap_congr (Single.value_add_congr (Single.value_of_beq adjoins.top)
    (Single.value_of_beq adjoins.height)) limit

theorem Row.snap_x_le_last {first : Rect} {rest : List Rect} (row : Row (first :: rest))
    (limit : Nat) : snap limit first.x ≤ snap limit (rest.getLastD first).right := by
  induction rest generalizing first with
  | nil => exact (row.upright first (.head _)).snap_x_le limit
  | cons second rest ih =>
    calc
      snap limit first.x ≤ snap limit first.right := (row.upright first (.head _)).snap_x_le limit
      _ = snap limit second.x := (List.isChain_cons_cons.1 row.adjoins).1.snap_edge limit
      _ ≤ snap limit (rest.getLastD second).right := ih row.tail
      _ = snap limit ((second :: rest).getLastD first).right := by rw [List.getLastD_cons]

end Rect

namespace Headless

open Rect (Upright Adjoins Row snap)

/-! ### Pixels of a row -/

/-- The pixel lies in the rows of the first rectangle, and from its left edge on before the right
edge of the last. -/
def spans (size : Viewport) (first last : Rect) (x y : Nat) : Bool :=
  (snap size.height first.y ≤ y && y < snap size.height first.bottom) &&
    (snap size.width first.x ≤ x && x < snap size.width last.right)

variable {size : Viewport} {r s last : Rect} {x y : Nat}

theorem spans_iff : spans size r s x y = true ↔
    (snap size.height r.y ≤ y ∧ y < snap size.height r.bottom) ∧
      snap size.width r.x ≤ x ∧ x < snap size.width s.right := by
  simp only [spans, Bool.and_eq_true, decide_eq_true_eq]

theorem covers_eq_spans (upright : r.Upright) : covers size r x y = spans size r r x y := by
  rw [Bool.eq_iff_iff, covers_iff, spans_iff, upright.normalized]
  simp only [upright.finite, true_and]
  exact and_comm

/-- Between the edges of a row, a pixel is left of a shared edge or right of it. -/
theorem spans_split (adjoins : r.Adjoins s) (le : snap size.width r.x ≤ snap size.width r.right)
    (le' : snap size.width s.x ≤ snap size.width last.right) :
    (spans size r last x y).toNat = (spans size r r x y).toNat + (spans size s last x y).toNat := by
  have edge := adjoins.snap_edge size.width
  have top := adjoins.snap_y size.height
  have bottom := adjoins.snap_bottom size.height
  have left : spans size r r x y = true ↔ spans size r last x y = true ∧
      x < snap size.width r.right := by
    rw [spans_iff, spans_iff]
    omega
  have right : spans size s last x y = true ↔ spans size r last x y = true ∧
      ¬x < snap size.width r.right := by
    rw [spans_iff, spans_iff]
    omega
  by_cases before : x < snap size.width r.right
  · have out : spans size s last x y = false := by
      rw [Bool.eq_false_iff, Ne, right]
      exact fun inside => inside.2 before
    have same : spans size r r x y = spans size r last x y := by
      rw [Bool.eq_iff_iff, left]
      exact and_iff_left before
    rw [out, same, Bool.toNat_false, Nat.add_zero]
  · have out : spans size r r x y = false := by
      rw [Bool.eq_false_iff, Ne, left]
      exact fun inside => before inside.2
    have same : spans size s last x y = spans size r last x y := by
      rw [Bool.eq_iff_iff, right]
      exact and_iff_left before
    rw [out, same, Bool.toNat_false, Nat.zero_add]

/-- **Every pixel of a row lies in just one of its rectangles**, and no other pixel in any. -/
theorem countP_covers {first : Rect} {rest : List Rect} (row : Row (first :: rest))
    (size : Viewport) (x y : Nat) :
    (first :: rest).countP (covers size · x y) =
      (spans size first (rest.getLastD first) x y).toNat := by
  induction rest generalizing first with
  | nil =>
    rw [List.countP_cons, List.countP_nil, covers_eq_spans (row.upright first (.head _)),
      List.getLastD_nil]
    cases spans size first first x y <;> rfl
  | cons second rest ih =>
    have upright := row.upright first (.head _)
    have adjoins := (List.isChain_cons_cons.1 row.adjoins).1
    rw [List.countP_cons, ih row.tail, List.getLastD_cons,
      spans_split adjoins (upright.snap_x_le _) (row.tail.snap_x_le_last _),
      covers_eq_spans upright, Nat.add_comm]
    cases spans size first first x y <;> rfl

/-! ### Fills -/

/-- Each rectangle filled with one colour, all under one clip. -/
def fills (rects : List Rect) (color : Color) (clip : Option Rect) : List DrawItem :=
  rects.map fun r => ⟨.fill r color, clip⟩

section Fills

variable {ω φ τ : Type} {report : LogRecord → ω → ω} {color : Color}

theorem drawItems_fills (H : Host (backend report) φ τ) (name : String)
    (registry : Registry Layer φ) (list : ListId) (target : Target) (rects : List Rect)
    (color : Color) (clip : Option Rect) (f : Frame) :
    Context.drawItems H name registry list target (fills rects color clip) f =
      pure ((fills rects color clip).foldl Frame.drawOp f) := by
  induction rects generalizing f with
  | nil => rfl
  | cons r rest ih => exact ih (f.drawOp ⟨.fill r color, clip⟩)

/-- A colour is laid over a pixel as often as rectangles cover it. -/
theorem fills_changed (shows : color.isOpaque = false) (rects : List Rect) (clip : Option Rect)
    (f : Frame) :
    f.Changed ((fills rects color clip).foldl Frame.drawOp f) fun x y p =>
      if clipCovers f.size clip x y then
        color.overPixel^[rects.countP (covers f.size · x y)] p
      else p := by
  induction rects generalizing f with
  | nil => exact (Frame.Changed.refl f).congr fun x y p => by simp
  | cons r rest ih =>
    have first := f.drawOp_fill r color clip
    have later := ih (f.drawOp ⟨.fill r color, clip⟩)
    rw [first.size] at later
    refine (first.trans later).congr fun x y p => ?_
    cases clipped : clipCovers f.size clip x y
    · simp
    · cases covered : covers f.size r x y <;> simp [covered, shows]

end Fills

/-- **Rectangles side by side tile their span.** Of two rectangles of which one begins where the
other ends, no pixel lies in both, and every pixel between the outer edges lies in just one. Filling
a row of any length, with a colour that something shows through, lays the colour once over each
pixel of the damage and the clip between the row's outer edges, and over no other. -/
theorem rows_tile {ω φ τ : Type} {report : LogRecord → ω → ω} (H : Host (backend report) φ τ) :
    (∀ a b : Rect, a.Upright → b.Upright → a.Adjoins b → ∀ (size : Viewport) (x y : Nat),
      ¬(covers size a x y = true ∧ covers size b x y = true) ∧
      (spans size a b x y = true → (covers size a x y ^^ covers size b x y) = true)) ∧
    ∀ (first : Rect) (rest : List Rect), Row (first :: rest) → ∀ color : Color,
      color.isOpaque = false → ∀ (clip : Option Rect) (name : String)
        (registry : Registry Layer φ) (list : ListId) (target : Target) (f : Frame) (d : Device ω),
      ∃ f', (Context.drawItems H name registry list target
          (fills (first :: rest) color clip) f).runOn d = (.ok f', d) ∧
        f'.damage = f.damage ∧ f'.size = f.size ∧
        ∀ x y, ((first :: rest).countP (covers f.size · x y) =
            if spans f.size first (rest.getLastD first) x y then 1 else 0) ∧
          f'.target.pixel? x y = (f.target.pixel? x y).map fun p =>
            if f.damage.contains x y && clipCovers f.size clip x y &&
              spans f.size first (rest.getLastD first) x y then color.overPixel p else p := by
  refine ⟨fun a b uprightA uprightB adjoins size x y => ?_,
    fun first rest row color shows clip name registry list target f d => ?_⟩
  · have once : (spans size a b x y).toNat =
        (covers size a x y).toNat + (covers size b x y).toNat := by
      rw [covers_eq_spans uprightA, covers_eq_spans uprightB]
      exact spans_split adjoins (uprightA.snap_x_le _) (uprightB.snap_x_le _)
    revert once
    cases spans size a b x y <;> cases covers size a x y <;> cases covers size b x y <;> simp
  · have changed := fills_changed shows (first :: rest) clip f
    refine ⟨_, ?_, changed.damage, changed.size, fun x y => ?_⟩
    · rw [drawItems_fills, DeviceOp.runOn_pure]
    · have once := countP_covers row f.size x y
      refine ⟨?_, ?_⟩
      · rw [once]
        cases spans f.size first (rest.getLastD first) x y <;> rfl
      · rw [changed.pixel, once]
        congr 1
        funext p
        cases f.damage.contains x y <;> cases clipCovers f.size clip x y <;>
          cases spans f.size first (rest.getLastD first) x y <;> rfl

def halfway : Rect := ⟨.ofRatio false 1 2, 0, 1, 1⟩

def widest : Single := .ofRatio false (0xffffff <<< 104) 1

/-- Next to it a piece that lies between two boundaries, one as wide as can be, and one beyond with
an infinite right edge. -/
def pieces : List Rect :=
  [⟨.ofRatio false 3 2, 0, .ofRatio false 1 4, 1⟩, ⟨.ofRatio false 7 4, 0, widest, 1⟩,
    ⟨widest, 0, widest, 1⟩]

theorem row_pieces : Row (halfway :: pieces) := by
  refine ⟨?_, ?_⟩
  · have all : ∀ r ∈ halfway :: pieces, r.isFinite = true ∧ Single.le 0 r.width = true ∧
        Single.le 0 r.height = true := by decide +kernel
    exact fun r mem => ⟨(all r mem).1, (all r mem).2.1, (all r mem).2.2⟩
  · simp only [pieces, List.isChain_cons_cons, List.isChain_singleton, and_true]
    refine ⟨⟨?_, ?_, ?_⟩, ⟨?_, ?_, ?_⟩, ⟨?_, ?_, ?_⟩⟩ <;> decide +kernel

/-- Grey over white in four columns: the first is left of the row. -/
theorem rows_tile_pieces :
    let grey := Color.ofBytes 128 128 128 128
    let f : Frame := ⟨(Bitmap.ofSize 4 1).fill (.ofSize 4 1) .white, .ofSize 4 1⟩
    (Row (halfway :: pieces) ∧ grey.isOpaque = false) ∧
    (covers ⟨4, 1⟩ halfway 1 0 ^^ covers ⟨4, 1⟩ ⟨.ofRatio false 3 2, 0, .ofRatio false 1 4, 1⟩ 1 0)
      = true ∧
    ∃ f', (Context.drawItems idleHost "" .empty ⟨1⟩ ⟨⟨4, 1⟩, .ofSize 4 1, 0⟩
        (fills (halfway :: pieces) grey none) f).runOn (.start .standard ()) =
          (.ok f', .start .standard ()) ∧
      f'.target.pixel? 0 0 = some ⟨255, 255, 255, 255⟩ ∧
      f'.target.pixel? 3 0 = some ⟨191, 191, 191, 255⟩ := by
  intro grey f
  have shows : grey.isOpaque = false := by decide +kernel
  have upright := row_pieces.upright
  have adjoins := (List.isChain_cons_cons.1 row_pieces.adjoins).1
  obtain ⟨-, between⟩ := (rows_tile idleHost).1 halfway _ (upright _ (.head _))
    (upright _ (.tail _ (.head _))) adjoins ⟨4, 1⟩ 1 0
  obtain ⟨f', drawn, -, -, pixels⟩ := (rows_tile idleHost).2 halfway pieces row_pieces grey shows
    none "" .empty ⟨1⟩ ⟨⟨4, 1⟩, .ofSize 4 1, 0⟩ f (.start .standard ())
  refine ⟨⟨row_pieces, shows⟩, between (by decide +kernel), f', drawn, ?_, ?_⟩
  · rw [(pixels 0 0).2]
    decide +kernel
  · rw [(pixels 3 0).2]
    decide +kernel

end Headless

end RenderRelay
