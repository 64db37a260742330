import RenderRelay.Bitmap

/-!
Pixels in memory. A raw bitmap is a buffer of which nothing is known, not even that it has as many
pixels as its sides promise. Its operations go through an area row by row, work out the index of
each pixel in the arithmetic of addresses, and end in a fault where that overflows or where there is
no pixel at an index.
-/

namespace RenderRelay

structure RawBitmap where
  width : Nat
  height : Nat
  pixels : Array Pixel
  deriving DecidableEq

def Bitmap.raw (m : Bitmap) : RawBitmap := ⟨m.width, m.height, m.pixels⟩

namespace PixelBox

def rows (b : PixelBox) : List Nat := .range' b.y0 b.height

def columns (b : PixelBox) : List Nat := .range' b.x0 b.width

end PixelBox

namespace RawBitmap

/-! ### Accesses -/

def product (a b : Nat) : Except Fault Nat :=
  if a * b < Viewport.addressLimit then .ok (a * b) else .error .multiplyOverflow

def sum (a b : Nat) : Except Fault Nat :=
  if a + b < Viewport.addressLimit then .ok (a + b) else .error .addOverflow

def index (r : RawBitmap) (x y : Nat) : Except Fault Nat := do
  let start ← product y r.width
  sum start x

def read (r : RawBitmap) (i : Nat) : Except Fault Pixel :=
  match r.pixels[i]? with
  | none => .error (.indexOutOfBounds r.pixels.size i)
  | some p => .ok p

def write (r : RawBitmap) (i : Nat) (p : Pixel) : Except Fault RawBitmap :=
  if i < r.pixels.size then .ok { r with pixels := r.pixels.setIfInBounds i p }
  else .error (.indexOutOfBounds r.pixels.size i)

/-- Puts a pixel at all indices from `first` on before `last`. -/
def writeSlice (r : RawBitmap) (first last : Nat) (p : Pixel) : Except Fault RawBitmap :=
  if first ≤ last ∧ last ≤ r.pixels.size then
    .ok { r with pixels := Bitmap.paintRow (fun _ _ => p) first (last - first) r.pixels }
  else .error (.indexOutOfBounds r.pixels.size last)

/-- The distance of a place from a corner, as a coordinate with a sign. -/
def distance (place : Nat) (corner : Int) : Except Fault Int :=
  if Bitmap.offsetLimit ≤ place - corner then .error .subtractOverflow else .ok (place - corner)

/-! ### Operations -/

def ofSize (width height : Nat) : Except Fault RawBitmap := do
  let size ← product width height
  return ⟨width, height, .replicate size .transparent⟩

def bounds (r : RawBitmap) : PixelBox := .ofSize r.width r.height

def pixel (r : RawBitmap) (x y : Nat) : Except Fault (Option Pixel) :=
  if x < r.width ∧ y < r.height then do
    let i ← r.index x y
    let p ← r.read i
    return some p
  else return none

/-- Works on the part of an area that lies in the buffer, if there is one. -/
def onPart (r : RawBitmap) (area : PixelBox) (work : PixelBox → Except Fault RawBitmap) :
    Except Fault RawBitmap :=
  match area.intersect r.bounds with
  | none => return r
  | some inside => work inside

def fillRow (area : PixelBox) (p : Pixel) (r : RawBitmap) (y : Nat) : Except Fault RawBitmap := do
  let first ← r.index area.x0 y
  let last ← sum first area.width
  r.writeSlice first last p

def fill (r : RawBitmap) (area : PixelBox) (c : Color) : Except Fault RawBitmap :=
  r.onPart area fun inside => inside.rows.foldlM (fillRow inside c.quantize) r

def blendPixel (c : Color) (y : Nat) (r : RawBitmap) (x : Nat) : Except Fault RawBitmap := do
  let i ← r.index x y
  let p ← r.read i
  r.write i (c.overPixel p)

def blend (r : RawBitmap) (area : PixelBox) (c : Color) : Except Fault RawBitmap :=
  if c.isOpaque then r.fill area c
  else
    r.onPart area fun inside =>
      inside.rows.foldlM (fun r y => inside.columns.foldlM (blendPixel c y) r) r

/-- Copies to one pixel from row `v` of the source, if that has a pixel for it. -/
def copyPixel (source : RawBitmap) (left v : Int) (y : Nat) (r : RawBitmap) (x : Nat) :
    Except Fault RawBitmap := do
  let u ← distance x left
  if u < 0 ∨ source.width ≤ u then return r
  else
    let i ← r.index x y
    let j ← source.index u.toNat v.toNat
    let p ← source.read j
    r.write i p

/-- Copies to the columns of an area in one row, if the source has a row for it. -/
def copyRow (source : RawBitmap) (left top : Int) (area : PixelBox) (r : RawBitmap) (y : Nat) :
    Except Fault RawBitmap := do
  let v ← distance y top
  if v < 0 ∨ source.height ≤ v then return r
  else area.columns.foldlM (copyPixel source left v y) r

/-- Copies `source`, its corner at `(left, top)`, into an area. -/
def blit (r source : RawBitmap) (left top : Int) (area : PixelBox) : Except Fault RawBitmap :=
  r.onPart area fun inside => inside.rows.foldlM (copyRow source left top inside) r

end RawBitmap

/-! ### Loops -/

/-- A result with a property, or else the fault of a distance that is too large, where that had to
come. -/
inductive Yields {β : Type} (must : Prop) (Q : β → Prop) : Except Fault β → Prop
  | stopped (had : must) : Yields must Q (.error .subtractOverflow)
  | done {b : β} (free : ¬must) (holds : Q b) : Yields must Q (.ok b)

namespace Yields

variable {β : Type} {must must' : Prop} {Q Q' : β → Prop}
  {result : Except Fault β}

theorem of_ok {b : β} (holds : Q b) : Yields False Q (.ok b) := .done not_false holds

theorem ok (yields : Yields False Q result) : ∃ b, result = .ok b ∧ Q b := by
  cases yields with
  | stopped had => exact had.elim
  | done _ holds => exact ⟨_, rfl, holds⟩

theorem imp (yields : Yields must Q result) (same : must ↔ must')
    (weaker : ∀ b, Q b → Q' b) : Yields must' Q' result := by
  cases yields with
  | stopped had => exact .stopped (same.1 had)
  | done free holds => exact .done (mt same.2 free) (weaker _ holds)

/-- A loop that at no number has to end in the fault. -/
theorem never {p : Nat → Prop} (yields : Yields (∃ i, p i ∧ False) Q result) :
    Yields False Q result :=
  yields.imp ⟨fun ⟨_, _, stop⟩ => stop, False.elim⟩ fun _ => id

/-- What comes next decides, after a part that ends in no fault. -/
theorem bind {α : Type} {part : Except Fault α} {a : α} {next : α → Except Fault β}
    (made : part = .ok a) (yields : Yields must Q (next a)) :
    Yields must Q (part >>= next) := by
  rw [made]
  exact yields

/-- **A loop over consecutive numbers.** What is kept from number to number holds at the end, unless
one of the numbers has to end in the fault. -/
theorem foldlM {P : Nat → β → Prop} {stop : Nat → Prop} {work : β → Nat → Except Fault β}
    {first n : Nat} {b : β} (start : P first b)
    (step : ∀ i b, first ≤ i → i < first + n → P i b →
      Yields (stop i) (P (i + 1)) (work b i)) :
    Yields (∃ i, (first ≤ i ∧ i < first + n) ∧ stop i) (P (first + n))
      ((List.range' first n).foldlM work b) := by
  induction n generalizing first b with
  | zero => exact .done (fun ⟨i, within, _⟩ => by omega) start
  | succ n ih =>
    rw [List.range'_succ, List.foldlM_cons]
    have here := step first b (Nat.le_refl _) (by omega) start
    generalize work b first = result at here
    cases here with
    | stopped had => exact .stopped ⟨first, by omega, had⟩
    | @done b' free holds =>
      have rest := ih holds fun i b le lt => step i b (by omega) (by omega)
      rw [show first + 1 + n = first + (n + 1) by omega] at rest
      refine .bind rfl (rest.imp ⟨?_, ?_⟩ fun _ => id)
      · rintro ⟨i, within, stop⟩
        exact ⟨i, by omega, stop⟩
      · rintro ⟨i, within, stop⟩
        rcases Nat.eq_or_lt_of_le within.1 with rfl | later
        · exact absurd stop free
        · exact ⟨i, by omega, stop⟩

end Yields

end RenderRelay
