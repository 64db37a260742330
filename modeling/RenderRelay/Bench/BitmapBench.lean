import RenderRelay.Bitmap

/-!
A bench for bitmaps: operations on bitmaps that are numbered from zero in the order in which they
are made.
-/

namespace RenderRelay.Bench

/-- One operation. -/
inductive BitmapStep where
  | new (width height : Nat)
  | empty
  | clone (bitmap : Nat)
  | fill (bitmap : Nat) (area : PixelBox) (color : Color)
  | blend (bitmap : Nat) (area : PixelBox) (color : Color)
  | blit (bitmap source : Nat) (left top : Int) (area : PixelBox)
  | dump (bitmap : Nat)
  | pixel (bitmap x y : Nat)
  | bounds (bitmap : Nat)
  | same (a b : Nat)

/-- What an operation answers. -/
inductive BitmapAnswer where
  | bitmap (bitmap : Bitmap)
  | index (n : Nat)
  | pixel (pixel : Option Pixel)
  | area (area : PixelBox)
  | truth (value : Bool)
  | fault (fault : Fault)

namespace BitmapStep

def add (m : Bitmap) (ms : Array Bitmap) : BitmapAnswer × Array Bitmap := (.bitmap m, ms.push m)

def missing (n : Nat) (ms : Array Bitmap) : BitmapAnswer := .fault (.indexOutOfBounds ms.size n)

/-- What a bitmap answers, if there is one of that number. -/
def ask (n : Nat) (answer : Bitmap → BitmapAnswer) (ms : Array Bitmap) : BitmapAnswer :=
  match ms[n]? with
  | none => missing n ms
  | some m => answer m

def change (n : Nat) (f : Bitmap → Bitmap) (ms : Array Bitmap) : BitmapAnswer × Array Bitmap :=
  match ms[n]? with
  | none => (missing n ms, ms)
  | some m =>
    let m := f m
    (.bitmap m, ms.setIfInBounds n m)

/-- Carries out an operation. A fault leaves the bitmap as it was. -/
def run (step : BitmapStep) (ms : Array Bitmap) : BitmapAnswer × Array Bitmap :=
  match step with
  | new width height => add (.ofSize width height) ms
  | empty => add .empty ms
  | clone n =>
    match ms[n]? with
    | none => (missing n ms, ms)
    | some m => (.index ms.size, ms.push m)
  | fill n area color => change n (·.fill area color) ms
  | blend n area color => change n (·.blend area color) ms
  | blit n source left top area =>
    match ms[source]?, ms[n]? with
    | none, _ => (missing source ms, ms)
    | some _, none => (missing n ms, ms)
    | some source, some m =>
      match m.blit source left top area with
      | .ok m => (.bitmap m, ms.setIfInBounds n m)
      | .error fault => (.fault fault, ms)
  | dump n => (ask n .bitmap ms, ms)
  | pixel n x y => (ask n (fun m => .pixel (m.pixel? x y)) ms, ms)
  | bounds n => (ask n (fun m => .area m.bounds) ms, ms)
  | same a b => (ask a (fun m => ask b (fun other => .truth (m = other)) ms) ms, ms)

def runAll : List BitmapStep → Array Bitmap → List BitmapAnswer
  | [], _ => []
  | first :: rest, ms =>
    let (answer, ms) := first.run ms
    answer :: runAll rest ms

end BitmapStep

end RenderRelay.Bench
