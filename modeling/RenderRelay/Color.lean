import RenderRelay.Single

/-!
Colours with premultiplied alpha and the four-byte pixels they are quantized to.
-/

namespace RenderRelay

/-- A stored pixel: four bytes, the colour bytes already multiplied by alpha. -/
structure Pixel where
  r : UInt8
  g : UInt8
  b : UInt8
  a : UInt8
  deriving DecidableEq, Inhabited

def Pixel.transparent : Pixel := ⟨0, 0, 0, 0⟩

/-- A linear colour; `r`, `g` and `b` are already multiplied by `a`. -/
structure Color where
  r : Single
  g : Single
  b : Single
  a : Single
  deriving DecidableEq, Inhabited

namespace Color

instance : BEq Color where
  beq c d := c.r == d.r && c.g == d.g && c.b == d.b && c.a == d.a

def transparent : Color := ⟨0, 0, 0, 0⟩

def black : Color := ⟨0, 0, 0, 1⟩

def white : Color := ⟨1, 1, 1, 1⟩

/-- The colour of components in the unit range that are not yet multiplied by alpha. -/
def ofStraight (r g b a : Single) : Color :=
  let a := a.clamp 0 1
  ⟨r.clamp 0 1 * a, g.clamp 0 1 * a, b.clamp 0 1 * a, a⟩

/-- A byte as a component in the unit range. -/
def unitOfByte (v : UInt8) : Single := .ofRatio false v.toNat 255

/-- The colour of bytes that are not yet multiplied by alpha. -/
def ofBytes (r g b a : UInt8) : Color :=
  ofStraight (unitOfByte r) (unitOfByte g) (unitOfByte b) (unitOfByte a)

def ofPixel (p : Pixel) : Color :=
  ⟨unitOfByte p.r, unitOfByte p.g, unitOfByte p.b, unitOfByte p.a⟩

/-- The byte nearest to a component held in the unit range. -/
def quantizeChannel (v : Single) : UInt8 :=
  .ofNat ((v.clamp 0 1 * 255).round.toNatWithin 255)

def quantize (c : Color) : Pixel :=
  ⟨quantizeChannel c.r, quantizeChannel c.g, quantizeChannel c.b, quantizeChannel c.a⟩

/-- Nothing below shows through. -/
def isOpaque (c : Color) : Bool := Single.le 1 c.a

def isFinite (c : Color) : Bool :=
  c.r.isFinite && c.g.isFinite && c.b.isFinite && c.a.isFinite

/-- One component of a colour of the given alpha, laid over a component below it. -/
def overChannel (alpha top below : Single) : Single := top + below * (1 - alpha)

def laidOver (c below : Color) : Color :=
  ⟨overChannel c.a c.r below.r, overChannel c.a c.g below.g,
    overChannel c.a c.b below.b, overChannel c.a c.a below.a⟩

/-- A stored pixel after a colour was laid over it. -/
def overPixel (c : Color) (p : Pixel) : Pixel := (c.laidOver (ofPixel p)).quantize

end Color

end RenderRelay
