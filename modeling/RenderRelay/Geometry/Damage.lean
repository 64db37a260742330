import RenderRelay.Geometry.Viewport

/-!
The area a draw has to repaint, and the four integers it travels as in a draw record.
-/

namespace RenderRelay

/-- An integer box in target coordinates, its right and bottom edges outside. -/
structure DamageBox where
  left : Int
  top : Int
  right : Int
  bottom : Int
  deriving DecidableEq, Inhabited

namespace DamageBox

def edgeLimit : Nat := 0x7fffffff

/-- The box of a whole target, as far as its edges reach. -/
def ofViewport (v : Viewport) : DamageBox :=
  ⟨0, 0, (min v.width edgeLimit : Nat), (min v.height edgeLimit : Nat)⟩

def isEmpty (b : DamageBox) : Bool := b.right ≤ b.left || b.bottom ≤ b.top

end DamageBox

/-- What a draw has to repaint. -/
inductive Damage where
  | whole
  | box (b : DamageBox)
  deriving DecidableEq

namespace Damage

instance : Inhabited Damage := ⟨whole⟩

/-- An explicit box, or everything where none is given. -/
def ofBox? : Option DamageBox → Damage
  | none => whole
  | some b => box b

/-- The record that stands for everything. -/
def wholeRecord : DamageBox := ⟨-1, -1, -1, -1⟩

/-- The four integers of a draw record. -/
def encode : Damage → DamageBox
  | whole => wholeRecord
  | box b => b

/-- The damage a draw record asks for. -/
def decode (record : DamageBox) : Damage :=
  if record = wholeRecord then whole else box record

/-- An edge moved into a side of `limit` pixels. -/
def clampEdge (limit : Nat) (edge : Int) : Nat := min edge.toNat limit

/-- The pixels of a target to repaint, if there are any. -/
def clipTo (d : Damage) (v : Viewport) : Option PixelBox :=
  let full := PixelBox.ofSize v.width v.height
  match d with
  | whole => full.nonempty?
  | box b =>
    if b.isEmpty then none
    else full.intersect
      ⟨clampEdge v.width b.left, clampEdge v.height b.top,
        clampEdge v.width b.right, clampEdge v.height b.bottom⟩

def covers (d : Damage) (v : Viewport) : Bool :=
  match d with
  | whole => true
  | box _ => d.clipTo v = some (PixelBox.ofSize v.width v.height)

end Damage

end RenderRelay
