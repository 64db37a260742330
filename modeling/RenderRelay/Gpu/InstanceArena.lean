import RenderRelay.Fault

/-!
Handing out ranges of an instance buffer within a frame. All writes of a frame land before any of
its draws, so no two batches of a frame may share a range.
-/

namespace RenderRelay.Gpu

/-- The size of the buffer, in instances, and the first place that is free in this frame. -/
structure InstanceArena where
  capacity : Nat
  cursor : Nat
  deriving DecidableEq, Inhabited

/-- Where a batch goes. -/
inductive Reservation where
  | within (base : Nat)
  /-- To the start of a new buffer of this size. -/
  | grow (capacity : Nat)
  deriving DecidableEq

namespace InstanceArena

def empty : InstanceArena := ⟨0, 0⟩

def minCapacity : Nat := 64

def wordLimit : Nat := 0x10000000000000000

/-- The least power of two that is at least `n`. -/
def powerAbove (n : Nat) : Nat := if n ≤ 1 then 1 else 1 <<< ((n - 1).log2 + 1)

def rewind (a : InstanceArena) : InstanceArena := { a with cursor := 0 }

/-- Hands out a range for `count` instances. A new buffer has room for all of the frame so far. -/
def reserve (a : InstanceArena) (count : Nat) : Except Fault (Reservation × InstanceArena) :=
  let used := a.cursor + count
  if wordLimit ≤ used then .error .addOverflow
  else if 0 < a.capacity ∧ used ≤ a.capacity then
    .ok (.within a.cursor, { a with cursor := used })
  else if wordLimit ≤ powerAbove used then .error .addOverflow
  else
    let capacity := max (powerAbove used) minCapacity
    .ok (.grow capacity, ⟨capacity, count⟩)

end InstanceArena

end RenderRelay.Gpu
